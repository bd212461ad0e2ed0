import KeyAssertion.Url.Basic

/-
  This file defines how a URL without a scheme is completed by
  another URL, and how a URL is made again when one of its
  parts is replaced.

  Key definitions include:
    * `Url.joinPath`
    * `Url.join`
    * `Url.remake`
-/

namespace KeyAssertion

namespace Url

------------------------------------------------------------
-- Paths
------------------------------------------------------------

/- A path and the parameters behind the first semicolon of its end. -/
def splitParameters (path : List Char) : List Char × List Char :=
  let last := (path.reverse.takeWhile fun c => c != '/').reverse
  let (name, parameters) := splitBefore [';'] last
  (path.take (path.length - last.length) ++ name, parameters.drop 1)

/- The segments of a path up to the last slash. -/
def folder (path : List Char) : List (List Char) :=
  let segments := Text.pieces (fun c => c == '/') path
  if segments.getLast? = some [] then segments else segments.dropLast

/- Segments of which only the first and the last may be empty. -/
def withoutGaps : List (List Char) → List (List Char)
  | [] => []
  | [segment] => [segment]
  | first :: rest =>
      first :: rest.dropLast.filter (fun segment => !segment.isEmpty)
        ++ rest.getLast?.toList

/- Follow a segment, the last one of the path first. -/
def followSegment
    (path : List (List Char))
    (segment : List Char) : List (List Char) :=
  if segment = ['.', '.'] then
    path.drop 1
  else if segment = ['.'] then
    path
  else
    segment :: path

/- The path that a path leads to from another one. -/
def joinPath (base path : List Char) : List Char :=
  let segments := Text.pieces (fun c => c == '/') path
  let segments :=
    if path.head? = some '/' then
      segments
    else
      withoutGaps (folder base ++ segments)
  let followed := segments.foldl followSegment []
  let endsInFolder :=
    segments.getLast? = some ['.'] ∨ segments.getLast? = some ['.', '.']
  let followed := if endsInFolder then [] :: followed else followed
  let joined := ['/'].intercalate followed.reverse
  if joined.isEmpty then ['/'] else joined

------------------------------------------------------------
-- Completion
------------------------------------------------------------

/- A part behind its mark, unless it is empty. -/
def marked
    (mark : Char)
    (part : List Char) : List Char :=
  if part.isEmpty then [] else mark :: part

/-
  The text of a URL with a scheme and a place, in which empty
  parts are left out.
-/
def compose
    (scheme place : String)
    (path parameters query fragment : List Char) : String :=
  let path := path ++ marked ';' parameters
  let path :=
    if path.isEmpty || path.head? = some '/' then path else '/' :: path
  scheme ++ "://" ++ place
    ++ String.ofList (path ++ marked '?' query ++ marked '#' fragment)

/- The text of a URL that has no scheme, completed by another one. -/
def join (base u : Url) : String :=
  let chars (part : Option String) : List Char :=
    (part.getD "").toList
  let (path, parameters) := splitParameters u.path.toList
  let (basePath, baseParameters) := splitParameters base.path.toList
  if u.toText = "" then
    base.toText
  else if u.authority != "" then
    compose base.scheme u.authority path parameters (chars u.query)
      (chars u.fragment)
  else if path.isEmpty && parameters.isEmpty then
    let query :=
      if (chars u.query).isEmpty then base.query else u.query
    compose base.scheme base.authority basePath baseParameters
      (chars query) (chars u.fragment)
  else
    compose base.scheme base.authority (joinPath basePath path)
      parameters (chars u.query) (chars u.fragment)

------------------------------------------------------------
-- Replacement of Parts
------------------------------------------------------------

/- The first part that is longer than a whole text may be. -/
def longPart? (u : Url) : Option String :=
  let parts :=
    [("scheme", u.scheme), ("authority", u.authority),
      ("path", u.path), ("query", u.query.getD ""),
      ("fragment", u.fragment.getD "")]
  (parts.find? fun p => longest < p.2.length).map (·.1)

/- A URL that is made again from its parts. -/
def remake (u : Url) : Except Fault Url := do
  if let some part := u.longPart? then
    throw (.partTooLong part)
  checkPath (u.scheme != "") (u.authority != "") u.path.toList
  return u

end Url

end KeyAssertion
