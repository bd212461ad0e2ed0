import KeyAssertion.Text.Quoted
import KeyAssertion.Url.Host
import KeyAssertion.Url.Port

/-
  This file defines URLs and their reading, in which every part
  is checked and brought into normal form.

  Key definitions include:
    * `Url`
    * `Url.Fault`
    * `Url.parse`
    * `Url.toText`
-/

namespace KeyAssertion

/-
  A URL in normal form, all in ASCII.  The host of an address
  of eight groups has no brackets.
-/
structure Url where
  scheme : String
  userinfo : String
  host : String
  port : Option Int
  path : String
  query : Option String
  fragment : Option String
deriving DecidableEq, Repr, Inhabited

namespace Url

------------------------------------------------------------
-- Faults
------------------------------------------------------------

/- Why a text is no URL. -/
inductive Fault
  | tooLong
  | partTooLong (part : String)
  | unprintable (c : Char) (position : Nat)
  | host (fault : Host.Fault)
  | port (text : String)
  | pathAfterHost
  | pathOfSlashes
  | pathOfColon
deriving DecidableEq, Repr

/- The wording of a fault. -/
def Fault.message : Fault → String
  | .tooLong => "URL too long"
  | .partTooLong part =>
      "URL component " ++ Text.quoted part ++ " too long"
  | .unprintable c position =>
      "Invalid non-printable ASCII character in URL, "
        ++ Text.quoted (String.singleton c) ++ " at position "
        ++ Text.decimal position ++ "."
  | .host (.ipv4 name) => "Invalid IPv4 address: " ++ Text.quoted name
  | .host (.ipv6 name) => "Invalid IPv6 address: " ++ Text.quoted name
  | .host (.domain name) => "Invalid IDNA hostname: " ++ Text.quoted name
  | .port text => "Invalid port: " ++ Text.quoted text
  | .pathAfterHost =>
      "For absolute URLs, path must be empty or begin with '/'"
  | .pathOfSlashes =>
      "Relative URLs cannot have a path starting with '//'"
  | .pathOfColon =>
      "Relative URLs cannot have a path starting with ':'"

------------------------------------------------------------
-- Parts
------------------------------------------------------------

/- The parts of a text as they are written. -/
structure Parts where
  scheme : List Char
  userinfo : List Char
  host : List Char
  port : List Char
  path : List Char
  query : Option (List Char)
  fragment : Option (List Char)
deriving DecidableEq, Repr

/- Whether a character may stand in a scheme, and begin it. -/
def isLetter (c : Char) : Bool :=
  ('a' ≤ c && c ≤ 'z') || ('A' ≤ c && c ≤ 'Z')

def isSchemeCharacter (c : Char) : Bool :=
  isLetter c || Text.isDigit c || c == '+' || c == '.' || c == '-'

/- The scheme, perhaps empty, and what follows its colon. -/
def splitScheme (cs : List Char) : List Char × List Char :=
  let word := cs.takeWhile isSchemeCharacter
  match cs.drop word.length, word.head? with
  | ':' :: rest, none => ([], rest)
  | ':' :: rest, some c => if isLetter c then (word, rest) else ([], cs)
  | _, _ => ([], cs)

/- The characters up to one of a few, and the rest. -/
def splitBefore
    (ends : List Char)
    (cs : List Char) : List Char × List Char :=
  cs.span fun c => !ends.contains c

/- What follows a mark, if the text begins with it, and the rest. -/
def splitMarked
    (mark : Char)
    (ends : List Char)
    (cs : List Char) : Option (List Char) × List Char :=
  match cs with
  | c :: rest =>
      if c = mark then
        let (part, rest) := splitBefore ends rest
        (some part, rest)
      else
        (none, cs)
  | [] => (none, [])

/- The authority behind two slashes, and the rest. -/
def splitAuthority (cs : List Char) : List Char × List Char :=
  match cs with
  | '/' :: '/' :: rest => splitBefore ['/', '?', '#'] rest
  | _ => ([], cs)

/- The characters before the last one of a kind, and those after it. -/
def splitLast?
    (mark : Char)
    (cs : List Char) : Option (List Char × List Char) :=
  let behind := (cs.reverse.takeWhile fun c => c != mark).reverse
  if behind.length < cs.length then
    some (cs.take (cs.length - behind.length - 1), behind)
  else
    none

/- The host, with its brackets if it has them, and what follows. -/
def splitHost (cs : List Char) : List Char × List Char :=
  match cs.head?, splitLast? ']' cs with
  | some '[', some (inside, rest) => (inside ++ [']'], rest)
  | _, _ => splitBefore [':'] cs

/- The characters without a colon in front. -/
def withoutColon : List Char → List Char
  | ':' :: rest => rest
  | cs => cs

/- The parts of a text. -/
def split (cs : List Char) : Parts :=
  let (scheme, rest) := splitScheme cs
  let (authority, rest) := splitAuthority rest
  let (path, rest) := splitBefore ['?', '#'] rest
  let (query, rest) := splitMarked '?' ['#'] rest
  let (fragment, _) := splitMarked '#' [] rest
  let (userinfo, place) := (splitLast? '@' authority).getD ([], authority)
  let (host, port) := splitHost place
  ⟨scheme, userinfo, host, withoutColon port, path, query, fragment⟩

------------------------------------------------------------
-- Normal Form
------------------------------------------------------------

/- The longest text that is read. -/
def longest : Nat := 65536

/- The characters that are not encoded in the parts of a URL. -/
def isUserinfoSafe : Char → Bool :=
  Percent.except " \"#<>?`\x7b\x7d/;=@[\\]^|"

def isPathSafe : Char → Bool :=
  Percent.except " \"#<>?`\x7b\x7d"

def isQuerySafe : Char → Bool :=
  Percent.except " \"#<>"

def isFragmentSafe : Char → Bool :=
  Percent.except " \"<>`"

/- The port, none when it is the one that the scheme uses anyway. -/
def readPort
    (scheme port : List Char) : Except Fault (Option Int) :=
  if port.isEmpty then
    .ok none
  else
    match Port.ofText? (String.ofList port) with
    | none => .error (.port (String.ofList port))
    | some n =>
        if Port.standard? (String.ofList scheme) = some n then
          .ok none
        else
          .ok (some n)

/- Add a segment to a path, the last segment first. -/
def addSegment
    (path : List (List Char))
    (segment : List Char) : List (List Char) :=
  if segment = ['.'] then
    path
  else if segment = ['.', '.'] then
    if path = [[]] then path else path.drop 1
  else
    segment :: path

/- A path without segments of one or two dots. -/
def withoutDots (path : List Char) : List Char :=
  let segments := Text.pieces (fun c => c == '/') path
  if segments.contains ['.'] || segments.contains ['.', '.'] then
    ['/'].intercalate (segments.foldl addSegment []).reverse
  else
    path

/- Check that a path fits to what stands before it. -/
def checkPath
    (hasScheme hasAuthority : Bool)
    (path : List Char) : Except Fault Unit := do
  if hasAuthority then
    if !path.isEmpty && path.head? != some '/' then
      throw .pathAfterHost
  else if !hasScheme then
    if path.take 2 = ['/', '/'] then
      throw .pathOfSlashes
    if path.head? = some ':' then
      throw .pathOfColon

/- The first character that is ASCII and not printable, with its place. -/
def unprintable?
    (position : Nat) : List Char → Option (Char × Nat)
  | [] => none
  | c :: rest =>
      if c.toNat < 128 && !Percent.isPrintableAscii c then
        some (c, position)
      else
        unprintable? (position + 1) rest

/- The URL of the parts of a text. -/
def ofParts (p : Parts) : Except Fault Url := do
  let text (isSafe : Char → Bool) (cs : List Char) : String :=
    String.ofList (Percent.encodeList isSafe cs)
  let userinfo := text isUserinfoSafe p.userinfo
  let host ← (Host.encode (String.ofList p.host)).mapError .host
  let port ← readPort p.scheme p.port
  let hasScheme := !p.scheme.isEmpty
  let hasAuthority := userinfo != "" || host != "" || port.isSome
  checkPath hasScheme hasAuthority p.path
  let path :=
    if hasScheme || hasAuthority then withoutDots p.path else p.path
  return { scheme := (String.ofList p.scheme).toLower
           userinfo := userinfo
           host := host
           port := port
           path := text isPathSafe path
           query := p.query.map (text isQuerySafe)
           fragment := p.fragment.map (text isFragmentSafe) }

/- The URL of a text. -/
def parse (s : String) : Except Fault Url :=
  let cs := s.toList
  if longest < cs.length then
    .error .tooLong
  else
    match unprintable? 0 cs with
    | some (c, position) => .error (.unprintable c position)
    | none => ofParts (split cs)

------------------------------------------------------------
-- Text
------------------------------------------------------------

/- The user, the host and the port. -/
def authority (u : Url) : String :=
  (if u.userinfo = "" then "" else u.userinfo ++ "@")
    ++ (if u.host.toList.contains ':' then "[" ++ u.host ++ "]" else u.host)
    ++ match u.port with
       | some n => ":" ++ Text.signedDecimal n
       | none => ""

/- The text of a URL. -/
def toText (u : Url) : String :=
  (if u.scheme = "" then "" else u.scheme ++ ":")
    ++ (if u.authority = "" then "" else "//" ++ u.authority)
    ++ u.path
    ++ (match u.query with
        | some q => "?" ++ q
        | none => "")
    ++ match u.fragment with
       | some f => "#" ++ f
       | none => ""

/- Whether a URL has a scheme and a host. -/
def isAbsolute (u : Url) : Bool :=
  u.scheme != "" && u.host != ""

end Url

end KeyAssertion
