import KeyAssertion.Url.Basic

/-
  This file defines authorities, the URLs that name servers,
  and the place of the document in which a server describes
  itself.

  Key definitions include:
    * `Authority.Fault`
    * `Authority.normalize`
    * `Authority.discoveryUrl`
-/

namespace KeyAssertion

namespace Authority

/- Why a text is no authority; with the text itself. -/
inductive Fault
  | empty (shown : String)
  | malformed (text : String) (fault : Url.Fault)
  | host (fault : Domain.Fault)
  | notAbsolute (text : String)
  | furtherParts (text : String)
deriving DecidableEq, Repr

namespace Fault

/- The wording of a fault. -/
def message : Fault → String
  | .empty _ => "Authority URL is empty"
  | .malformed text fault =>
      "Malformed authority URL " ++ Text.quoted text ++ ": "
        ++ fault.message
  | .host fault => fault.message
  | .notAbsolute text =>
      "Authority must be an absolute http(s) URL, got "
        ++ Text.quoted text
  | .furtherParts text =>
      "Authority must not carry a query or fragment: "
        ++ Text.quoted text

/- The authority that a fault is about. -/
def authority? : Fault → Option String
  | .empty shown => some shown
  | .malformed text _ => some text
  | .host _ => none
  | .notAbsolute text => some text
  | .furtherParts text => some text

end Fault

/- The schemes of authorities. -/
def schemes : List String :=
  ["http", "https"]

/- How an authority that is absent is shown. -/
def absent : String :=
  "None"

/- Whether a part of a URL is there and not empty. -/
def isCarried : Option String → Bool
  | some s => s != ""
  | none => false

/- Check that a text without blanks at its ends is an authority. -/
def check (text : String) : Except Fault Unit := do
  let u ← (Url.parse text).mapError (.malformed text)
  if !schemes.contains u.scheme then
    throw (.notAbsolute text)
  (Host.check u.host).mapError .host
  if u.host = "" then
    throw (.notAbsolute text)
  if isCarried u.query || isCarried u.fragment then
    throw (.furtherParts text)

/- An authority without blanks at its ends and slashes at its end. -/
def normalize (raw : Option String) : Except Fault String := do
  match raw with
  | none => throw (.empty absent)
  | some raw =>
      let text := Text.strip raw
      if text = "" then
        throw (.empty raw)
      check text
      return Text.withoutTrailingSlashes text

/- Where the document of a server lies below its authority. -/
def wellKnownPath : String :=
  "/.well-known/openid-configuration"

/- The URL of the document of an authority. -/
def discoveryUrl (raw : Option String) : Except Fault String := do
  return (← normalize raw) ++ wellKnownPath

end Authority

end KeyAssertion
