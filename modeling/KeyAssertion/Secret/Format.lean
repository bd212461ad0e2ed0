import KeyAssertion.Certificate.Thumbprint
import KeyAssertion.Encoding.Base64

/-
  This file defines the formats of a secret and how the format
  of a text is told.

  Key definitions include:
    * `Secret`
    * `Secret.isBase64`
    * `Secret.detect?`
-/

namespace KeyAssertion

/- A secret with its text, by format. -/
inductive Secret
  | jwk (text : String)
  | pem (text : String)
  | base64 (text : String)
  | thumbprint (text : String)
deriving DecidableEq, Repr

namespace Secret

/- The text of a secret. -/
def text : Secret → String
  | .jwk t => t
  | .pem t => t
  | .base64 t => t
  | .thumbprint t => t

/- How a PEM text begins, in any case. -/
def pemOpening : String :=
  "-----BEGIN"

/- Texts up to this length are never taken for Base64. -/
def longestNonBase64 : Nat := 100

/- Whether characters are in the alphabet but for two paddings at the end. -/
def isBase64List (cs : List Char) : Bool :=
  let rest := cs.dropWhile fun c => (Base64.standard.value? c).isSome
  !cs.isEmpty && cs.length % 4 == 0
    && (rest == [] || rest == ['='] || rest == ['=', '='])

/- Whether a text is Base64, blanks at its ends aside. -/
def isBase64 (s : String) : Bool :=
  isBase64List (Text.trimList Text.isBlank s.toList)

/-
  The secret of a text without blanks at its ends.  The first
  rule that holds gives the format.
-/
def ofTrimmed (s : String) : Secret :=
  let cs := s.toList
  let opening := pemOpening.toList
  if cs.head? = some '{' then
    .jwk s
  else if Text.upperList (cs.take opening.length) = opening then
    .pem s
  else if longestNonBase64 < cs.length && isBase64 s then
    .base64 s
  else
    .thumbprint (Thumbprint.normalize s)

/- The secret of a text, none when it is blank or absent. -/
def detect? : Option String → Option Secret
  | none => none
  | some raw =>
      let s := Text.strip raw
      if s = "" then none else some (ofTrimmed s)

/- The message when there is no secret. -/
def emptyMessage : String :=
  "Secret cannot be empty"

end Secret

end KeyAssertion
