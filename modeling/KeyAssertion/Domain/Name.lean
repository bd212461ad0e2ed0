import KeyAssertion.Domain.Label
import KeyAssertion.Text.Pieces

/-
  This file defines domain names, labels between dots, and
  their spelling in ASCII.

  Key definitions include:
    * `Domain.labels`
    * `Domain.encode`
    * `Domain.decode`
-/

namespace KeyAssertion

namespace Domain

/- Whether a character separates labels: a full stop of any width. -/
def isDot (c : Char) : Bool :=
  c == '.' || [0x3002, 0xff0e, 0xff61].contains c.toNat

/- The labels of a name, with an empty one for a dot at its end. -/
def labels (name : String) : List (List Char) :=
  Text.pieces isDot name.toList

/- The labels of a name apart from a dot at its end, which is told. -/
def splitName (name : String) : Except Fault (List (List Char) × Bool) :=
  if longestDomain + 1 < name.length then
    .error .longDomain
  else
    match labels name with
    | [[]] => .error .emptyDomain
    | all =>
        if all.getLast? = some [] then
          .ok (all.dropLast, true)
        else
          .ok (all, false)

/- Join labels by dots, with one more at the end if told. -/
def joinLabels
    (parts : List String)
    (hasDot : Bool) : String :=
  String.intercalate "." parts ++ if hasDot then "." else ""

/- The ASCII spelling of a name in lower case. -/
def encode (name : String) : Except Fault String := do
  let (parts, hasDot) ← splitName name
  let parts ← parts.mapM encodeLabel
  let spelling := joinLabels (parts.map String.ofList) hasDot
  let longest := if hasDot then longestDomain + 1 else longestDomain
  if longest < spelling.length then
    throw .longDomain
  return spelling

/- The labels of an ASCII spelling in lower case. -/
def decode (spelling : String) : Except Fault (List Label) := do
  let (parts, _) ← splitName spelling
  parts.mapM decodeLabel

end Domain

end KeyAssertion
