import KeyAssertion.Asn1.Der
import KeyAssertion.Encoding.Unicode

/-
  This file defines the names in certificates and their text:
  the parts in reverse order, between commas, with the special
  characters of a value escaped.

  Key definitions include:
    * `SubjectFault`
    * `DistinguishedName`
    * `DistinguishedName.ofElement?`
    * `DistinguishedName.text`
-/

namespace KeyAssertion

/- Why a name that was read has no text. -/
inductive SubjectFault
  | unknownType (tag : Nat)
  | notUtf8
  | unexpectedBits
  | emptyPart
  | repeatedPart
deriving DecidableEq, Repr

/- The wording of a fault. -/
def SubjectFault.message : SubjectFault → String
  | .unknownType tag => Text.decimal tag
  | .notUtf8 =>
      "error parsing asn1 value: ParseError \x7b kind: InvalidValue, "
        ++ "location: [\"subject\"] \x7d"
  | .unexpectedBits =>
      "oid must be X500_UNIQUE_IDENTIFIER for BitString type."
  | .emptyPart => "a relative distinguished name cannot be empty"
  | .repeatedPart => "duplicate attributes are not allowed"

/- One attribute: its type and its value as it was read. -/
structure NameAttribute where
  oid : List Nat
  tag : UInt8
  content : Bytes
deriving DecidableEq, Repr

/- A name: a sequence of sets of attributes. -/
abbrev DistinguishedName :=
  List (List NameAttribute)

------------------------------------------------------------
-- Reading
------------------------------------------------------------

namespace NameAttribute

/- The tag octets of the texts whose characters are checked. -/
def printableString : UInt8 := 0x13
def universalString : UInt8 := 0x1c
def wideString : UInt8 := 0x1e

/- Whether a byte may stand in a printable string. -/
def isPrintableByte (b : UInt8) : Bool :=
  (65 ≤ b && b ≤ 90) || (97 ≤ b && b ≤ 122) || (48 ≤ b && b ≤ 57)
    || (Bytes.ofLatin " '()+,-./:=?").contains b

/- Whether the content of a value fits its tag. -/
def isWellFormed (a : NameAttribute) : Bool :=
  if a.tag = printableString then
    a.content.all isPrintableByte
  else if a.tag = wideString then
    (Unicode.decodeWide? .big a.content).isSome
  else if a.tag = universalString then
    (Unicode.decodeFull? .big a.content).isSome
  else
    true

/- The attribute of an element. -/
def ofElement? (e : Der.Element) : Option NameAttribute := do
  match ← e.inner? Der.sequence with
  | [oid, value] =>
      let a : NameAttribute :=
        ⟨← Der.objectId? oid, value.tag, value.content⟩
      if a.isWellFormed then some a else none
  | _ => none

end NameAttribute

/- Whether encodings are in increasing order, as in a set. -/
def areSorted : List Der.Element → Bool
  | a :: b :: rest =>
      !(b.encoding < a.encoding) && areSorted (b :: rest)
  | _ => true

namespace DistinguishedName

/- The name of an element. -/
def ofElement? (e : Der.Element) : Option DistinguishedName := do
  let parts ← e.inner? Der.sequence
  parts.mapM fun part => do
    let attributes ← part.inner? Der.set
    if areSorted attributes then
      attributes.mapM NameAttribute.ofElement?
    else
      none

end DistinguishedName

------------------------------------------------------------
-- Text
------------------------------------------------------------

namespace NameAttribute

/- The short names of attribute types. -/
def shortNames : List (List Nat × String) :=
  [([2, 5, 4, 3], "CN"), ([2, 5, 4, 7], "L"), ([2, 5, 4, 8], "ST"),
    ([2, 5, 4, 10], "O"), ([2, 5, 4, 11], "OU"), ([2, 5, 4, 6], "C"),
    ([2, 5, 4, 9], "STREET"),
    ([0, 9, 2342, 19200300, 100, 1, 25], "DC"),
    ([0, 9, 2342, 19200300, 100, 1, 1], "UID")]

/- The type whose value is a string of bits. -/
def uniqueIdentifier : List Nat :=
  [2, 5, 4, 45]

/- The tags of values that are known. -/
def knownTags : List Nat :=
  [3, 4, 12, 18, 19, 20, 22, 23, 24, 26, 28, 30]

/- A value: characters, or octets shown in hexadecimal. -/
inductive Value
  | text (s : String)
  | octets (b : Bytes)
deriving DecidableEq, Repr

/- The value of an attribute. -/
def value (a : NameAttribute) : Except SubjectFault Value :=
  if !knownTags.contains a.tag.toNat then
    .error (.unknownType a.tag.toNat)
  else if a.tag = Der.bitString then
    if a.oid = uniqueIdentifier then
      .ok (.octets a.content)
    else
      .error .unexpectedBits
  else if a.tag = wideString then
    .ok (.text ((Unicode.decodeWide? .big a.content).getD ""))
  else if a.tag = universalString then
    .ok (.text ((Unicode.decodeFull? .big a.content).getD ""))
  else
    match Bytes.toText? a.content with
    | some s => .ok (.text s)
    | none => .error .notUtf8

/- A character of a value with the escape it needs anywhere. -/
def escapeCharacter (c : Char) : List Char :=
  if "\\\"+,;<>".toList.contains c then
    ['\\', c]
  else if c.toNat = 0 then
    ['\\', '0', '0']
  else
    [c]

/- The escaped form of a value, its ends escaped after the rest. -/
def escapeList (cs : List Char) : List Char :=
  let inside := cs.flatMap escapeCharacter
  let front :=
    match inside.head? with
    | some c => if c = '#' ∨ c = ' ' then '\\' :: inside else inside
    | none => inside
  if front.getLast? = some ' ' then
    front.dropLast ++ ['\\', ' ']
  else
    front

/- The text of a value. -/
def Value.display : Value → String
  | .text s => String.ofList (escapeList s.toList)
  | .octets [] => ""
  | .octets b => "#" ++ (Bytes.upperHex b).toLower

/- The text of an attribute. -/
def display
    (a : NameAttribute)
    (v : Value) : String :=
  let name :=
    match shortNames.find? fun n => n.1 == a.oid with
    | some n => n.2
    | none => Der.dotted a.oid
  name ++ "=" ++ v.display

end NameAttribute

namespace DistinguishedName

/- Whether two entries of a list are the same. -/
def hasRepetition
    {α : Type}
    [BEq α] : List α → Bool
  | [] => false
  | x :: rest => rest.contains x || hasRepetition rest

/- The text of one part, its attributes joined by plus signs. -/
def partText
    (attributes : List NameAttribute) : Except SubjectFault String := do
  let values ← attributes.mapM NameAttribute.value
  if attributes.isEmpty then
    throw .emptyPart
  if hasRepetition ((attributes.map (·.oid)).zip values) then
    throw .repeatedPart
  return String.intercalate "+"
    (attributes.zipWith NameAttribute.display values)

/- The text of a name. -/
def text (name : DistinguishedName) : Except SubjectFault String := do
  let parts ← name.mapM partText
  return String.intercalate "," parts.reverse

end DistinguishedName

end KeyAssertion
