import KeyAssertion.Json.Value

/-
  This file defines the text of a JSON value.  Every character
  outside printable ASCII is written as an escape, so the text
  is ASCII whatever the strings hold.

  Key definitions include:
    * `Json.Style`
    * `Json.write`
    * `Json.sorted`
-/

namespace KeyAssertion

namespace Json

/- What stands between items and after a member's name. -/
structure Style where
  item : String
  name : String
deriving DecidableEq, Repr

/- No blanks at all. -/
def compact : Style :=
  ⟨",", ":"⟩

/- A space after each separator. -/
def spaced : Style :=
  ⟨", ", ": "⟩

/- One code unit as an escape. -/
def unitEscape (u : Nat) : List Char :=
  '\\' :: 'u' :: Text.hexDigits 4 u

/- One code point of a string. -/
def writePoint (c : Nat) : List Char :=
  if c = 0x22 then
    ['\\', '"']
  else if c = 0x5c then
    ['\\', '\\']
  else if c = 0x0a then
    ['\\', 'n']
  else if c = 0x0d then
    ['\\', 'r']
  else if c = 0x09 then
    ['\\', 't']
  else if c = 0x0c then
    ['\\', 'f']
  else if c = 0x08 then
    ['\\', 'b']
  else if 0x20 ≤ c ∧ c ≤ 0x7e then
    [Char.ofNat c]
  else if c < 0x10000 then
    unitEscape c
  else
    unitEscape (0xd800 + (c - 0x10000) / 0x400)
      ++ unitEscape (0xdc00 + (c - 0x10000) % 0x400)

/- A string between double quotes. -/
def writeString (s : JsonString) : List Char :=
  '"' :: (s.points.flatMap writePoint ++ ['"'])

/- A floating-point number. -/
def writeReal : Binary64 → String
  | .nan => "NaN"
  | .infinite false => "Infinity"
  | .infinite true => "-Infinity"
  | x => x.toText

mutual

/- The characters of a value. -/
def writeList (style : Style) : Json → List Char
  | .null => "null".toList
  | .bool true => "true".toList
  | .bool false => "false".toList
  | .integer n => (Text.signedDecimal n).toList
  | .real x => (writeReal x).toList
  | .string s => writeString s
  | .array items => '[' :: (writeItems style items ++ [']'])
  | .object members => '{' :: (writeMembers style members ++ ['}'])

/- The characters of the items of an array. -/
def writeItems (style : Style) : List Json → List Char
  | [] => []
  | [v] => writeList style v
  | v :: rest =>
      writeList style v ++ style.item.toList ++ writeItems style rest

/- The characters of the members of an object. -/
def writeMembers (style : Style) : List (JsonString × Json) → List Char
  | [] => []
  | [(k, v)] => writeString k ++ style.name.toList ++ writeList style v
  | (k, v) :: rest =>
      writeString k ++ style.name.toList ++ writeList style v
        ++ style.item.toList ++ writeMembers style rest

end

/- The text of a value. -/
def write
    (style : Style)
    (v : Json) : String :=
  String.ofList (writeList style v)

/- Put a member into a list in order of names. -/
def insertSorted
    (m : JsonString × Json) :
    List (JsonString × Json) → List (JsonString × Json)
  | [] => [m]
  | x :: rest =>
      if m.1.before x.1 then
        m :: x :: rest
      else
        x :: insertSorted m rest

mutual

/- The value with the members of every object in order of names. -/
def sorted : Json → Json
  | .array items => .array (sortedItems items)
  | .object members => .object (sortedMembers members)
  | v => v

/- The items of an array, each sorted. -/
def sortedItems : List Json → List Json
  | [] => []
  | v :: rest => sorted v :: sortedItems rest

/- The members of an object, each sorted and in order. -/
def sortedMembers : List (JsonString × Json) → List (JsonString × Json)
  | [] => []
  | (k, v) :: rest => insertSorted (k, sorted v) (sortedMembers rest)

end

end Json

end KeyAssertion
