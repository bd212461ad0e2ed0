import KeyAssertion.Encoding.Unicode
import KeyAssertion.Json.Reader

/-
  This file defines how the JSON text of a response is read
  from its bytes, whose encoding is told by a mark in front or
  by the places of the first zeros.

  Key definitions include:
    * `BodyEncoding.ofBytes`
    * `Body.points?`
    * `Body.read`
-/

namespace KeyAssertion

/- The encodings of a text, with the number of bytes of their mark. -/
inductive BodyEncoding
  | bytes (mark : Nat)
  | wide (order : Unicode.ByteOrder) (mark : Nat)
  | full (order : Unicode.ByteOrder) (mark : Nat)
deriving DecidableEq, Repr

namespace BodyEncoding

/- The encoding that the zeros among the first bytes tell. -/
def ofZeros : Bytes → BodyEncoding
  | [a, b] =>
      if a = 0 then
        .wide .big 0
      else if b = 0 then
        .wide .little 0
      else
        .bytes 0
  | a :: b :: c :: d :: _ =>
      if a = 0 then
        if b = 0 then .full .big 0 else .wide .big 0
      else if b = 0 then
        if c = 0 ∧ d = 0 then .full .little 0 else .wide .little 0
      else
        .bytes 0
  | _ => .bytes 0

/- The encoding of a text. -/
def ofBytes (b : Bytes) : BodyEncoding :=
  if [0x00, 0x00, 0xfe, 0xff].isPrefixOf b then
    .full .big 4
  else if [0xff, 0xfe, 0x00, 0x00].isPrefixOf b then
    .full .little 4
  else if [0xfe, 0xff].isPrefixOf b then
    .wide .big 2
  else if [0xff, 0xfe].isPrefixOf b then
    .wide .little 2
  else if [0xef, 0xbb, 0xbf].isPrefixOf b then
    .bytes 3
  else
    ofZeros b

end BodyEncoding

namespace Body

/- Whether a byte goes on with a code point, at least from a value. -/
def isNext
    (least : UInt8)
    (b : UInt8) : Bool :=
  0x80 ≤ b && b ≤ 0xbf && least ≤ b

/- The low six bits of a byte. -/
def low (b : UInt8) : Nat :=
  b.toNat % 64

/- The code point of two bytes. -/
def two? (a b : UInt8) : Option Nat :=
  if 0xc2 ≤ a ∧ a ≤ 0xdf ∧ isNext 0x80 b then
    some ((a.toNat - 0xc0) * 64 + low b)
  else
    none

/- The code point of three bytes, perhaps a surrogate. -/
def three? (a b c : UInt8) : Option Nat :=
  let least := if a = 0xe0 then 0xa0 else 0x80
  if 0xe0 ≤ a ∧ a ≤ 0xef ∧ isNext least b ∧ isNext 0x80 c then
    some ((a.toNat - 0xe0) * 4096 + low b * 64 + low c)
  else
    none

/- The code point of four bytes. -/
def four? (a b c d : UInt8) : Option Nat :=
  let least := if a = 0xf0 then 0x90 else 0x80
  if 0xf0 ≤ a ∧ a ≤ 0xf4 ∧ isNext least b ∧ (a < 0xf4 ∨ b ≤ 0x8f)
      ∧ isNext 0x80 c ∧ isNext 0x80 d then
    some ((a.toNat - 0xf0) * 262144 + low b * 4096 + low c * 64 + low d)
  else
    none

/- The code points of bytes, one to four for each. -/
def bytePoints? : Bytes → Option (List Nat)
  | [] => some []
  | a :: rest =>
      if a < 0x80 then
        (bytePoints? rest).map (a.toNat :: ·)
      else
        match rest with
        | [] => none
        | b :: rest =>
            match two? a b, rest with
            | some c, rest => (bytePoints? rest).map (c :: ·)
            | none, [] => none
            | none, c :: rest =>
                match three? a b c, rest with
                | some c, rest => (bytePoints? rest).map (c :: ·)
                | none, [] => none
                | none, d :: rest =>
                    match four? a b c d with
                    | some c => (bytePoints? rest).map (c :: ·)
                    | none => none

/- The code points of a text in its encoding. -/
def points? (b : Bytes) : Option (List Nat) :=
  match BodyEncoding.ofBytes b with
  | .bytes mark => bytePoints? (b.drop mark)
  | .wide order mark =>
      (Unicode.wideUnits? order (b.drop mark)).map Unicode.joinPairs
  | .full order mark => do
      let points ← Unicode.fullUnits? order (b.drop mark)
      if points.all fun c => c < 0x110000 then some points else none

/- Why the bytes are no JSON text. -/
inductive Fault
  | notJson
  | tooDeep
deriving DecidableEq, Repr

/-
  The value of the JSON text of bytes.  A surrogate without its
  other half becomes the replacement character.
-/
def read (b : Bytes) : Except Fault Json :=
  match points? b with
  | none => .error .notJson
  | some points =>
      let shown := points.map fun c =>
        if Unicode.isSurrogate c then 0xfffd else c
      match Json.readList (shown.map Char.ofNat) with
      | .ok v => .ok v
      | .error .tooDeep => .error .tooDeep
      | .error _ => .error .notJson

end Body

end KeyAssertion
