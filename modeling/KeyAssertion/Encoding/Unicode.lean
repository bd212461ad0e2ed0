import KeyAssertion.Encoding.Bytes

/-
  This file defines the reading of texts from code units of
  two and four bytes.

  Key definitions include:
    * `Unicode.ByteOrder`
    * `Unicode.wideUnits?`
    * `Unicode.fullUnits?`
    * `Unicode.joinPairs`
    * `Unicode.decodeWide?`
    * `Unicode.decodeFull?`
-/

namespace KeyAssertion

namespace Unicode

/- Which byte of a unit comes first. -/
inductive ByteOrder
  | big
  | little
deriving DecidableEq, Repr

/- The number of a unit's bytes. -/
def unit
    (order : ByteOrder)
    (bytes : Bytes) : Nat :=
  match order with
  | .big => Bytes.toNat bytes
  | .little => Bytes.toNat bytes.reverse

/- The units of two bytes, none when a byte is left over. -/
def wideUnits? (order : ByteOrder) : Bytes → Option (List Nat)
  | [] => some []
  | a :: b :: rest => do
      some (unit order [a, b] :: (← wideUnits? order rest))
  | _ => none

/- The units of four bytes, none when bytes are left over. -/
def fullUnits? (order : ByteOrder) : Bytes → Option (List Nat)
  | [] => some []
  | a :: b :: c :: d :: rest => do
      some (unit order [a, b, c, d] :: (← fullUnits? order rest))
  | _ => none

/- Whether a number is a surrogate. -/
def isSurrogate (c : Nat) : Bool :=
  0xd800 ≤ c && c ≤ 0xdfff

/-
  The code points of units: a high surrogate and the low one
  after it are one code point, other surrogates stay.
-/
def joinPairs : List Nat → List Nat
  | [] => []
  | [a] => [a]
  | a :: b :: rest =>
      if 0xd800 ≤ a ∧ a ≤ 0xdbff ∧ 0xdc00 ≤ b ∧ b ≤ 0xdfff then
        (0x10000 + (a - 0xd800) * 0x400 + (b - 0xdc00)) :: joinPairs rest
      else
        a :: joinPairs (b :: rest)

/- The text of code points, none when one is no character. -/
def toText? (points : List Nat) : Option String :=
  if points.all fun c => c < 0x110000 && !isSurrogate c then
    some (String.ofList (points.map Char.ofNat))
  else
    none

/- The text of bytes in units of two. -/
def decodeWide?
    (order : ByteOrder)
    (bytes : Bytes) : Option String := do
  toText? (joinPairs (← wideUnits? order bytes))

/- The text of bytes in units of four. -/
def decodeFull?
    (order : ByteOrder)
    (bytes : Bytes) : Option String := do
  toText? (← fullUnits? order bytes)

end Unicode

end KeyAssertion
