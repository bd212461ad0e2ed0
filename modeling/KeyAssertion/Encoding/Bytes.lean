import KeyAssertion.Text.Digits

/-
  This file defines sequences of bytes as big-endian numbers
  and as texts.

  Key definitions include:
    * `Bytes.toNat`
    * `Bytes.ofNat`
    * `Bytes.ofNatWidth`
    * `Bytes.ofText`
    * `Bytes.toText?`
    * `Bytes.upperHex`

  Key statements include:
    * `Bytes.length_ofNatWidth`
-/

namespace KeyAssertion

/- A sequence of bytes. -/
abbrev Bytes :=
  List UInt8

namespace Bytes

/- The number whose big-endian digits to base 256 are the bytes. -/
def toNat (bytes : Bytes) : Nat :=
  bytes.foldl (fun acc b => acc * 256 + b.toNat) 0

/-
  The least significant `width` bytes of a number, put before
  the bytes already there.
-/
def ofNatOnto
    (width : Nat)
    (n : Nat)
    (rest : Bytes) : Bytes :=
  match width with
  | 0 => rest
  | w + 1 => ofNatOnto w (n / 256) (UInt8.ofNat n :: rest)

/- A number as so many bytes, the most significant first. -/
def ofNatWidth (width n : Nat) : Bytes :=
  ofNatOnto width n []

/- The bytes already there come last. -/
theorem ofNatOnto_eq
    (width n : Nat)
    (rest : Bytes) :
    ofNatOnto width n rest = ofNatWidth width n ++ rest := by
  induction width generalizing n rest with
  | zero => rfl
  | succ w ih =>
      simp only [ofNatWidth, ofNatOnto]
      rw [ih, ih _ [_]]
      simp

/- A number has as many bytes as were asked for. -/
theorem length_ofNatWidth (width n : Nat) :
    (ofNatWidth width n).length = width := by
  induction width generalizing n with
  | zero => rfl
  | succ w ih =>
      rw [ofNatWidth, ofNatOnto, ofNatOnto_eq, List.length_append, ih]
      rfl

/- The count of bits of a number. -/
def bitLength (n : Nat) : Nat :=
  if n = 0 then 0 else n.log2 + 1

/- The count of bytes of a number; zero has one. -/
def widthOf (n : Nat) : Nat :=
  max 1 ((bitLength n + 7) / 8)

/- A number as the fewest bytes, at least one. -/
def ofNat (n : Nat) : Bytes :=
  ofNatWidth (widthOf n) n

/- The UTF-8 form of a text. -/
def ofText (s : String) : Bytes :=
  s.toUTF8.toList

/- The text whose UTF-8 form the bytes are. -/
def toText? (bytes : Bytes) : Option String :=
  String.fromUTF8? ⟨bytes.toArray⟩

/- The bytes of characters below 256. -/
def ofLatin (s : String) : Bytes :=
  s.toList.map fun c => UInt8.ofNat c.toNat

/- The bytes in hexadecimal, in upper case. -/
def upperHex (bytes : Bytes) : String :=
  String.ofList (bytes.flatMap fun b =>
    [Text.upperHexDigit (b.toNat / 16),
      Text.upperHexDigit (b.toNat % 16)])

end Bytes

end KeyAssertion
