import KeyAssertion.Encoding.Bytes

/-
  This file defines the search for a marker in a sequence of
  bytes.

  Key definitions include:
    * `Pem.offset?`
    * `Pem.splitAt?`
-/

namespace KeyAssertion

namespace Pem

/- Five dashes, which surround every label. -/
def dashes : Bytes :=
  Bytes.ofLatin "-----"

/- What stands before the label of a block. -/
def opening : Bytes :=
  Bytes.ofLatin "-----BEGIN "

/- What stands before the label at the end of a block. -/
def closing : Bytes :=
  Bytes.ofLatin "-----END "

/- How many bytes come before the first occurrence of a marker. -/
def offsetFrom?
    (marker : Bytes)
    (passed : Nat) : Bytes → Option Nat
  | [] => if marker.isEmpty then some passed else none
  | b :: rest =>
      if marker.isPrefixOf (b :: rest) then
        some passed
      else
        offsetFrom? marker (passed + 1) rest

/- The place of the first occurrence of a marker. -/
def offset? (marker bytes : Bytes) : Option Nat :=
  offsetFrom? marker 0 bytes

/- What comes before and after the first occurrence of a marker. -/
def splitAt? (marker bytes : Bytes) : Option (Bytes × Bytes) :=
  (offset? marker bytes).map fun n =>
    (bytes.take n, bytes.drop (n + marker.length))

end Pem

end KeyAssertion
