import KeyAssertion.Encoding.Bytes

/-
  This file defines what the hash functions share: the padding
  of a message to whole blocks and the cutting of a list into
  groups.

  Key definitions include:
    * `Hash.pad`
    * `Hash.groups`
-/

namespace KeyAssertion

namespace Hash

/-
  A message followed by a one bit, zero bits, and its length
  in bits in the last `lengthBytes` bytes of a block.
-/
def pad
    (blockBytes lengthBytes : Nat)
    (message : Bytes) : Bytes :=
  let used := (message.length + 1 + lengthBytes) % blockBytes
  let zeros := (blockBytes - used) % blockBytes
  message ++ (0x80 :: List.replicate zeros 0)
    ++ Bytes.ofNatWidth lengthBytes (message.length * 8)

/- Cut a list into groups, with fuel for their count. -/
def groupsFrom
    {α : Type}
    (size : Nat)
    (fuel : Nat)
    (xs : List α)
    (done : List (List α)) : List (List α) :=
  match fuel with
  | 0 => done.reverse
  | fuel + 1 =>
      if xs.isEmpty then
        done.reverse
      else
        groupsFrom size fuel (xs.drop size) (xs.take size :: done)

/- A list cut into groups of `size`; the last may be shorter. -/
def groups
    {α : Type}
    (size : Nat)
    (xs : List α) : List (List α) :=
  groupsFrom size xs.length xs []

end Hash

end KeyAssertion
