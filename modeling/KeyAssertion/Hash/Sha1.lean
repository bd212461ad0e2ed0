import KeyAssertion.Hash.Padding

/-
  This file defines the hash function SHA-1.

  Key definitions include:
    * `Hash.sha1`
-/

namespace KeyAssertion

namespace Hash

namespace Sha1

/- The five words that a block is compressed into. -/
structure State where
  a : UInt32
  b : UInt32
  c : UInt32
  d : UInt32
  e : UInt32
deriving DecidableEq, Repr

/- A word rotated to the left. -/
def rotateLeft (x k : UInt32) : UInt32 :=
  (x <<< k) ||| (x >>> (32 - k))

/- The state before the first block. -/
def initial : State :=
  ⟨0x67452301, 0xefcdab89, 0x98badcfe, 0x10325476, 0xc3d2e1f0⟩

/- The mixing function and constant of a round. -/
def mix
    (round : Nat)
    (b c d : UInt32) : UInt32 × UInt32 :=
  if round < 20 then
    ((b &&& c) ||| ((~~~b) &&& d), 0x5a827999)
  else if round < 40 then
    (b ^^^ c ^^^ d, 0x6ed9eba1)
  else if round < 60 then
    ((b &&& c) ||| (b &&& d) ||| (c &&& d), 0x8f1bbcdc)
  else
    (b ^^^ c ^^^ d, 0xca62c1d6)

/- One round with the schedule word `w`. -/
def State.step
    (s : State)
    (round : Nat)
    (w : UInt32) : State :=
  let (f, k) := mix round s.b s.c s.d
  ⟨rotateLeft s.a 5 + f + s.e + k + w, s.a,
    rotateLeft s.b 30, s.c, s.d⟩

/- The word that follows a window of sixteen schedule words. -/
def nextWord (window : List UInt32) : UInt32 :=
  rotateLeft
    (window.getD 13 0 ^^^ window.getD 8 0
      ^^^ window.getD 2 0 ^^^ window.getD 0 0) 1

/-
  Run the rounds that are left.  The window holds the next
  sixteen schedule words, the present one first.
-/
def rounds
    (left : Nat)
    (window : List UInt32)
    (s : State) : State :=
  match left with
  | 0 => s
  | n + 1 =>
      rounds n (window.drop 1 ++ [nextWord window])
        (s.step (79 - n) (window.getD 0 0))

/- The words of a block. -/
def words (block : Bytes) : List UInt32 :=
  (groups 4 block).map fun w => UInt32.ofNat (Bytes.toNat w)

/- Compress one block into the state. -/
def compress
    (s : State)
    (block : Bytes) : State :=
  let t := rounds 80 (words block) s
  ⟨s.a + t.a, s.b + t.b, s.c + t.c, s.d + t.d, s.e + t.e⟩

end Sha1

/- The SHA-1 digest of a message, twenty bytes. -/
def sha1 (message : Bytes) : Bytes :=
  let s := (groups 64 (pad 64 8 message)).foldl
    Sha1.compress Sha1.initial
  [s.a, s.b, s.c, s.d, s.e].flatMap fun w =>
    Bytes.ofNatWidth 4 w.toNat

end Hash

end KeyAssertion
