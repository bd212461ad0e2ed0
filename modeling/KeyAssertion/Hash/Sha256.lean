import KeyAssertion.Hash.Padding

/-
  This file defines the hash function SHA-256.

  Key definitions include:
    * `Hash.sha256`
-/

namespace KeyAssertion

namespace Hash

namespace Sha256

/- The eight words that a block is compressed into. -/
structure State where
  a : UInt32
  b : UInt32
  c : UInt32
  d : UInt32
  e : UInt32
  f : UInt32
  g : UInt32
  h : UInt32
deriving DecidableEq, Repr

/- A word rotated to the right. -/
def rotateRight (x k : UInt32) : UInt32 :=
  (x >>> k) ||| (x <<< (32 - k))

/- The state before the first block. -/
def initial : State :=
  ⟨0x6a09e667, 0xbb67ae85, 0x3c6ef372, 0xa54ff53a,
    0x510e527f, 0x9b05688c, 0x1f83d9ab, 0x5be0cd19⟩

/- The constants of the rounds. -/
def constants : List UInt32 :=
  [0x428a2f98, 0x71374491, 0xb5c0fbcf, 0xe9b5dba5, 0x3956c25b,
    0x59f111f1, 0x923f82a4, 0xab1c5ed5, 0xd807aa98, 0x12835b01,
    0x243185be, 0x550c7dc3, 0x72be5d74, 0x80deb1fe, 0x9bdc06a7,
    0xc19bf174, 0xe49b69c1, 0xefbe4786, 0x0fc19dc6, 0x240ca1cc,
    0x2de92c6f, 0x4a7484aa, 0x5cb0a9dc, 0x76f988da, 0x983e5152,
    0xa831c66d, 0xb00327c8, 0xbf597fc7, 0xc6e00bf3, 0xd5a79147,
    0x06ca6351, 0x14292967, 0x27b70a85, 0x2e1b2138, 0x4d2c6dfc,
    0x53380d13, 0x650a7354, 0x766a0abb, 0x81c2c92e, 0x92722c85,
    0xa2bfe8a1, 0xa81a664b, 0xc24b8b70, 0xc76c51a3, 0xd192e819,
    0xd6990624, 0xf40e3585, 0x106aa070, 0x19a4c116, 0x1e376c08,
    0x2748774c, 0x34b0bcb5, 0x391c0cb3, 0x4ed8aa4a, 0x5b9cca4f,
    0x682e6ff3, 0x748f82ee, 0x78a5636f, 0x84c87814, 0x8cc70208,
    0x90befffa, 0xa4506ceb, 0xbef9a3f7, 0xc67178f2]

/- One round with its constant and schedule word. -/
def State.step
    (s : State)
    (k w : UInt32) : State :=
  let big₁ :=
    rotateRight s.e 6 ^^^ rotateRight s.e 11
      ^^^ rotateRight s.e 25
  let choice := (s.e &&& s.f) ^^^ ((~~~s.e) &&& s.g)
  let t₁ := s.h + big₁ + choice + k + w
  let big₀ :=
    rotateRight s.a 2 ^^^ rotateRight s.a 13
      ^^^ rotateRight s.a 22
  let majority := (s.a &&& s.b) ^^^ (s.a &&& s.c) ^^^ (s.b &&& s.c)
  ⟨t₁ + (big₀ + majority), s.a, s.b, s.c, s.d + t₁, s.e, s.f, s.g⟩

/- The word that follows a window of sixteen schedule words. -/
def nextWord (window : List UInt32) : UInt32 :=
  let x := window.getD 1 0
  let y := window.getD 14 0
  let small₀ :=
    rotateRight x 7 ^^^ rotateRight x 18 ^^^ (x >>> 3)
  let small₁ :=
    rotateRight y 17 ^^^ rotateRight y 19 ^^^ (y >>> 10)
  window.getD 0 0 + small₀ + window.getD 9 0 + small₁

/-
  Run a round for each constant.  The window holds the next
  sixteen schedule words, the present one first.
-/
def rounds
    (ks window : List UInt32)
    (s : State) : State :=
  match ks with
  | [] => s
  | k :: ks =>
      rounds ks (window.drop 1 ++ [nextWord window])
        (s.step k (window.getD 0 0))

/- The words of a block. -/
def words (block : Bytes) : List UInt32 :=
  (groups 4 block).map fun w => UInt32.ofNat (Bytes.toNat w)

/- Compress one block into the state. -/
def compress
    (s : State)
    (block : Bytes) : State :=
  let t := rounds constants (words block) s
  ⟨s.a + t.a, s.b + t.b, s.c + t.c, s.d + t.d,
    s.e + t.e, s.f + t.f, s.g + t.g, s.h + t.h⟩

/- The state after all blocks of a message, as bytes. -/
def digestFrom
    (initial : State)
    (message : Bytes) : Bytes :=
  let s := (groups 64 (pad 64 8 message)).foldl compress initial
  [s.a, s.b, s.c, s.d, s.e, s.f, s.g, s.h].flatMap fun w =>
    Bytes.ofNatWidth 4 w.toNat

end Sha256

/- The SHA-256 digest of a message, 32 bytes. -/
def sha256 (message : Bytes) : Bytes :=
  Sha256.digestFrom Sha256.initial message

end Hash

end KeyAssertion
