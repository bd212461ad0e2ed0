import KeyAssertion.Hash.Sha256
import KeyAssertion.Hash.Sha512
import KeyAssertion.Rsa.Numbers

/-
  This file defines RSA signatures over a digest, with the
  deterministic padding (EMSA-PKCS1-v1_5) and the salted one
  (EMSA-PSS), and their verification.

  Key definitions include:
    * `Rsa.Digest`
    * `Rsa.Padding`
    * `Rsa.privatePower`
    * `Rsa.sign`
    * `Rsa.verify`
-/

namespace KeyAssertion

namespace Rsa

------------------------------------------------------------
-- Digests
------------------------------------------------------------

/- The hash functions of signatures. -/
inductive Digest
  | sha256
  | sha384
  | sha512
deriving DecidableEq, Repr

namespace Digest

/- The digest of a message. -/
def hash : Digest → Bytes → Bytes
  | .sha256 => Hash.sha256
  | .sha384 => Hash.sha384
  | .sha512 => Hash.sha512

/- The length of a digest. -/
def length : Digest → Nat
  | .sha256 => 32
  | .sha384 => 48
  | .sha512 => 64

/- The DER structure that names the hash function before a digest. -/
def infoPrefix (h : Digest) : Bytes :=
  let (total, last, octets) : UInt8 × UInt8 × UInt8 :=
    match h with
    | .sha256 => (0x31, 0x01, 0x20)
    | .sha384 => (0x41, 0x02, 0x30)
    | .sha512 => (0x51, 0x03, 0x40)
  [0x30, total, 0x30, 0x0d, 0x06, 0x09, 0x60, 0x86, 0x48, 0x01,
    0x65, 0x03, 0x04, 0x02, last, 0x05, 0x00, 0x04, octets]

end Digest

/- The two paddings. -/
inductive Padding
  | pkcs1
  | pss
deriving DecidableEq, Repr

/- Why a key cannot sign with a padding and hash function. -/
inductive SignFault
  | digestTooLarge
  | tooLong
deriving DecidableEq, Repr

/- The wording of a fault. -/
def SignFault.message : SignFault → String
  | .digestTooLarge =>
      "Digest too large for key size. Use a larger key or different digest."
  | .tooLong =>
      "Digest or salt length too long for key size. Use a larger key or "
        ++ "shorter salt length if you are specifying a PSS salt"

------------------------------------------------------------
-- Deterministic Padding
------------------------------------------------------------

/- The padded digest of a message in `width` bytes. -/
def pkcs1Encode
    (h : Digest)
    (width : Nat)
    (message : Bytes) : Except SignFault Bytes :=
  let info := h.infoPrefix ++ h.hash message
  if width < info.length + 11 then
    .error .tooLong
  else
    .ok (0 :: 1 :: List.replicate (width - info.length - 3) 0xff
      ++ 0 :: info)

------------------------------------------------------------
-- Salted Padding
------------------------------------------------------------

/- The mask generated from a seed, of `length` bytes. -/
def mask
    (h : Digest)
    (seed : Bytes)
    (length : Nat) : Bytes :=
  let blocks := (length + h.length - 1) / h.length
  ((List.range blocks).flatMap fun i =>
    h.hash (seed ++ Bytes.ofNatWidth 4 i)).take length

/- Bytes combined one by one. -/
def xorBytes (a b : Bytes) : Bytes :=
  a.zipWith (· ^^^ ·) b

/- Clear the leading bits of the first byte. -/
def clearLeading
    (count : Nat) : Bytes → Bytes
  | [] => []
  | b :: rest => (b &&& (0xff >>> UInt8.ofNat count)) :: rest

/- The hash that binds a digest and a salt. -/
def saltedHash
    (h : Digest)
    (digest salt : Bytes) : Bytes :=
  h.hash (List.replicate 8 0 ++ digest ++ salt)

/- The padded digest of a message in `bits` bits. -/
def pssEncode
    (h : Digest)
    (bits : Nat)
    (salt message : Bytes) : Except SignFault Bytes :=
  let width := (bits + 7) / 8
  if width < h.length + salt.length + 2 then
    .error .tooLong
  else
    let tag := saltedHash h (h.hash message) salt
    let block :=
      List.replicate (width - h.length - salt.length - 2) 0
        ++ 1 :: salt
    let masked := clearLeading (8 * width - bits)
      (xorBytes block (mask h tag block.length))
    .ok (masked ++ tag ++ [0xbc])

/-
  Whether bytes are the padded digest of a message in `bits`
  bits, with a salt as long as the digest.
-/
def pssVerify
    (h : Digest)
    (bits : Nat)
    (message encoded : Bytes) : Bool :=
  let width := (bits + 7) / 8
  let masked := encoded.take (width - h.length - 1)
  let tag := (encoded.drop masked.length).take h.length
  let block := clearLeading (8 * width - bits)
    (xorBytes masked (mask h tag masked.length))
  let zeros := masked.length - h.length - 1
  let salt := block.drop (zeros + 1)
  encoded.length == width
    && decide (2 * h.length + 2 ≤ width)
    && encoded.getLast? == some 0xbc
    && clearLeading (8 * width - bits) masked == masked
    && block.take (zeros + 1) == List.replicate zeros 0 ++ [1]
    && saltedHash h (h.hash message) salt == tag

------------------------------------------------------------
-- Signatures
------------------------------------------------------------

/-
  The private operation: the power is taken for each factor
  and the two results are put together.
-/
def privatePower
    (k : Numbers)
    (m : Nat) : Nat :=
  let a := powMod (m % k.p) k.dp k.p
  let b := powMod (m % k.q) k.dq k.q
  let h := k.qi * ((a + k.p - b % k.p) % k.p) % k.p
  b + k.q * h

/- The public operation. -/
def publicPower (n e m : Nat) : Nat :=
  powMod m e n

/- Sign a message.  The salt is used by the salted padding only. -/
def sign
    (key : PrivateKey)
    (padding : Padding)
    (h : Digest)
    (salt message : Bytes) : Except SignFault Bytes :=
  let width := (key.bits + 7) / 8
  let encoded : Except SignFault Bytes :=
    match padding with
    | .pkcs1 => pkcs1Encode h width message
    | .pss =>
        if width < h.length + 2 then
          .error .digestTooLarge
        else
          pssEncode h (key.bits - 1) salt message
  encoded.map fun em =>
    Bytes.ofNatWidth width (privatePower key.numbers (Bytes.toNat em))

/- Whether a signature over a message verifies under a public key. -/
def verify
    (n e : Nat)
    (padding : Padding)
    (h : Digest)
    (message signature : Bytes) : Bool :=
  let bits := Bytes.bitLength n
  let width := (bits + 7) / 8
  let opened := publicPower n e (Bytes.toNat signature)
  signature.length == width
    && decide (Bytes.toNat signature < n)
    && match padding with
      | .pkcs1 =>
          match pkcs1Encode h width message with
          | .ok em => Bytes.toNat em == opened
          | .error _ => false
      | .pss =>
          pssVerify h (bits - 1) message
            (Bytes.ofNatWidth ((bits - 1 + 7) / 8) opened)

end Rsa

end KeyAssertion
