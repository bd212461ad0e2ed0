import KeyAssertion.Attempt
import KeyAssertion.Rsa.Signature

/-
  When a key has room for a padded digest, and that this alone
  decides whether it signs.

  Key definitions include:
    * `Rsa.HasRoom`

  Key theorems include:
    * `Rsa.Digest.length_hash`
    * `Rsa.pkcs1Encode_eq`
    * `Rsa.exists_sign_iff`
-/

namespace KeyAssertion

namespace Rsa

------------------------------------------------------------
-- Lengths of Digests
------------------------------------------------------------

/- Words of equal width make bytes of that width each. -/
theorem length_flatMap_ofNatWidth
    {α : Type}
    (words : List α)
    (width : Nat)
    (value : α → Nat) :
    (words.flatMap fun w => Bytes.ofNatWidth width (value w)).length =
      words.length * width := by
  induction words with
  | nil => simp
  | cons w rest ih =>
      rw [List.flatMap_cons, List.length_append, ih,
        Bytes.length_ofNatWidth, List.length_cons, Nat.succ_mul,
        Nat.add_comm]

namespace Digest

/- A digest is as long as its hash function says. -/
theorem length_hash
    (h : Digest)
    (message : Bytes) :
    (h.hash message).length = h.length := by
  cases h with
  | sha256 =>
      unfold hash Hash.sha256 Hash.Sha256.digestFrom
      exact length_flatMap_ofNatWidth _ 4 _
  | sha384 =>
      unfold hash Hash.sha384 Hash.Sha512.digestFrom
      rw [List.length_take, length_flatMap_ofNatWidth]
      rfl
  | sha512 =>
      unfold hash Hash.sha512 Hash.Sha512.digestFrom
      exact length_flatMap_ofNatWidth _ 8 _

/- The structure before a digest has the same length for all. -/
theorem length_infoPrefix (h : Digest) :
    h.infoPrefix.length = 19 := by
  cases h with
  | sha256 => rfl
  | sha384 => rfl
  | sha512 => rfl

end Digest

------------------------------------------------------------
-- Room
------------------------------------------------------------

/-
  Whether a modulus of so many bits has room for a padded
  digest: the structure that names the hash function and
  eleven more bytes, or a salt as long as the digest and two
  more bytes.
-/
def HasRoom
    (padding : Padding)
    (h : Digest)
    (bits : Nat) : Prop :=
  match padding with
  | .pkcs1 => h.length + 30 ≤ (bits + 7) / 8
  | .pss => 2 * h.length + 2 ≤ (bits - 1 + 7) / 8

instance
    (padding : Padding)
    (h : Digest)
    (bits : Nat) :
    Decidable (HasRoom padding h bits) := by
  unfold HasRoom
  cases padding with
  | pkcs1 => exact inferInstance
  | pss => exact inferInstance

/- The deterministic padding needs its room and nothing else. -/
theorem pkcs1Encode_eq
    (h : Digest)
    (width : Nat)
    (message : Bytes) :
    pkcs1Encode h width message =
      if h.length + 30 ≤ width then
        .ok (0 :: 1 :: List.replicate (width - h.length - 22) 0xff
          ++ 0 :: (h.infoPrefix ++ h.hash message))
      else
        .error .tooLong := by
  have hInfo :
      (h.infoPrefix ++ h.hash message).length = h.length + 19 := by
    rw [List.length_append, h.length_infoPrefix, h.length_hash,
      Nat.add_comm]
  unfold pkcs1Encode
  simp only [hInfo]
  by_cases hRoom : h.length + 30 ≤ width
  · rw [if_pos hRoom, if_neg (by omega),
      show width - (h.length + 19) - 3 = width - h.length - 22 by omega]
  · rw [if_neg hRoom, if_pos (by omega)]

/- So does the salted padding, for a salt as long as the digest. -/
theorem exists_pssEncode_iff
    {h : Digest}
    {salt : Bytes}
    (bits : Nat)
    (message : Bytes)
    (hSalt : salt.length = h.length) :
    (∃ em, pssEncode h bits salt message = .ok em) ↔
      2 * h.length + 2 ≤ (bits + 7) / 8 := by
  unfold pssEncode
  by_cases hRoom : 2 * h.length + 2 ≤ (bits + 7) / 8
  · have hWidth : ¬ (bits + 7) / 8 < h.length + h.length + 2 := by
      omega
    simp [hSalt, hRoom, hWidth]
  · have hWidth : (bits + 7) / 8 < h.length + h.length + 2 := by
      omega
    simp [hSalt, hRoom, hWidth]

/-
  A key signs if and only if it has room.  The check that comes
  before the salted padding asks for no more than the padding.
-/
theorem exists_sign_iff
    {h : Digest}
    {salt : Bytes}
    (key : PrivateKey)
    (padding : Padding)
    (message : Bytes)
    (hSalt : salt.length = h.length) :
    (∃ s, sign key padding h salt message = .ok s) ↔
      HasRoom padding h key.bits := by
  unfold sign
  simp only [Attempt.map_eq_ok_iff, exists_comm (α := Bytes),
    exists_and_left, exists_eq', and_true]
  cases padding with
  | pkcs1 =>
      simp only [HasRoom, pkcs1Encode_eq]
      by_cases hRoom : h.length + 30 ≤ (key.bits + 7) / 8
      · simp [hRoom]
      · simp [hRoom]
  | pss =>
      simp only [HasRoom]
      rw [← exists_pssEncode_iff (key.bits - 1) message hSalt]
      by_cases hSmall : (key.bits + 7) / 8 < h.length + 2
      · rw [if_pos hSmall, exists_pssEncode_iff _ _ hSalt]
        constructor
        · rintro ⟨em, hError⟩
          cases hError
        · intro hRoom
          omega
      · rw [if_neg hSmall]

end Rsa

end KeyAssertion
