import Mathlib.FieldTheory.Finite.Basic
import Mathlib.Data.Nat.Totient
import KeyAssertion.Proofs.Encoding.Bytes
import KeyAssertion.Proofs.Rsa.Numbers
import KeyAssertion.Proofs.Rsa.Power
import KeyAssertion.Proofs.Rsa.Signature

/-
  The public operation of a key undoes the private one if both
  factors are primes, and opens a signature to the padded
  digest that was signed.

  Key theorems include:
    * `Rsa.pow_modEq_self`
    * `Rsa.Numbers.Sound.privatePower_pow_modEq`
    * `Rsa.pow_of_sign`
    * `Rsa.verify_of_sign`
-/

namespace KeyAssertion

namespace Rsa

------------------------------------------------------------
-- Powers
------------------------------------------------------------

/-
  Modulo a prime every number is its own power to an exponent
  that leaves one modulo the prime less one.
-/
theorem pow_modEq_self
    {p t : Nat}
    (hPrime : p.Prime)
    (hPositive : 0 < t)
    (h : t ≡ 1 [MOD p - 1])
    (m : Nat) :
    m ^ t ≡ m [MOD p] := by
  by_cases hDvd : p ∣ m
  · have hZero : m ≡ 0 [MOD p] :=
      (Nat.modEq_zero_iff_dvd).mpr hDvd
    have hPower : m ^ t ≡ 0 [MOD p] :=
      (Nat.modEq_zero_iff_dvd).mpr (hDvd.pow hPositive.ne')
    exact hPower.trans hZero.symm
  · have hCoprime : m.Coprime p :=
      ((Nat.Prime.coprime_iff_not_dvd hPrime).mpr hDvd).symm
    have hFermat : m ^ (p - 1) ≡ 1 [MOD p] := by
      rw [← Nat.totient_prime hPrime]
      exact Nat.ModEq.pow_totient hCoprime
    rcases (Nat.modEq_iff_dvd' hPositive).mp h.symm with ⟨k, hk⟩
    have hExponent : t = (p - 1) * k + 1 := by
      omega
    calc
      m ^ t = (m ^ (p - 1)) ^ k * m := by
        rw [hExponent, Nat.pow_succ, Nat.pow_mul]
      _ ≡ 1 ^ k * m [MOD p] := (hFermat.pow k).mul_right m
      _ = m := by rw [Nat.one_pow, Nat.one_mul]

------------------------------------------------------------
-- The Private Operation
------------------------------------------------------------

namespace Numbers

namespace Sound

variable {k : Numbers}

/- The inverse of the second factor is one modulo the first. -/
theorem q_mul_qi_modEq_one (h : k.Sound) :
    k.q * k.qi ≡ 1 [MOD k.p] := by
  have hp := h.three_le_p
  rw [Nat.ModEq, Nat.mul_comm, h.qi_inverse, Nat.mod_eq_of_lt (by omega)]

/- So the two factors have no factor in common. -/
theorem coprime (h : k.Sound) :
    k.p.Coprime k.q :=
  (Nat.coprime_of_mul_modEq_one _ h.q_mul_qi_modEq_one).symm

/- They are different. -/
theorem p_ne_q (h : k.Sound) :
    k.p ≠ k.q := by
  intro hSame
  have hCoprime := h.coprime
  have hThree := h.three_le_q
  rw [hSame, Nat.coprime_self] at hCoprime
  omega

/- The private operation gives a number below the modulus. -/
theorem privatePower_lt
    (h : k.Sound)
    (m : Nat) :
    privatePower k m < k.n := by
  have hp := h.three_le_p
  have hq := h.three_le_q
  unfold privatePower
  simp only [powMod_eq]
  have hb := Nat.mod_lt ((m % k.q) ^ k.dq) (y := k.q) (by omega)
  have hh := Nat.mod_lt
    (k.qi * (((m % k.p) ^ k.dp % k.p + k.p -
      (m % k.q) ^ k.dq % k.q % k.p) % k.p)) (y := k.p) (by omega)
  have hMul := Nat.mul_le_mul_left k.q (Nat.succ_le_of_lt hh)
  rw [Nat.mul_succ] at hMul
  rw [← h.product, Nat.mul_comm k.p]
  omega

/- Modulo the second factor it is the power that was taken for it. -/
theorem privatePower_modEq_q (m : Nat) :
    privatePower k m ≡ m ^ k.dq [MOD k.q] := by
  unfold privatePower
  simp only [powMod_eq, ← Nat.pow_mod]
  unfold Nat.ModEq
  rw [Nat.add_mul_mod_self_left, Nat.mod_mod]

/-
  So it is modulo the first factor: the inverse of the second
  one takes away what the second power has too much.
-/
theorem privatePower_modEq_p
    (h : k.Sound)
    (m : Nat) :
    privatePower k m ≡ m ^ k.dp [MOD k.p] := by
  have hp := h.three_le_p
  unfold privatePower
  simp only [powMod_eq, ← Nat.pow_mod]
  generalize m ^ k.dq % k.q = b
  have hLess := Nat.mod_lt b (y := k.p) (by omega)
  calc
    b + k.q * (k.qi * ((m ^ k.dp % k.p + k.p - b % k.p) % k.p) % k.p)
      ≡ b + k.q * (k.qi * (m ^ k.dp % k.p + k.p - b % k.p))
        [MOD k.p] := by
          apply Nat.ModEq.add_left
          apply Nat.ModEq.mul_left
          apply (Nat.mod_modEq _ _).trans
          exact (Nat.mod_modEq _ _).mul_left k.qi
    _ = b + k.q * k.qi * (m ^ k.dp % k.p + k.p - b % k.p) := by
          rw [Nat.mul_assoc]
    _ ≡ b % k.p + 1 * (m ^ k.dp % k.p + k.p - b % k.p) [MOD k.p] :=
          (Nat.mod_modEq _ _).symm.add (h.q_mul_qi_modEq_one.mul_right _)
    _ = m ^ k.dp % k.p + k.p := by
          omega
    _ ≡ m ^ k.dp [MOD k.p] := by
          rw [Nat.ModEq, Nat.add_mod_right, Nat.mod_mod]

/-
  The product of the exponents leaves one modulo each factor
  less one.
-/
theorem d_mul_e_modEq_one
    (h : k.Sound)
    {order : Nat}
    (hOrder : order ∣ Nat.lcm (k.p - 1) (k.q - 1)) :
    k.d * k.e ≡ 1 [MOD order] := by
  have hInverse := (Nat.mod_modEq (k.d * k.e) _).symm.of_dvd hOrder
  rw [h.inverse] at hInverse
  exact hInverse

/- So does the product of a reduced exponent and the public one. -/
theorem mul_e_modEq_one
    (h : k.Sound)
    {order reduced : Nat}
    (hOrder : order ∣ Nat.lcm (k.p - 1) (k.q - 1))
    (hReduced : reduced = k.d % order) :
    reduced * k.e ≡ 1 [MOD order] := by
  rw [hReduced]
  exact ((Nat.mod_modEq k.d order).mul_right k.e).trans
    (h.d_mul_e_modEq_one hOrder)

/- The public operation undoes the private one. -/
theorem privatePower_pow_modEq
    (h : k.Sound)
    (hp : k.p.Prime)
    (hq : k.q.Prime)
    (m : Nat) :
    privatePower k m ^ k.e ≡ m [MOD k.n] := by
  have hPositive : ∀ reduced, reduced % 2 = 1 → 0 < reduced * k.e := by
    intro reduced hOdd
    have hThree := h.three_le_e
    apply Nat.mul_pos
    · omega
    · omega
  have hModP : privatePower k m ^ k.e ≡ m [MOD k.p] := by
    apply ((h.privatePower_modEq_p m).pow k.e).trans
    rw [← Nat.pow_mul]
    exact pow_modEq_self hp (hPositive _ h.dp_odd)
      (h.mul_e_modEq_one (Nat.dvd_lcm_left _ _) h.dp_eq) m
  have hModQ : privatePower k m ^ k.e ≡ m [MOD k.q] := by
    apply ((privatePower_modEq_q m).pow k.e).trans
    rw [← Nat.pow_mul]
    exact pow_modEq_self hq (hPositive _ h.dq_odd)
      (h.mul_e_modEq_one (Nat.dvd_lcm_right _ _) h.dq_eq) m
  rw [← h.product]
  exact (Nat.modEq_and_modEq_iff_modEq_mul h.coprime).mp ⟨hModP, hModQ⟩

end Sound

end Numbers

------------------------------------------------------------
-- Signatures
------------------------------------------------------------

/- The modulus of a key is not zero. -/
theorem PrivateKey.n_ne_zero (key : PrivateKey) :
    key.numbers.n ≠ 0 := by
  have hp := key.isSound.three_le_p
  have hn := key.isSound.three_mul_p_le
  omega

/- The bytes that it is said to have are its width. -/
theorem PrivateKey.width_eq (key : PrivateKey) :
    (key.bits + 7) / 8 = Bytes.widthOf key.numbers.n := by
  rw [Bytes.widthOf_eq key.n_ne_zero, PrivateKey.bits]

/-
  A padded digest begins with a zero byte, so it is below any
  number of the same width.
-/
theorem toNat_lt_of_pkcs1Encode
    {h : Digest}
    {n : Nat}
    {message em : Bytes}
    (hn : n ≠ 0)
    (hEncode : pkcs1Encode h (Bytes.widthOf n) message = .ok em) :
    Bytes.toNat em < n := by
  rw [pkcs1Encode_eq] at hEncode
  split_ifs at hEncode with hRoom
  cases hEncode
  let padded := 1 :: List.replicate (Bytes.widthOf n - h.length - 22) 0xff
    ++ 0 :: (h.infoPrefix ++ h.hash message)
  have hZero : Bytes.toNat (0 :: padded) = Bytes.toNat padded := by
    simp [Bytes.toNat]
  have hLength : padded.length = Bytes.widthOf n - 1 := by
    simp only [padded, List.length_append, List.length_cons,
      List.length_replicate, h.length_infoPrefix, h.length_hash]
    omega
  calc
    Bytes.toNat (0 :: padded) = Bytes.toNat padded := hZero
    _ < 256 ^ (Bytes.widthOf n - 1) := by
      rw [← hLength]
      exact Bytes.toNat_lt padded
    _ ≤ n := Bytes.pow_widthOf_le hn

/-
  A signature with the deterministic padding is below the
  modulus, has its width, and its power is the padded digest.
-/
theorem pow_of_sign
    {key : PrivateKey}
    {h : Digest}
    {salt message s : Bytes}
    (hp : key.numbers.p.Prime)
    (hq : key.numbers.q.Prime)
    (hSign : sign key .pkcs1 h salt message = .ok s) :
    s.length = (key.bits + 7) / 8 ∧
      Bytes.toNat s < key.numbers.n ∧
      ∃ em, pkcs1Encode h ((key.bits + 7) / 8) message = .ok em ∧
        Bytes.toNat s ^ key.numbers.e % key.numbers.n =
          Bytes.toNat em := by
  rcases (Attempt.map_eq_ok_iff _ _ _).mp hSign with ⟨em, hEncode, rfl⟩
  let power := privatePower key.numbers (Bytes.toNat em)
  have hPower : power < key.numbers.n :=
    key.isSound.privatePower_lt _
  have hRead :
      Bytes.toNat (Bytes.ofNatWidth ((key.bits + 7) / 8) power) =
        power := by
    rw [Bytes.toNat_ofNatWidth, key.width_eq]
    exact Nat.mod_eq_of_lt (hPower.trans (Bytes.lt_pow_widthOf _))
  have hLess : Bytes.toNat em < key.numbers.n := by
    rw [key.width_eq] at hEncode
    exact toNat_lt_of_pkcs1Encode key.n_ne_zero hEncode
  refine ⟨Bytes.length_ofNatWidth _ _, ?_, em, hEncode, ?_⟩
  · rw [hRead]
    exact hPower
  · rw [hRead, key.isSound.privatePower_pow_modEq hp hq _,
      Nat.mod_eq_of_lt hLess]

/- What a key signs is verified with its modulus and public exponent. -/
theorem verify_of_sign
    {key : PrivateKey}
    {h : Digest}
    {salt message s : Bytes}
    (hp : key.numbers.p.Prime)
    (hq : key.numbers.q.Prime)
    (hSign : sign key .pkcs1 h salt message = .ok s) :
    verify key.numbers.n key.numbers.e .pkcs1 h message s = true := by
  rcases pow_of_sign hp hq hSign with ⟨hLength, hLess, em, hEncode, hPower⟩
  unfold PrivateKey.bits at hLength hEncode
  unfold verify
  simp [hLength, hLess, hEncode, publicPower, powMod_eq, hPower]

end Rsa

end KeyAssertion
