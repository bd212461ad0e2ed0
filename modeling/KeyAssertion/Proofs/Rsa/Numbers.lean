import Mathlib.Data.Nat.GCD.Basic
import KeyAssertion.Rsa.Numbers

/-
  What the check of a private key's numbers demands: the parts
  of soundness, the sizes that follow from them, and the sizes
  that do not.

  Key definitions include:
    * `Rsa.Numbers.Sound`

  Key theorems include:
    * `Rsa.Numbers.isSound_iff`
    * `Rsa.PrivateKey.check_numbers`
    * `Rsa.Numbers.check_eq_ok_iff`
-/

namespace KeyAssertion

namespace Rsa

namespace Numbers

/- The parts of soundness, as propositions. -/
structure Sound (k : Numbers) : Prop where
  e_odd : k.e % 2 = 1
  e_ne_one : k.e ≠ 1
  product : k.p * k.q = k.n
  p_odd : k.p % 2 = 1
  q_odd : k.q % 2 = 1
  p_passes : isProbablePrime k.p = true
  q_passes : isProbablePrime k.q = true
  inverse : k.d * k.e % Nat.lcm (k.p - 1) (k.q - 1) = 1
  dp_eq : k.dp = k.d % (k.p - 1)
  dq_eq : k.dq = k.d % (k.q - 1)
  qi_lt : k.qi < k.p
  qi_inverse : k.qi * k.q % k.p = 1

/- Numbers belong together if all the parts hold. -/
theorem isSound_iff (k : Numbers) :
    k.isSound = true ↔ k.Sound := by
  unfold isSound
  simp only [Bool.and_eq_true, beq_iff_eq, bne_iff_ne, decide_eq_true_eq]
  constructor
  · rintro ⟨⟨⟨⟨⟨⟨⟨⟨⟨⟨⟨h₁, h₂⟩, h₃⟩, h₄⟩, h₅⟩, h₆⟩, h₇⟩, h₈⟩, h₉⟩, h₁₀⟩,
      h₁₁⟩, h₁₂⟩
    exact ⟨h₁, h₂, h₃, h₄, h₅, h₆, h₇, h₈, h₉, h₁₀, h₁₁, h₁₂⟩
  · rintro ⟨h₁, h₂, h₃, h₄, h₅, h₆, h₇, h₈, h₉, h₁₀, h₁₁, h₁₂⟩
    exact ⟨⟨⟨⟨⟨⟨⟨⟨⟨⟨⟨h₁, h₂⟩, h₃⟩, h₄⟩, h₅⟩, h₆⟩, h₇⟩, h₈⟩, h₉⟩, h₁₀⟩,
      h₁₁⟩, h₁₂⟩

end Numbers

/- The numbers of a key belong together. -/
theorem PrivateKey.isSound (key : PrivateKey) :
    key.numbers.Sound :=
  (Numbers.isSound_iff _).mp key.sound

------------------------------------------------------------
-- Sizes
------------------------------------------------------------

/- What passes for a prime is at least two. -/
theorem two_le_of_isProbablePrime
    {n : Nat}
    (h : isProbablePrime n = true) :
    2 ≤ n := by
  unfold isProbablePrime at h
  by_cases hSmall : n < 2
  · simp [hSmall] at h
  · omega

namespace Numbers

namespace Sound

variable {k : Numbers}

/- The first factor is at least three. -/
theorem three_le_p (h : k.Sound) :
    3 ≤ k.p := by
  have hTwo := two_le_of_isProbablePrime h.p_passes
  have hOdd := h.p_odd
  omega

/- So is the second one. -/
theorem three_le_q (h : k.Sound) :
    3 ≤ k.q := by
  have hTwo := two_le_of_isProbablePrime h.q_passes
  have hOdd := h.q_odd
  omega

/- The modulus is three times a factor, or more. -/
theorem three_mul_p_le (h : k.Sound) :
    3 * k.p ≤ k.n := by
  rw [← h.product, Nat.mul_comm k.p]
  exact Nat.mul_le_mul_right k.p h.three_le_q

/- This holds for the second factor, too. -/
theorem three_mul_q_le (h : k.Sound) :
    3 * k.q ≤ k.n := by
  rw [← h.product]
  exact Nat.mul_le_mul_right k.q h.three_le_p

/- The public exponent is at least three. -/
theorem three_le_e (h : k.Sound) :
    3 ≤ k.e := by
  have hOdd := h.e_odd
  have hOne := h.e_ne_one
  omega

/- The common multiple of the orders is even and not zero. -/
theorem two_dvd_lcm (h : k.Sound) :
    2 ∣ Nat.lcm (k.p - 1) (k.q - 1) := by
  have hOdd := h.p_odd
  have hEven : 2 ∣ k.p - 1 := by
    omega
  exact hEven.trans (Nat.dvd_lcm_left _ _)

/- The private exponent is odd, like all that is inverse to another. -/
theorem d_odd (h : k.Sound) :
    k.d % 2 = 1 := by
  have hProduct : k.d * k.e % 2 = 1 := by
    rw [← Nat.mod_mod_of_dvd _ h.two_dvd_lcm, h.inverse]
  by_contra hEven
  have hZero : k.d % 2 = 0 := by
    omega
  rw [Nat.mul_mod, hZero] at hProduct
  simp at hProduct

/- The exponent reduced for the first factor is odd. -/
theorem dp_odd (h : k.Sound) :
    k.dp % 2 = 1 := by
  have hOdd := h.p_odd
  rw [h.dp_eq, Nat.mod_mod_of_dvd _ (by omega), h.d_odd]

/- So is the one reduced for the second factor. -/
theorem dq_odd (h : k.Sound) :
    k.dq % 2 = 1 := by
  have hOdd := h.q_odd
  rw [h.dq_eq, Nat.mod_mod_of_dvd _ (by omega), h.d_odd]

/- A reduced exponent is below the factor. -/
theorem dp_lt (h : k.Sound) :
    k.dp < k.p := by
  have hThree := h.three_le_p
  have hMod := Nat.mod_lt k.d (y := k.p - 1) (by omega)
  rw [h.dp_eq]
  omega

/- So is the other one. -/
theorem dq_lt (h : k.Sound) :
    k.dq < k.q := by
  have hThree := h.three_le_q
  have hMod := Nat.mod_lt k.d (y := k.q - 1) (by omega)
  rw [h.dq_eq]
  omega

/-
  Of all the sizes that are asked for, those of the two
  exponents alone are not a part of soundness.
-/
theorem sizeFault?_eq (h : k.Sound) :
    k.sizeFault? =
      if k.n ≤ k.d then some (.notBelowModulus "private_exponent")
      else if k.n ≤ k.e then some .exponentRange
      else none := by
  have hP := h.three_le_p
  have hPn := h.three_mul_p_le
  have hQn := h.three_mul_q_le
  have hDp := h.dp_lt
  have hDq := h.dq_lt
  have hQi := h.qi_lt
  have hE := h.three_le_e
  have hFind :
      (k.bounded.find? fun x => decide (k.n ≤ x.2)) =
        if k.n ≤ k.d then some ("private_exponent", k.d) else none := by
    have h₁ : ¬ k.n ≤ k.p := by omega
    have h₂ : ¬ k.n ≤ k.q := by omega
    have h₃ : ¬ k.n ≤ k.dp := by omega
    have h₄ : ¬ k.n ≤ k.dq := by omega
    have h₅ : ¬ k.n ≤ k.qi := by omega
    by_cases hD : k.n ≤ k.d
    · simp [bounded, h₁, h₂, h₃, h₄, h₅, hD]
    · simp [bounded, h₁, h₂, h₃, h₄, h₅, hD]
  unfold sizeFault?
  rw [if_neg (by omega), hFind]
  by_cases hD : k.n ≤ k.d
  · simp [hD]
  · by_cases hRange : k.n ≤ k.e
    · simp [hD, hRange]
    · simp [hD, hRange, h.e_odd, h.dp_odd, h.dq_odd, h.product, hE]

end Sound

end Numbers

/-
  The numbers of a key pass the check if and only if both
  exponents are below the modulus.
-/
theorem PrivateKey.check_numbers (key : PrivateKey) :
    key.numbers.check =
      if key.numbers.n ≤ key.numbers.d then
        .error (.notBelowModulus "private_exponent")
      else if key.numbers.n ≤ key.numbers.e then
        .error .exponentRange
      else
        .ok key := by
  unfold Numbers.check
  rw [key.isSound.sizeFault?_eq]
  by_cases hD : key.numbers.n ≤ key.numbers.d
  · simp [hD]
  · by_cases hE : key.numbers.n ≤ key.numbers.e
    · simp [hD, hE]
    · simp [hD, hE, Numbers.toKey?, key.sound]

/- A check that succeeds gives the key of the numbers. -/
theorem Numbers.check_eq_ok_iff
    (k : Numbers)
    (key : PrivateKey) :
    k.check = .ok key ↔ key.numbers = k ∧ k.d < k.n ∧ k.e < k.n := by
  constructor
  · intro h
    have hNumbers : key.numbers = k := by
      unfold check toKey? at h
      split at h
      · cases h
      · split at h
        · case _ hKey =>
            split at hKey
            · cases hKey
              cases h
              rfl
            · cases hKey
        · cases h
    subst hNumbers
    rw [key.check_numbers] at h
    split_ifs at h with hD hE
    exact ⟨rfl, by omega, by omega⟩
  · rintro ⟨rfl, hD, hE⟩
    rw [key.check_numbers, if_neg (by omega), if_neg (by omega)]

end Rsa

end KeyAssertion
