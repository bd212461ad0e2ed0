import Mathlib.Data.Int.ModEq
import KeyAssertion.Rsa.Power

/-
  The inverse that Euclid's algorithm gives.  Each step keeps
  what the coefficients say of the two numbers, and two steps
  halve the second number, so that it comes to zero before the
  fuel is used up.

  Key theorems include:
    * `Rsa.two_mul_mod_mod_lt`
    * `Rsa.euclid_modEq`
    * `Rsa.inverseMod_lt`
    * `Rsa.inverseMod_mul_modEq`
-/

namespace KeyAssertion

namespace Rsa

/- Two steps halve the second number. -/
theorem two_mul_mod_mod_lt
    {a b : Nat}
    (hSecond : 0 < b)
    (hRest : 0 < a % b) :
    2 * (b % (a % b)) < b := by
  have hLess : a % b < b := Nat.mod_lt a hSecond
  have hMod : b % (a % b) < a % b := Nat.mod_lt b hRest
  by_cases hHalf : 2 * (a % b) ≤ b
  · omega
  · have hSub : b % (a % b) = b - a % b := by
      rw [Nat.mod_eq_sub_mod (Nat.le_of_lt hLess)]
      apply Nat.mod_eq_of_lt
      omega
    omega

------------------------------------------------------------
-- Steps
------------------------------------------------------------

/- Once the second number is zero the coefficient is final. -/
theorem euclid_zero
    (fuel a : Nat)
    (x y : Int) :
    euclid fuel a 0 x y = x := by
  cases fuel with
  | zero => rfl
  | succ fuel => simp [euclid]

/- Else the second number takes the place of the first. -/
theorem euclid_succ
    (fuel a : Nat)
    {b : Nat}
    (x y : Int)
    (hSecond : b ≠ 0) :
    euclid (fuel + 1) a b x y =
      euclid fuel b (a % b) y (x - ((a / b : Nat) : Int) * y) := by
  rw [euclid, if_neg hSecond]

/- A step keeps what the coefficients say of the two numbers. -/
theorem step_modEq
    {c m x y : Int}
    {a b : Nat}
    (hx : x * c ≡ a [ZMOD m])
    (hy : y * c ≡ b [ZMOD m]) :
    (x - ((a / b : Nat) : Int) * y) * c ≡ (a % b : Nat) [ZMOD m] := by
  have hRest :
      ((a % b : Nat) : Int) = a - ((a / b : Nat) : Int) * b := by
    rw [Int.mul_comm]
    push_cast
    exact Int.emod_def a b
  calc
    (x - ((a / b : Nat) : Int) * y) * c
      = x * c - ((a / b : Nat) : Int) * (y * c) := by
          rw [Int.sub_mul, Int.mul_assoc]
    _ ≡ a - ((a / b : Nat) : Int) * b [ZMOD m] :=
          hx.sub (hy.mul_left _)
    _ = (a % b : Nat) := hRest.symm

/-
  The steps come to the coefficient of the greatest common
  divisor.  The induction is on the bits of the second number,
  each of which takes two steps.
-/
theorem euclid_modEq
    {c m : Int}
    {bits fuel a b : Nat}
    {x y : Int}
    (hBits : b < 2 ^ bits)
    (hFuel : 2 * bits ≤ fuel)
    (hx : x * c ≡ a [ZMOD m])
    (hy : y * c ≡ b [ZMOD m]) :
    euclid fuel a b x y * c ≡ Nat.gcd a b [ZMOD m] := by
  induction bits generalizing fuel a b x y with
  | zero =>
      have hZero : b = 0 := by
        simpa using hBits
      subst hZero
      rw [euclid_zero, Nat.gcd_zero_right]
      exact hx
  | succ bits ih =>
      obtain ⟨rest, rfl⟩ : ∃ rest, fuel = rest + 1 + 1 :=
        ⟨fuel - 2, by omega⟩
      by_cases hSecond : b = 0
      · subst hSecond
        rw [euclid_zero, Nat.gcd_zero_right]
        exact hx
      have hDivisor : ∀ i j, Nat.gcd i j = Nat.gcd j (i % j) := by
        intro i j
        rw [Nat.gcd_comm, Nat.gcd_rec, Nat.gcd_comm]
      rw [euclid_succ _ _ _ _ hSecond, hDivisor]
      by_cases hRest : a % b = 0
      · rw [hRest, euclid_zero, Nat.gcd_zero_right]
        exact hy
      · have hHalf : 2 * (b % (a % b)) < b :=
          two_mul_mod_mod_lt (Nat.pos_of_ne_zero hSecond)
            (Nat.pos_of_ne_zero hRest)
        have hFirst := step_modEq hx hy
        rw [euclid_succ _ _ _ _ hRest, hDivisor]
        apply ih
        · rw [Nat.pow_succ] at hBits
          omega
        · omega
        · exact hFirst
        · exact step_modEq hy hFirst

------------------------------------------------------------
-- Inverses
------------------------------------------------------------

section Inverses

variable {a m : Nat}

/- The inverse is below the modulus. -/
theorem inverseMod_lt
    (a : Nat)
    (hModulus : 0 < m) :
    inverseMod a m < m := by
  have hPositive : (0 : Int) < m := by
    omega
  have hLess :=
    Int.emod_lt_of_pos (euclid (2 * m.log2 + 4) a m 1 0) hPositive
  unfold inverseMod
  omega

/- Its product with the number is one. -/
theorem inverseMod_mul_modEq
    (hModulus : 0 < m)
    (hCoprime : a.Coprime m) :
    inverseMod a m * a ≡ 1 [MOD m] := by
  have hNonneg :
      0 ≤ euclid (2 * m.log2 + 4) a m 1 0 % (m : Int) := by
    apply Int.emod_nonneg
    omega
  have hSecond : (0 : Int) * a ≡ m [ZMOD m] := by
    rw [Int.zero_mul]
    exact (Int.emod_self).symm
  have hBits : m < 2 ^ (m.log2 + 1) := Nat.lt_log2_self
  have hSteps :
      euclid (2 * m.log2 + 4) a m 1 0 * a ≡ Nat.gcd a m [ZMOD m] := by
    apply euclid_modEq hBits (by omega) _ hSecond
    rw [Int.one_mul]
  rw [hCoprime.gcd_eq_one] at hSteps
  have hProduct :
      euclid (2 * m.log2 + 4) a m 1 0 % (m : Int) * a ≡ 1 [ZMOD m] :=
    ((Int.mod_modEq _ _).mul_right _).trans hSteps
  apply Int.natCast_modEq_iff.mp
  unfold inverseMod
  rw [Nat.cast_mul, Int.toNat_of_nonneg hNonneg]
  exact hProduct

end Inverses

end Rsa

end KeyAssertion
