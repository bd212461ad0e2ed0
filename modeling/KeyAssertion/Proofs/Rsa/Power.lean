import Mathlib.Algebra.Ring.Nat
import KeyAssertion.Rsa.Power

/-
  Squaring and multiplying gives the remainder of a power.

  Key theorems include:
    * `Rsa.powMod_eq`
-/

namespace KeyAssertion

namespace Rsa

/- One step of fuel for each bit of the exponent suffices. -/
theorem powModFrom_eq
    (fuel base exponent modulus acc : Nat)
    (h : exponent < 2 ^ fuel) :
    powModFrom fuel base exponent modulus (acc % modulus) =
      acc * base ^ exponent % modulus := by
  induction fuel generalizing base exponent acc with
  | zero =>
      have hZero : exponent = 0 := by
        simpa using h
      simp [powModFrom, hZero]
  | succ fuel ih =>
      unfold powModFrom
      by_cases hZero : exponent = 0
      · simp [hZero]
      · have hHalf : exponent / 2 < 2 ^ fuel := by
          rw [Nat.pow_succ] at h
          omega
        have hPow :
            (base * base % modulus) ^ (exponent / 2) % modulus =
              base ^ (2 * (exponent / 2)) % modulus := by
          rw [← Nat.pow_mod, Nat.pow_mul, Nat.pow_two]
        rw [if_neg hZero]
        by_cases hOdd : exponent % 2 = 1
        · have hExp : 2 * (exponent / 2) + 1 = exponent := by
            omega
          have hAcc : acc % modulus * base % modulus =
              acc * base % modulus := by
            simp [Nat.mul_mod]
          rw [if_pos hOdd, hAcc, ih _ _ _ hHalf, Nat.mul_mod, hPow,
            ← Nat.mul_mod, Nat.mul_assoc, Nat.mul_comm base,
            ← Nat.pow_succ, Nat.succ_eq_add_one, hExp]
        · have hExp : 2 * (exponent / 2) = exponent := by
            omega
          rw [if_neg hOdd, ih _ _ _ hHalf, Nat.mul_mod, hPow,
            ← Nat.mul_mod, hExp]

/- The result is the remainder of the power. -/
theorem powMod_eq (base exponent modulus : Nat) :
    powMod base exponent modulus = base ^ exponent % modulus := by
  rw [powMod, powModFrom_eq _ _ _ _ _ Nat.lt_log2_self, Nat.one_mul,
    ← Nat.pow_mod]

end Rsa

end KeyAssertion
