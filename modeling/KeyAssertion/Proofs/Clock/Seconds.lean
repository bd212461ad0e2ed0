import Mathlib.Algebra.Ring.Int.Defs
import KeyAssertion.Proofs.Clock.Moment
import KeyAssertion.Proofs.Number.Rounding

/-
  The whole seconds of moments, although they go through the
  number nearest to the seconds: they never go backward, and
  for nearly three hundred years after 1970 they are those of
  the moment itself.

  Key theorems include:
    * `Moment.unixSeconds_eq`
    * `Moment.unixSeconds_mono`
    * `Moment.unixSeconds_eq_div`
-/

namespace KeyAssertion

namespace Moment

/- The whole seconds have the sign of the moment. -/
theorem unixSeconds_eq (m : Moment) :
    m.unixSeconds =
      if m.micros < 0 then
        -(Binary64.wholePart m.micros.natAbs 1000000 : Int)
      else Binary64.wholePart m.micros.natAbs 1000000 := by
  have hFits :
      m.micros.natAbs < 1000000 * 2 ^ Binary64.maxExponent.toNat :=
    calc
      m.micros.natAbs < 2 ^ 58 := m.natAbs_micros_lt
      _ ≤ 2 ^ Binary64.maxExponent.toNat :=
          Nat.pow_le_pow_right Nat.two_pos (by decide)
      _ ≤ 1000000 * 2 ^ Binary64.maxExponent.toNat :=
          Nat.le_mul_of_pos_left _ (by decide)
  unfold unixSeconds Binary64.ofQuotient
  rw [Binary64.truncate_ofFraction _ (by decide) hFits]
  simp

/-
  A later moment never has fewer whole seconds, on either side
  of 1970 and across it.
-/
theorem unixSeconds_mono
    {a b : Moment}
    (h : a ≤ b) :
    a.unixSeconds ≤ b.unixSeconds := by
  have hMicros : a.micros ≤ b.micros := h
  rw [a.unixSeconds_eq, b.unixSeconds_eq]
  by_cases hBefore : a.micros < 0
  · rw [if_pos hBefore]
    by_cases hStill : b.micros < 0
    · have hNearer : b.micros.natAbs ≤ a.micros.natAbs := by
        omega
      rw [if_pos hStill]
      exact Int.neg_le_neg (Int.ofNat_le.mpr
        (Binary64.wholePart_mono (by decide) hNearer))
    · rw [if_neg hStill]
      omega
  · have hFurther : a.micros.natAbs ≤ b.micros.natAbs := by
      omega
    rw [if_neg hBefore, if_neg (by omega)]
    exact Int.ofNat_le.mpr
      (Binary64.wholePart_mono (by decide) hFurther)

/- Until `2 ^ 33` seconds after 1970 no moment is rounded up. -/
theorem unixSeconds_eq_div
    {m : Moment}
    (hStart : 0 ≤ m.micros)
    (hEnd : m.micros < 2 ^ 33 * 1000000) :
    m.unixSeconds = m.micros / 1000000 := by
  have hLess : m.micros.natAbs < 1000000 * 2 ^ 33 := by
    omega
  rw [m.unixSeconds_eq, if_neg (Int.not_lt.mpr hStart),
    Binary64.wholePart_eq_div (by decide) hLess (by decide)]
  omega

end Moment

end KeyAssertion
