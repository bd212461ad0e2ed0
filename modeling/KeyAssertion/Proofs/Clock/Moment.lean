import Mathlib.Tactic.SplitIfs
import KeyAssertion.Clock.Moment
import KeyAssertion.Proofs.Number.Binary64

/-
  Lengths of time, the moments between which they lie, and how
  many digits the whole seconds of a moment can have.

  Key theorems include:
    * `Duration.micros_of_ofMicros`
    * `Duration.ofMicros_of_moments`
    * `Moment.natAbs_unixSeconds_lt`
-/

namespace KeyAssertion

------------------------------------------------------------
-- Lengths of Time
------------------------------------------------------------

namespace Duration

/- A length of time is made of its own microseconds only. -/
theorem micros_of_ofMicros
    {micros : Int}
    {d : Duration}
    (h : ofMicros micros = .ok d) :
    d.micros = micros := by
  unfold ofMicros at h
  simp only [] at h
  split_ifs at h
  cases h
  rfl

/- What leads from one moment to another is a length of time. -/
theorem ofMicros_of_moments
    {now later : Moment}
    {micros : Int}
    (h : later.micros = now.micros + micros) :
    ofMicros micros = .ok ⟨micros⟩ := by
  have hNow := now.inRange
  have hLater := later.inRange
  unfold minMicros maxMicros at hNow hLater
  have hDays :
      -999999999 ≤ Int.fdiv micros microsPerDay ∧
        Int.fdiv micros microsPerDay ≤ 999999999 := by
    rw [Int.fdiv_eq_ediv_of_nonneg _ (by decide)]
    unfold microsPerDay
    omega
  unfold ofMicros
  simp only []
  rw [if_neg (by omega), if_neg (by omega)]

end Duration

------------------------------------------------------------
-- Whole Seconds
------------------------------------------------------------

namespace Moment

/- A moment is not far from the start of 1970. -/
theorem natAbs_micros_lt (m : Moment) :
    m.micros.natAbs < 2 ^ 58 := by
  have hRange := m.inRange
  unfold minMicros maxMicros at hRange
  omega

/- Its whole seconds are those of a number that may be rounded up. -/
theorem natAbs_unixSeconds_lt (m : Moment) :
    m.unixSeconds.natAbs < 2 ^ (59 + 2 * Binary64.reach) := by
  unfold unixSeconds
  cases hWhole :
      (Binary64.ofQuotient m.micros 1000000).truncate with
  | none => exact Nat.two_pow_pos _
  | some z =>
      have hBound := Binary64.natAbs_truncate_ofFraction_le hWhole
      have hMicros := m.natAbs_micros_lt
      rw [Option.getD_some]
      generalize Binary64.reach = r at hBound ⊢
      have hScale : 0 < 2 ^ r := Nat.two_pow_pos r
      calc
        z.natAbs ≤ (m.micros.natAbs * 2 ^ r + 2 ^ 53) * 2 ^ r := hBound
        _ ≤ (m.micros.natAbs * 2 ^ r + 2 ^ 53 * 2 ^ r) * 2 ^ r := by
            apply Nat.mul_le_mul_right
            apply Nat.add_le_add_left
            exact Nat.le_mul_of_pos_right _ hScale
        _ = (m.micros.natAbs + 2 ^ 53) * (2 ^ r * 2 ^ r) := by
            rw [← Nat.add_mul, Nat.mul_assoc]
        _ < 2 ^ 59 * (2 ^ r * 2 ^ r) := by
            apply Nat.mul_lt_mul_of_pos_right _ (Nat.mul_pos hScale hScale)
            omega
        _ = 2 ^ (59 + 2 * r) := by
            rw [← Nat.pow_add, ← Nat.pow_add, Nat.two_mul]

end Moment

end KeyAssertion
