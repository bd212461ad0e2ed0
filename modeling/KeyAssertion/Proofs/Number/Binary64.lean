import Mathlib.Algebra.Ring.Nat
import Mathlib.Tactic.SplitIfs
import KeyAssertion.Number.Binary64

/-
  How large the whole part of a rounded fraction can be.  The
  bound is far from the best one; it is there to say that the
  whole part has not too many digits.

  Key definitions include:
    * `Binary64.reach`

  Key theorems include:
    * `roundHalfEven_le`
    * `Binary64.natAbs_truncate_finite_le`
    * `Binary64.natAbs_truncate_ofFraction_le`
-/

namespace KeyAssertion

/- Rounding adds one at most. -/
theorem roundHalfEven_le (num den : Nat) :
    roundHalfEven num den ≤ num / den + 1 := by
  unfold roundHalfEven
  simp only []
  split_ifs
  · exact Nat.le_succ _
  · exact Nat.le_refl _
  · exact Nat.le_succ _
  · exact Nat.le_refl _

namespace Binary64

/- No exponent is further from zero than this. -/
def reach : Nat := 1074

/- The least exponent is as far from zero. -/
theorem neg_reach_le_minExponent : -(reach : Int) ≤ minExponent := by
  decide

/- The greatest one is not as far. -/
theorem maxExponent_le_reach : maxExponent ≤ reach := by
  decide

/- A fraction is scaled up by no power greater than its exponent tells. -/
theorem scaled_fst_le
    (num den : Nat)
    {e : Int}
    {r : Nat}
    (hLeast : -(r : Int) ≤ e) :
    (scaled num den e).1 ≤ num * 2 ^ r := by
  cases e with
  | ofNat k => exact Nat.le_mul_of_pos_right num (Nat.two_pow_pos r)
  | negSucc k =>
      have hPower : k + 1 ≤ r := by
        omega
      exact Nat.mul_le_mul_left num
        (Nat.pow_le_pow_right Nat.two_pos hPower)

/- The rounded mantissa of a fraction with an exponent in range. -/
theorem mantissa_le
    (num den : Nat)
    {e : Int}
    {r : Nat}
    (hLeast : -(r : Int) ≤ e) :
    roundHalfEven (scaled num den e).1 (scaled num den e).2 ≤
      num * 2 ^ r + 1 :=
  calc
    _ ≤ (scaled num den e).1 / (scaled num den e).2 + 1 :=
        roundHalfEven_le _ _
    _ ≤ (scaled num den e).1 + 1 :=
        Nat.succ_le_succ (Nat.div_le_self _ _)
    _ ≤ num * 2 ^ r + 1 :=
        Nat.succ_le_succ (scaled_fst_le num den hLeast)

/- The whole part of a finite number with an exponent in range. -/
theorem natAbs_truncate_finite_le
    {negative : Bool}
    {m r : Nat}
    {e z : Int}
    (hGreatest : e ≤ r)
    (h : truncate (.finite negative m e) = some z) :
    z.natAbs ≤ m * 2 ^ r := by
  have hFraction :
      (fraction m e).1 / (fraction m e).2 ≤ m * 2 ^ r := by
    cases e with
    | ofNat k =>
        have hPower : k ≤ r :=
          Int.ofNat_le.mp hGreatest
        calc
          _ ≤ m * 2 ^ k := Nat.div_le_self _ _
          _ ≤ m * 2 ^ r :=
              Nat.mul_le_mul_left m
                (Nat.pow_le_pow_right Nat.two_pos hPower)
    | negSucc k =>
        calc
          _ ≤ m := Nat.div_le_self _ _
          _ ≤ m * 2 ^ r :=
              Nat.le_mul_of_pos_right m (Nat.two_pow_pos r)
  cases negative with
  | false =>
      cases h
      exact hFraction
  | true =>
      cases h
      rw [if_pos rfl, Int.natAbs_neg]
      exact hFraction

/- A number that is finite has the mantissa, or half of `2 ^ 53`. -/
theorem normalize_cases
    (negative : Bool)
    (m : Nat)
    (e : Int) :
    normalize negative m e = .infinite negative ∨
      ∃ m' e',
        normalize negative m e = .finite negative m' e' ∧
          e' ≤ maxExponent ∧ m' ≤ m + 2 ^ 52 := by
  unfold normalize
  by_cases hCarry : m = Nat.pow 2 53
  · rw [if_pos hCarry]
    by_cases hGreat : e + 1 > maxExponent
    · exact Or.inl (if_pos hGreat)
    · refine Or.inr ⟨_, _, if_neg hGreat, Int.not_lt.mp hGreat, ?_⟩
      exact Nat.le_add_left _ m
  · rw [if_neg hCarry]
    by_cases hGreat : e > maxExponent
    · exact Or.inl (if_pos hGreat)
    · refine Or.inr ⟨_, _, if_neg hGreat, Int.not_lt.mp hGreat, ?_⟩
      exact Nat.le_add_right m _

/- The number nearest to a fraction other than zero. -/
theorem ofFraction_of_ne_zero
    (negative : Bool)
    {num : Nat}
    (den : Nat)
    (hThere : num ≠ 0) :
    ofFraction negative num den =
      normalize negative
        (roundHalfEven (scaled num den (exponentFor num den)).1
          (scaled num den (exponentFor num den)).2)
        (exponentFor num den) := by
  refine (if_neg hThere).trans ?_
  extract_lets e
  split
  next n d hScaled =>
    change
      _ =
        normalize negative
          (roundHalfEven (scaled num den e).1 (scaled num den e).2) e
    rw [hScaled]

/- The whole part of the number nearest to a fraction. -/
theorem natAbs_truncate_ofFraction_le
    {negative : Bool}
    {num den : Nat}
    {z : Int}
    (h : truncate (ofFraction negative num den) = some z) :
    z.natAbs ≤ (num * 2 ^ reach + 2 ^ 53) * 2 ^ reach := by
  by_cases hThere : num = 0
  · subst hThere
    have hLow : minExponent ≤ (reach : Int) :=
      Int.le_trans (by decide) maxExponent_le_reach
    have hNone : z.natAbs ≤ 0 * 2 ^ reach :=
      natAbs_truncate_finite_le hLow h
    rw [Nat.zero_mul] at hNone
    exact Nat.le_trans hNone (Nat.zero_le _)
  · rw [ofFraction_of_ne_zero negative den hThere] at h
    have hLeast : -(reach : Int) ≤ exponentFor num den :=
      Int.le_trans neg_reach_le_minExponent (Int.le_max_right _ _)
    have hMantissa := mantissa_le num den hLeast
    rcases normalize_cases negative _ (exponentFor num den) with
      hInfinite | ⟨m, e, hFinite, hGreatest, hm⟩
    · rw [hInfinite] at h
      cases h
    · rw [hFinite] at h
      have hWhole := natAbs_truncate_finite_le
        (Int.le_trans hGreatest maxExponent_le_reach) h
      refine Nat.le_trans hWhole (Nat.mul_le_mul_right _ ?_)
      generalize num * 2 ^ reach = scaledUp at hMantissa ⊢
      omega

end Binary64

end KeyAssertion
