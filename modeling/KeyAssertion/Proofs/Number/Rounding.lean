import KeyAssertion.Proofs.Number.Binary64

/-
  The number nearest to a fraction: how far it is from the
  fraction, that a greater fraction never has a smaller one,
  and when rounding leaves the whole part as it is.  Numbers
  are measured in units of the least positive one, so that all
  of them are whole.

  Key definitions include:
    * `Binary64.IsSpacing`
    * `Binary64.nearestUnits`
    * `Binary64.wholePart`

  Key theorems include:
    * `roundHalfEven_mono`
    * `Binary64.isSpacing_exponentFor`
    * `Binary64.nearestUnits_mono`
    * `Binary64.truncate_ofFraction`
    * `Binary64.wholePart_eq_div`
-/

namespace KeyAssertion

------------------------------------------------------------
-- Whole Numbers
------------------------------------------------------------

/- The nearest whole number is the one below or the one above. -/
theorem roundHalfEven_cases (num den : Nat) :
    (roundHalfEven num den = num / den ∧ 2 * (num % den) ≤ den) ∨
      (roundHalfEven num den = num / den + 1 ∧
        den ≤ 2 * (num % den)) := by
  unfold roundHalfEven
  simp only []
  split_ifs with hBelow hAbove hEven
  · exact Or.inl ⟨rfl, Nat.le_of_lt hBelow⟩
  · exact Or.inr ⟨rfl, Nat.le_of_lt hAbove⟩
  · exact Or.inl ⟨rfl, Nat.not_lt.mp hAbove⟩
  · exact Or.inr ⟨rfl, Nat.not_lt.mp hBelow⟩

/- It is above the fraction by half of one at most. -/
theorem roundHalfEven_mul_le
    (num den : Nat) :
    2 * (roundHalfEven num den * den) ≤ 2 * num + den := by
  have hSplit : num / den * den + num % den = num :=
    Nat.div_add_mod' num den
  rcases roundHalfEven_cases num den with ⟨hRound, _⟩ | ⟨hRound, hRest⟩
  · rw [hRound]
    omega
  · rw [hRound, Nat.succ_mul (num / den)]
    omega

/- It is below the fraction by half of one at most. -/
theorem le_roundHalfEven_mul
    (num : Nat)
    {den : Nat}
    (hDen : 0 < den) :
    2 * num ≤ 2 * (roundHalfEven num den * den) + den := by
  have hSplit : num / den * den + num % den = num :=
    Nat.div_add_mod' num den
  have hRest : num % den < den := Nat.mod_lt num hDen
  rcases roundHalfEven_cases num den with ⟨hRound, _⟩ | ⟨hRound, _⟩
  · rw [hRound]
    omega
  · rw [hRound, Nat.succ_mul (num / den)]
    omega

/- A whole number is nearest to itself. -/
theorem roundHalfEven_mul
    (k : Nat)
    {den : Nat}
    (hDen : 0 < den) :
    roundHalfEven (k * den) den = k := by
  simp [roundHalfEven, Nat.mul_div_cancel k hDen, hDen]

/- Only the value of the fraction counts. -/
theorem roundHalfEven_scale
    (num den : Nat)
    {c : Nat}
    (hc : 0 < c) :
    roundHalfEven (num * c) (den * c) = roundHalfEven num den := by
  have hDouble : 2 * (num % den * c) = 2 * (num % den) * c :=
    (Nat.mul_assoc _ _ _).symm
  simp only [roundHalfEven, Nat.mul_div_mul_right _ _ hc,
    Nat.mul_mod_mul_right, hDouble, gt_iff_lt, Nat.mul_lt_mul_right hc]

/-
  A greater fraction has no smaller whole number: two that are
  in the wrong order are both a half away from the fractions,
  which are then one.
-/
theorem roundHalfEven_mono
    {num num' den : Nat}
    (hDen : 0 < den)
    (hLe : num ≤ num') :
    roundHalfEven num den ≤ roundHalfEven num' den := by
  by_contra hGreater
  have hAbove := roundHalfEven_mul_le num den
  have hBelow := le_roundHalfEven_mul num' hDen
  have hStep :
      roundHalfEven num' den * den + den ≤
        roundHalfEven num den * den := by
    rw [← Nat.succ_mul]
    exact Nat.mul_le_mul_right den (Nat.not_le.mp hGreater)
  have hSame : num = num' := by
    omega
  exact hGreater (by rw [hSame])

namespace Binary64

------------------------------------------------------------
-- Spacing
------------------------------------------------------------

/-
  Whether the numbers around the fraction `num / den`, which
  is in units of the least one, are `2 ^ p` of these units
  apart.
-/
structure IsSpacing (num den p : Nat) : Prop where
  above : num < den * 2 ^ (p + 53)
  below : p = 0 ∨ den * 2 ^ (p + 52) ≤ num

/- The numbers around a small fraction are not far apart. -/
theorem IsSpacing.lt
    {num den p k : Nat}
    (h : IsSpacing num den p)
    (hLess : num < den * 2 ^ k) :
    p = 0 ∨ p + 52 < k := by
  rcases h.below with hLeast | hBelow
  · exact Or.inl hLeast
  · right
    have hPower : 2 ^ (p + 52) < 2 ^ k :=
      Nat.lt_of_mul_lt_mul_left (Nat.lt_of_le_of_lt hBelow hLess)
    exact (Nat.pow_lt_pow_iff_right Nat.one_lt_two).mp hPower

/- A fraction in units, in terms of what it is scaled to for an exponent. -/
theorem scaled_units
    (num den : Nat)
    {e : Int}
    (hLeast : -(reach : Int) ≤ e) :
    ∃ c, 0 < c ∧
      (scaled num den e).1 * c = num * 2 ^ reach ∧
        (scaled num den e).2 * c = den * 2 ^ (e + reach).toNat := by
  cases e with
  | ofNat k =>
      refine ⟨2 ^ reach, Nat.two_pow_pos reach, rfl, ?_⟩
      have hPower : (Int.ofNat k + (reach : Int)).toNat = k + reach := rfl
      rw [hPower, Nat.pow_add, ← Nat.mul_assoc]
      rfl
  | negSucc k =>
      have hSplit : k + 1 + (reach - (k + 1)) = reach := by
        omega
      have hPower :
          (Int.negSucc k + (reach : Int)).toNat = reach - (k + 1) := by
        omega
      refine ⟨2 ^ (reach - (k + 1)), Nat.two_pow_pos _, ?_, ?_⟩
      · calc
          num * 2 ^ (k + 1) * 2 ^ (reach - (k + 1)) =
              num * 2 ^ (k + 1 + (reach - (k + 1))) := by
                rw [Nat.pow_add _ (k + 1), Nat.mul_assoc]
          _ = num * 2 ^ reach := by
                rw [hSplit]
      · rw [hPower]
        rfl

/- Whether a fraction is below a power of two, by what it is scaled to. -/
theorem scaled_lt_iff
    (num den : Nat)
    {e : Int}
    (hLeast : -(reach : Int) ≤ e)
    (k : Nat) :
    (scaled num den e).1 < (scaled num den e).2 * 2 ^ k ↔
      num * 2 ^ reach < den * 2 ^ ((e + reach).toNat + k) := by
  rcases scaled_units num den hLeast with ⟨c, hc, hNum, hDen⟩
  rw [← Nat.mul_lt_mul_right hc, Nat.mul_right_comm, hNum, hDen,
    Nat.mul_assoc, ← Nat.pow_add]

/-
  The exponent of a fraction is the one that its size asks for.
  By the lengths of numerator and denominator it is one of two,
  between which the fraction itself decides.
-/
theorem isSpacing_exponentFor
    {num den : Nat}
    (hNum : num ≠ 0)
    (hDen : 0 < den) :
    IsSpacing (num * 2 ^ reach) den
      (exponentFor num den + reach).toNat := by
  have hAbove (k : Nat) (hk : num.log2 + 1 + reach ≤ den.log2 + k) :
      num * 2 ^ reach < den * 2 ^ k :=
    calc
      num * 2 ^ reach < 2 ^ (num.log2 + 1) * 2 ^ reach :=
          Nat.mul_lt_mul_of_pos_right Nat.lt_log2_self
            (Nat.two_pow_pos reach)
      _ ≤ 2 ^ den.log2 * 2 ^ k := by
          rw [← Nat.pow_add, ← Nat.pow_add]
          exact Nat.pow_le_pow_right Nat.two_pos hk
      _ ≤ den * 2 ^ k :=
          Nat.mul_le_mul_right _
            (Nat.log2_self_le (Nat.pos_iff_ne_zero.mp hDen))
  have hBelow (k : Nat) (hk : den.log2 + 1 + k ≤ num.log2 + reach) :
      den * 2 ^ k ≤ num * 2 ^ reach :=
    calc
      den * 2 ^ k ≤ 2 ^ (den.log2 + 1) * 2 ^ k :=
          Nat.mul_le_mul_right _ (Nat.le_of_lt Nat.lt_log2_self)
      _ ≤ 2 ^ num.log2 * 2 ^ reach := by
          rw [← Nat.pow_add, ← Nat.pow_add]
          exact Nat.pow_le_pow_right Nat.two_pos hk
      _ ≤ num * 2 ^ reach :=
          Nat.mul_le_mul_right _ (Nat.log2_self_le hNum)
  have hWider {j k : Nat} (hjk : j ≤ k) : den * 2 ^ j ≤ den * 2 ^ k :=
    Nat.mul_le_mul_left den (Nat.pow_le_pow_right Nat.two_pos hjk)
  have hReach : minExponent = -(reach : Int) := rfl
  unfold exponentFor
  extract_lets guess
  have hGuess : guess = (num.log2 : Int) - den.log2 - 52 := rfl
  clear_value guess
  split
  next n d hScaled =>
    extract_lets e
    rw [hReach]
    by_cases hLeast : -(reach : Int) ≤ guess
    · have hDecide := scaled_lt_iff num den hLeast 52
      rw [hScaled] at hDecide
      by_cases hSmall : n < d * 2 ^ 52
      · have he : e = guess - 1 := if_pos hSmall
        rw [he]
        constructor
        · exact Nat.lt_of_lt_of_le (hDecide.mp hSmall)
            (hWider (by omega))
        · by_cases hZero : (max (guess - 1) (-reach) + reach).toNat = 0
          · exact Or.inl hZero
          · exact Or.inr (hBelow _ (by omega))
      · have he : e = guess := if_neg hSmall
        rw [he, Int.max_eq_left hLeast]
        constructor
        · exact hAbove _ (by omega)
        · exact Or.inr (Nat.not_lt.mp fun hLess =>
            hSmall (hDecide.mpr hLess))
    · have he : e ≤ guess := by
        simp only [e]
        split_ifs
        · omega
        · omega
      have hZero : (max e (-reach) + reach).toNat = 0 := by
        omega
      rw [hZero]
      exact ⟨hAbove _ (by omega), Or.inl rfl⟩

------------------------------------------------------------
-- Nearest Numbers
------------------------------------------------------------

/-
  The multiple of `2 ^ p` nearest to a fraction, where both
  are in units of the least number.
-/
def nearestMultiple (num den p : Nat) : Nat :=
  roundHalfEven num (den * 2 ^ p) * 2 ^ p

/- It is above the fraction by half of the distance at most. -/
theorem nearestMultiple_mul_le (num den p : Nat) :
    2 * (nearestMultiple num den p * den) ≤ 2 * num + den * 2 ^ p := by
  unfold nearestMultiple
  rw [Nat.mul_assoc, Nat.mul_comm (2 ^ p)]
  exact roundHalfEven_mul_le num (den * 2 ^ p)

/- A multiple is nearest to itself. -/
theorem nearestMultiple_eq
    {den p m : Nat}
    (hDen : 0 < den)
    (hPower : p ≤ m)
    (k : Nat) :
    nearestMultiple (den * (k * 2 ^ m)) den p = k * 2 ^ m := by
  have hSplit : k * 2 ^ m = k * 2 ^ (m - p) * 2 ^ p := by
    rw [Nat.mul_assoc, ← Nat.pow_add, Nat.sub_add_cancel hPower]
  unfold nearestMultiple
  rw [hSplit, Nat.mul_left_comm,
    roundHalfEven_mul _ (Nat.mul_pos hDen (Nat.two_pow_pos p))]

/- A greater fraction has no smaller multiple. -/
theorem nearestMultiple_mono
    {num num' den p : Nat}
    (hDen : 0 < den)
    (hLe : num ≤ num') :
    nearestMultiple num den p ≤ nearestMultiple num' den p :=
  Nat.mul_le_mul_right _
    (roundHalfEven_mono (Nat.mul_pos hDen (Nat.two_pow_pos p)) hLe)

/-
  This is also so where the distances differ.  The least number
  with the greater distance is then between the two.
-/
theorem IsSpacing.nearestMultiple_le
    {num num' den p p' : Nat}
    (hDen : 0 < den)
    (h : IsSpacing num den p)
    (h' : IsSpacing num' den p')
    (hLe : num ≤ num') :
    nearestMultiple num den p ≤ nearestMultiple num' den p' := by
  have hOrder : p ≤ p' := by
    have hLess := h.lt (Nat.lt_of_le_of_lt hLe h'.above)
    omega
  rcases Nat.eq_or_lt_of_le hOrder with rfl | hFurther
  · exact nearestMultiple_mono hDen hLe
  · have hBelow : den * (1 * 2 ^ (p' + 52)) ≤ num' := by
      rw [Nat.one_mul]
      exact h'.below.resolve_left (by omega)
    have hAbove : num ≤ den * (1 * 2 ^ (p + 53)) := by
      rw [Nat.one_mul]
      exact Nat.le_of_lt h.above
    calc
      nearestMultiple num den p ≤
          nearestMultiple (den * (1 * 2 ^ (p + 53))) den p :=
            nearestMultiple_mono hDen hAbove
      _ = 1 * 2 ^ (p + 53) :=
            nearestMultiple_eq hDen (Nat.le_add_right p 53) 1
      _ ≤ 1 * 2 ^ (p' + 52) :=
            Nat.mul_le_mul_left 1
              (Nat.pow_le_pow_right Nat.two_pos (by omega))
      _ = nearestMultiple (den * (1 * 2 ^ (p' + 52))) den p' :=
            (nearestMultiple_eq hDen (Nat.le_add_right p' 52) 1).symm
      _ ≤ nearestMultiple num' den p' :=
            nearestMultiple_mono hDen hBelow

/- The number nearest to a fraction, in units of the least one. -/
def nearestUnits (num den : Nat) : Nat :=
  nearestMultiple (num * 2 ^ reach) den
    (exponentFor num den + reach).toNat

/- Zero is nearest to zero. -/
theorem nearestUnits_zero (den : Nat) :
    nearestUnits 0 den = 0 := by
  simp [nearestUnits, nearestMultiple, roundHalfEven]

/- A greater fraction has no smaller number nearest to it. -/
theorem nearestUnits_mono
    {num num' den : Nat}
    (hDen : 0 < den)
    (hLe : num ≤ num') :
    nearestUnits num den ≤ nearestUnits num' den := by
  by_cases hThere : num = 0
  · rw [hThere, nearestUnits_zero]
    exact Nat.zero_le _
  · have hThere' : num' ≠ 0 := by
      omega
    exact (isSpacing_exponentFor hThere hDen).nearestMultiple_le hDen
      (isSpacing_exponentFor hThere' hDen)
      (Nat.mul_le_mul_right _ hLe)

------------------------------------------------------------
-- Whole Parts
------------------------------------------------------------

/- The whole part of the number nearest to a fraction. -/
def wholePart (num den : Nat) : Nat :=
  nearestUnits num den / 2 ^ reach

/- A greater fraction has no smaller one. -/
theorem wholePart_mono
    {num num' den : Nat}
    (hDen : 0 < den)
    (hLe : num ≤ num') :
    wholePart num den ≤ wholePart num' den :=
  Nat.div_le_div_right (nearestUnits_mono hDen hLe)

/- A number is truncated by the units that it has. -/
theorem truncate_finite
    (negative : Bool)
    (m : Nat)
    {e : Int}
    (hLeast : -(reach : Int) ≤ e) :
    truncate (.finite negative m e) =
      some
        (if negative then
          -((m * 2 ^ (e + reach).toNat / 2 ^ reach : Nat) : Int)
        else (m * 2 ^ (e + reach).toNat / 2 ^ reach : Nat)) := by
  have hWhole :
      m * 2 ^ (e + reach).toNat / 2 ^ reach =
        (fraction m e).1 / (fraction m e).2 := by
    cases e with
    | ofNat k =>
        have hPower : (Int.ofNat k + (reach : Int)).toNat = k + reach := rfl
        rw [hPower, Nat.pow_add, ← Nat.mul_assoc,
          Nat.mul_div_cancel _ (Nat.two_pow_pos reach)]
        change _ = m * 2 ^ k / 1
        rw [Nat.div_one]
    | negSucc k =>
        have hPower :
            (Int.negSucc k + (reach : Int)).toNat = reach - (k + 1) := by
          omega
        have hSum : k + 1 + (reach - (k + 1)) = reach := by
          omega
        have hSplit : 2 ^ reach = 2 ^ (k + 1) * 2 ^ (reach - (k + 1)) := by
          rw [← Nat.pow_add, hSum]
        rw [hPower, hSplit, Nat.mul_div_mul_right _ _ (Nat.two_pow_pos _)]
        rfl
  rw [hWhole]
  rfl

/- Carrying a mantissa over changes nothing. -/
theorem truncate_normalize
    (negative : Bool)
    (m : Nat)
    {e : Int}
    (hLeast : -(reach : Int) ≤ e)
    (hGreatest : e < maxExponent) :
    truncate (normalize negative m e) =
      some
        (if negative then
          -((m * 2 ^ (e + reach).toNat / 2 ^ reach : Nat) : Int)
        else (m * 2 ^ (e + reach).toNat / 2 ^ reach : Nat)) := by
  unfold normalize
  by_cases hCarry : m = Nat.pow 2 53
  · have hPower : (e + 1 + reach).toNat = (e + reach).toNat + 1 := by
      omega
    have hUnits :
        Nat.pow 2 52 * 2 ^ (e + 1 + reach).toNat =
          m * 2 ^ (e + reach).toNat := by
      rw [hPower, hCarry, Nat.pow_succ', ← Nat.mul_assoc]
    rw [if_pos hCarry]
    refine (congrArg truncate
      (if_neg (Int.not_lt.mpr hGreatest))).trans ?_
    rw [truncate_finite _ _ (by omega), hUnits]
  · rw [if_neg hCarry]
    refine (congrArg truncate
      (if_neg (Int.not_lt.mpr (Int.le_of_lt hGreatest)))).trans ?_
    exact truncate_finite _ _ hLeast

/- The number nearest to a fraction is truncated to its whole part. -/
theorem truncate_ofFraction
    (negative : Bool)
    {num den : Nat}
    (hDen : 0 < den)
    (hFits : num < den * 2 ^ maxExponent.toNat) :
    truncate (ofFraction negative num den) =
      some
        (if negative then -(wholePart num den : Int)
        else wholePart num den) := by
  by_cases hThere : num = 0
  · subst hThere
    rw [wholePart, nearestUnits_zero, Nat.zero_div]
    exact (truncate_finite negative 0 (Int.le_refl _)).trans (by simp)
  · have hSpacing := isSpacing_exponentFor hThere hDen
    have hLeast : -(reach : Int) ≤ exponentFor num den :=
      Int.le_max_right _ _
    have hGreatest : exponentFor num den < maxExponent := by
      have hLess :
          num * 2 ^ reach < den * 2 ^ (maxExponent.toNat + reach) := by
        rw [Nat.pow_add, ← Nat.mul_assoc]
        exact Nat.mul_lt_mul_of_pos_right hFits (Nat.two_pow_pos reach)
      have hPower := hSpacing.lt hLess
      have hMax : maxExponent = 971 := rfl
      omega
    rcases scaled_units num den hLeast with ⟨c, hc, hNum, hScale⟩
    have hMantissa :
        roundHalfEven (scaled num den (exponentFor num den)).1
            (scaled num den (exponentFor num den)).2 =
          roundHalfEven (num * 2 ^ reach)
            (den * 2 ^ (exponentFor num den + reach).toNat) := by
      rw [← hNum, ← hScale, roundHalfEven_scale _ _ hc]
    rw [ofFraction_of_ne_zero negative den hThere, hMantissa,
      truncate_normalize negative _ hLeast hGreatest]
    rfl

/-
  Where a fraction takes up no more than 54 bits, the numbers
  around it are less than two of its parts apart.
-/
theorem IsSpacing.apart_lt
    {num den p k : Nat}
    (h : IsSpacing (num * 2 ^ reach) den p)
    (hLess : num < den * 2 ^ k)
    (hFine : den * 2 ^ k < 2 ^ 54) :
    den * 2 ^ p < 2 * 2 ^ reach := by
  have hScale : 0 < 2 ^ reach := Nat.two_pow_pos reach
  have hUnits : num * 2 ^ reach < den * 2 ^ (k + reach) := by
    rw [Nat.pow_add, ← Nat.mul_assoc]
    exact Nat.mul_lt_mul_of_pos_right hLess hScale
  have hPower : p + 53 ≤ k + reach := by
    have hReach : 53 ≤ reach := by
      decide
    have hLater := h.lt hUnits
    omega
  have hWide : den * 2 ^ (p + 53) < 2 ^ (reach + 54) :=
    calc
      den * 2 ^ (p + 53) ≤ den * 2 ^ (k + reach) :=
          Nat.mul_le_mul_left den
            (Nat.pow_le_pow_right Nat.two_pos hPower)
      _ = den * 2 ^ k * 2 ^ reach := by
          rw [Nat.pow_add, Nat.mul_assoc]
      _ < 2 ^ 54 * 2 ^ reach :=
          Nat.mul_lt_mul_of_pos_right hFine hScale
      _ = 2 ^ (reach + 54) := by
          rw [Nat.mul_comm, ← Nat.pow_add]
  rw [Nat.pow_add, Nat.pow_add, ← Nat.mul_assoc] at hWide
  omega

/-
  The whole part is then that of the fraction: a whole number
  below it stays below, and rounding does not reach the next.
-/
theorem wholePart_eq_div
    {num den k : Nat}
    (hDen : 0 < den)
    (hLess : num < den * 2 ^ k)
    (hFine : den * 2 ^ k < 2 ^ 54) :
    wholePart num den = num / den := by
  by_cases hThere : num = 0
  · rw [hThere, wholePart, nearestUnits_zero, Nat.zero_div, Nat.zero_div]
  have hApart :=
    (isSpacing_exponentFor hThere hDen).apart_lt hLess hFine
  unfold wholePart nearestUnits
  generalize (exponentFor num den + reach).toNat = p at hApart ⊢
  have hPower : p ≤ reach := by
    have hOne : 2 ^ p < 2 ^ (reach + 1) := by
      have hScaled := Nat.le_mul_of_pos_left (2 ^ p) hDen
      rw [Nat.pow_succ]
      omega
    have hLater : p < reach + 1 :=
      (Nat.pow_lt_pow_iff_right Nat.one_lt_two).mp hOne
    omega
  apply Nat.div_eq_of_lt_le
  · calc
      num / den * 2 ^ reach =
          nearestMultiple (den * (num / den * 2 ^ reach)) den p :=
            (nearestMultiple_eq hDen hPower _).symm
      _ ≤ nearestMultiple (num * 2 ^ reach) den p := by
            apply nearestMultiple_mono hDen
            rw [← Nat.mul_assoc]
            exact Nat.mul_le_mul_right _ (Nat.mul_div_le num den)
  · have hNear := nearestMultiple_mul_le (num * 2 ^ reach) den p
    have hNext : num + 1 ≤ den * (num / den + 1) :=
      Nat.lt_mul_div_succ num hDen
    apply Nat.lt_of_mul_lt_mul_right (a := den)
    calc
      nearestMultiple (num * 2 ^ reach) den p * den <
          (num + 1) * 2 ^ reach := by
            rw [Nat.succ_mul]
            omega
      _ ≤ den * (num / den + 1) * 2 ^ reach :=
            Nat.mul_le_mul_right _ hNext
      _ = (num / den + 1) * 2 ^ reach * den := by
            rw [Nat.mul_comm den, Nat.mul_right_comm]

end Binary64

end KeyAssertion
