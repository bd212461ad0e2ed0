import Mathlib.Tactic.SplitIfs
import KeyAssertion.Text.Blank
import KeyAssertion.Text.Uppercase

/-
  Texts in upper case: the upper-case form of an upper-case
  form is that form, and no character becomes a blank.

  Key definitions include:
    * `Text.IsSettled`

  Key theorems include:
    * `Text.isSettled_of_mem_upperPoints`
    * `Text.upperList_of_settled`
    * `Text.upperList_upperList`
-/

namespace KeyAssertion

namespace Text

------------------------------------------------------------
-- Lookup in the Tables
------------------------------------------------------------

/- A code point is found in its run, or it stays what it is. -/
theorem upperPoint_cases
    (runs : List CaseRun)
    (c : Nat) :
    upperPoint runs c = c ∨
      ∃ r ∈ runs, r.covers c = true ∧
        upperPoint runs c = (c + r.shift).toNat := by
  induction runs with
  | nil => exact .inl rfl
  | cons r rs ih =>
      unfold upperPoint
      split_ifs with hBefore hCovers
      · exact .inl rfl
      · exact .inr ⟨r, List.mem_cons_self, hCovers, rfl⟩
      · rcases ih with hSame | ⟨s, hMem, hCovers, hShift⟩
        · exact .inl hSame
        · exact .inr ⟨s, List.mem_cons_of_mem r hMem, hCovers, hShift⟩

/- Outside of all runs it stays what it is. -/
theorem upperPoint_eq_self
    {runs : List CaseRun}
    {c : Nat}
    (h : ∀ r ∈ runs, r.covers c = false) :
    upperPoint runs c = c := by
  rcases upperPoint_cases runs c with hSame | ⟨r, hMem, hCovers, -⟩
  · exact hSame
  · rw [h r hMem] at hCovers
    cases hCovers

/- A sequence that is found is listed for the code point. -/
theorem mem_of_upperSequence?
    {table : List (Nat × List Nat)}
    {c : Nat}
    {points : List Nat}
    (h : upperSequence? table c = some points) :
    (c, points) ∈ table := by
  induction table with
  | nil => cases h
  | cons x rest ih =>
      rcases x with ⟨k, v⟩
      unfold upperSequence? at h
      split_ifs at h with hBefore hSame
      · cases h
        rw [hSame]
        exact List.mem_cons_self
      · exact List.mem_cons_of_mem _ (ih h)

/- A code point that is covered lies in one of the ranges. -/
theorem exists_of_covers
    {ranges : List CodeRange}
    {c : Nat}
    (h : CodeRange.covers ranges c = true) :
    ∃ r ∈ ranges, r.first ≤ c ∧ c ≤ r.last := by
  induction ranges with
  | nil => cases h
  | cons r rs ih =>
      unfold CodeRange.covers at h
      split_ifs at h with hBefore hInside
      · exact ⟨r, List.mem_cons_self, by omega, hInside⟩
      · rcases ih h with ⟨s, hMem, hRange⟩
        exact ⟨s, List.mem_cons_of_mem r hMem, hRange⟩

------------------------------------------------------------
-- Settled Code Points
------------------------------------------------------------

/-
  Whether a code point is that of a character, is not blank and
  is its own upper-case form.
-/
structure IsSettled (c : Nat) : Prop where
  valid : c.isValidChar
  not_blank : CodeRange.covers blankRanges c = false
  upper : upperPoints c = [c]

/-
  A code point is settled if it is valid and neither the blanks
  nor the two tables have it.
-/
theorem isSettled_of_not_listed
    {c : Nat}
    (hValid : c.isValidChar)
    (hBlank : ∀ r ∈ blankRanges, ¬ (r.first ≤ c ∧ c ≤ r.last))
    (hSequence : ∀ x ∈ caseSequences, x.1 ≠ c)
    (hRun : ∀ r ∈ caseRuns, r.covers c = false) :
    IsSettled c := by
  refine ⟨hValid, ?_, ?_⟩
  · rw [Bool.eq_false_iff]
    intro hCovers
    rcases exists_of_covers hCovers with ⟨r, hMem, hRange⟩
    exact hBlank r hMem hRange
  · unfold upperPoints
    cases hFound : upperSequence? caseSequences c with
    | some points =>
        exact absurd rfl (hSequence _ (mem_of_upperSequence? hFound))
    | none => rw [upperPoint_eq_self hRun]

/- The first code point that a run leads to. -/
def CaseRun.imageFirst (r : CaseRun) : Nat :=
  (r.first + r.shift).toNat

/- The last one. -/
def CaseRun.imageLast (r : CaseRun) : Nat :=
  (r.last + r.shift).toNat

/-
  Whether no code point that a run leads to lies between two
  bounds, where `step` may be 2 to count every other one only.
-/
def CaseRun.avoids
    (r : CaseRun)
    (first last step : Nat) : Bool :=
  r.imageLast.blt first || last.blt r.imageFirst
    || (step.beq 2 && (r.step.beq 2 || r.first.beq r.last)
      && ((r.imageFirst + first) % 2).beq 1)

/- A run does not lead to what it avoids. -/
theorem CaseRun.not_mem_of_avoids
    {r : CaseRun}
    {c first last step : Nat}
    (hStart : 0 ≤ r.first + r.shift)
    (hCovers : r.covers c = true)
    (hAvoids : r.avoids first last step = true) :
    ¬ (first ≤ (c + r.shift).toNat ∧ (c + r.shift).toNat ≤ last ∧
      ((c + r.shift).toNat - first) % step = 0) := by
  unfold covers at hCovers
  unfold avoids imageFirst imageLast at hAvoids
  simp only [Bool.and_eq_true, Bool.or_eq_true, decide_eq_true_eq,
    beq_iff_eq, Nat.blt_eq, Nat.beq_eq] at hCovers hAvoids
  rintro ⟨hFirst, hLast, hStep⟩
  rcases hCovers with ⟨⟨hLow, hHigh⟩, hOwn⟩
  rcases hAvoids with (hBelow | hAbove) | ⟨⟨rfl, hEven | hSingle⟩, hOdd⟩
  · omega
  · omega
  · rw [hEven] at hOwn
    omega
  · omega

/-
  By inspection of the tables: what a run leads to is valid,
  and is neither blank nor listed in them again.
-/
theorem caseRuns_avoid :
    ∀ r ∈ caseRuns,
      0 ≤ r.first + r.shift ∧
        (r.avoids 0xd800 0xdfff 1 && r.imageLast.blt 0x110000) = true ∧
        (blankRanges.all fun b => r.avoids b.first b.last 1) = true ∧
        (caseSequences.all fun x => r.avoids x.1 x.1 1) = true ∧
        (caseRuns.all fun s => r.avoids s.first s.last s.step) = true := by
  decide +kernel

/- So is what a sequence leads to. -/
theorem caseSequences_avoid :
    ∀ x ∈ caseSequences, ∀ c ∈ x.2,
      c.isValidChar ∧
        (blankRanges.all fun b => c.blt b.first || b.last.blt c) = true ∧
        (caseSequences.all fun y => !y.1.beq c) = true ∧
        (caseRuns.all fun r => !r.covers c) = true := by
  decide +kernel

/- A code point in a run is led to one that is settled. -/
theorem isSettled_of_run
    {r : CaseRun}
    {c : Nat}
    (hMem : r ∈ caseRuns)
    (hCovers : r.covers c = true) :
    IsSettled (c + r.shift).toNat := by
  rcases caseRuns_avoid r hMem with
    ⟨hStart, hValid, hBlank, hSequence, hRun⟩
  have hAvoided {first last step : Nat}
      (hAvoids : r.avoids first last step = true) :=
    CaseRun.not_mem_of_avoids hStart hCovers hAvoids
  rw [Bool.and_eq_true] at hValid
  rw [List.all_eq_true] at hBlank hSequence hRun
  apply isSettled_of_not_listed
  · have hSurrogate := hAvoided hValid.1
    have hLast := hValid.2
    simp only [CaseRun.imageLast, Nat.blt_eq] at hLast
    simp only [CaseRun.covers, Bool.and_eq_true, decide_eq_true_eq]
      at hCovers
    unfold Nat.isValidChar
    omega
  · intro b hb hRange
    exact hAvoided (hBlank b hb) ⟨hRange.1, hRange.2, Nat.mod_one _⟩
  · intro x hx hSame
    exact hAvoided (hSequence x hx)
      ⟨Nat.le_of_eq hSame, Nat.le_of_eq hSame.symm, Nat.mod_one _⟩
  · intro s hs
    rw [Bool.eq_false_iff]
    intro hOther
    simp only [CaseRun.covers, Bool.and_eq_true, decide_eq_true_eq,
      beq_iff_eq] at hOther
    exact hAvoided (hRun s hs) ⟨hOther.1.1, hOther.1.2, hOther.2⟩

/- So is one that a sequence is listed for. -/
theorem isSettled_of_sequence
    {c p : Nat}
    {points : List Nat}
    (hMem : (c, points) ∈ caseSequences)
    (hp : p ∈ points) :
    IsSettled p := by
  rcases caseSequences_avoid (c, points) hMem p hp with
    ⟨hValid, hBlank, hSequence, hRun⟩
  rw [List.all_eq_true] at hBlank hSequence hRun
  apply isSettled_of_not_listed hValid
  · intro b hb hRange
    have hOutside := hBlank b hb
    simp only [Bool.or_eq_true, Nat.blt_eq] at hOutside
    omega
  · intro x hx hSame
    have hOther := hSequence x hx
    rw [hSame, Nat.beq_refl] at hOther
    cases hOther
  · intro r hr
    simpa using hRun r hr

/- The upper-case form of a character that is no blank is settled. -/
theorem isSettled_of_mem_upperPoints
    {c : Char}
    {p : Nat}
    (hBlank : isBlank c = false)
    (h : p ∈ upperPoints c.toNat) :
    IsSettled p := by
  unfold upperPoints at h
  split at h
  · case _ points hFound =>
      exact isSettled_of_sequence (mem_of_upperSequence? hFound) h
  · case _ hNone =>
      rw [List.mem_singleton] at h
      subst h
      rcases upperPoint_cases caseRuns c.toNat with
        hSame | ⟨r, hMem, hCovers, hShift⟩
      · rw [hSame]
        refine ⟨c.valid, hBlank, ?_⟩
        simp [upperPoints, hNone, hSame]
      · rw [hShift]
        exact isSettled_of_run hMem hCovers

/- There is always an upper-case form. -/
theorem upperPoints_ne_nil (c : Nat) :
    upperPoints c ≠ [] := by
  have hAll : ∀ x ∈ caseSequences, x.2 ≠ [] := by
    decide
  unfold upperPoints
  split
  · case _ points hFound =>
      exact hAll _ (mem_of_upperSequence? hFound)
  · exact List.cons_ne_nil _ _

------------------------------------------------------------
-- Texts
------------------------------------------------------------

/- The code point of a character that is made of a settled one. -/
theorem IsSettled.toNat_ofNat
    {p : Nat}
    (h : IsSettled p) :
    (Char.ofNat p).toNat = p := by
  unfold Char.ofNat
  rw [dif_pos h.valid]
  rfl

/- A character in upper case comes from one that is settled. -/
theorem isSettled_of_mem_upperList
    {cs : List Char}
    {x : Char}
    (hBlank : ∀ c ∈ cs, isBlank c = false)
    (h : x ∈ upperList cs) :
    IsSettled x.toNat := by
  rcases List.mem_flatMap.mp h with ⟨c, hc, hx⟩
  rcases List.mem_map.mp hx with ⟨p, hp, rfl⟩
  have hSettled := isSettled_of_mem_upperPoints (hBlank c hc) hp
  rw [hSettled.toNat_ofNat]
  exact hSettled

/- Settled characters are in upper case already. -/
theorem upperList_of_settled
    {cs : List Char}
    (h : ∀ c ∈ cs, IsSettled c.toNat) :
    upperList cs = cs := by
  induction cs with
  | nil => rfl
  | cons c rest ih =>
      have hRest := ih fun x hx => h x (List.mem_cons_of_mem c hx)
      have hHead := (h c List.mem_cons_self).upper
      unfold upperList at hRest ⊢
      rw [List.flatMap_cons, hRest, hHead, List.map_singleton,
        Char.ofNat_toNat, List.singleton_append]

/- The upper-case form of characters that are not blank is its own. -/
theorem upperList_upperList
    {cs : List Char}
    (hBlank : ∀ c ∈ cs, isBlank c = false) :
    upperList (upperList cs) = upperList cs :=
  upperList_of_settled fun _ hx => isSettled_of_mem_upperList hBlank hx

/- It is not empty if there are any characters. -/
theorem upperList_ne_nil
    {cs : List Char}
    (h : cs ≠ []) :
    upperList cs ≠ [] := by
  cases cs with
  | nil => exact absurd rfl h
  | cons c rest =>
      simp [upperList, upperPoints_ne_nil]

/- It has at least as many characters. -/
theorem length_le_length_upperList (cs : List Char) :
    cs.length ≤ (upperList cs).length := by
  induction cs with
  | nil => simp
  | cons c rest ih =>
      have hSome := List.length_pos_iff.mpr (upperPoints_ne_nil c.toNat)
      unfold upperList at ih ⊢
      rw [List.flatMap_cons, List.length_append, List.length_map,
        List.length_cons]
      omega

/- The upper-case form of a character is part of that of the text. -/
theorem mem_upperList_of_mem
    {cs : List Char}
    {c x : Char}
    (hMem : c ∈ cs)
    (h : x ∈ upperList [c]) :
    x ∈ upperList cs := by
  unfold upperList at h ⊢
  rw [List.flatMap_singleton] at h
  exact List.mem_flatMap.mpr ⟨c, hMem, h⟩

/- What the upper-case form begins with comes from the first character. -/
theorem mem_upperList_head
    {c x : Char}
    {cs tail : List Char}
    (h : upperList (c :: cs) = x :: tail) :
    x ∈ upperList [c] := by
  have hSome := upperList_ne_nil (List.cons_ne_nil c [])
  have hSplit : upperList (c :: cs) = upperList [c] ++ upperList cs := by
    simp [upperList]
  rw [hSplit] at h
  cases hFirst : upperList [c] with
  | nil => exact absurd hFirst hSome
  | cons y ys =>
      rw [hFirst, List.cons_append] at h
      rw [(List.cons.inj h).1]
      exact List.mem_cons_self

end Text

end KeyAssertion
