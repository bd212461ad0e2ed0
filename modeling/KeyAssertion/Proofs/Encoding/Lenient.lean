import Mathlib.Data.List.Count
import KeyAssertion.Encoding.Base64

/-
  What the lenient reader of Base64 takes for a text that is
  complete: it counts the digits of both alphabets, passes over
  all other characters, and stops at a padding character that
  completes a group, whatever comes after it.

  Key definitions include:
    * `Base64.Lenient.isDigit`
    * `Base64.Lenient.digits`
    * `Base64.Lenient.Completes`

  Key theorems include:
    * `Base64.Lenient.exists_run_iff`
    * `Base64.Lenient.exists_decode_iff`
-/

namespace KeyAssertion

namespace Base64

namespace Lenient

------------------------------------------------------------
-- Digits
------------------------------------------------------------

/- Whether a character is a digit of one of the two alphabets. -/
def isDigit (c : Char) : Bool :=
  (standard.value? c).isSome || (url.value? c).isSome

/- The count of the digits of a text. -/
def digits (cs : List Char) : Nat :=
  cs.countP isDigit

section Digits

variable {c : Char} {cs : List Char}

/- A digit counts. -/
theorem digits_cons_of_isDigit (h : isDigit c = true) :
    digits (c :: cs) = digits cs + 1 :=
  List.countP_cons_of_pos h

/- Another character does not. -/
theorem digits_cons_of_not_isDigit (h : ¬ isDigit c = true) :
    digits (c :: cs) = digits cs :=
  List.countP_cons_of_neg h

/- The padding character is no digit. -/
theorem not_isDigit_pad :
    ¬ isDigit '=' = true := by
  decide

end Digits

------------------------------------------------------------
-- States
------------------------------------------------------------

/-
  The states in which the reader can be: padding is counted
  after two digits of a group only, and at most one character
  of it.
-/
structure State.IsReached (s : State) : Prop where
  place : s.place < 4
  pads : s.pads = 0 ∨ s.place = 2 ∧ s.pads = 1

section Steps

variable {s : State} {c : Char}

/- A digit moves the reader on by one place. -/
theorem State.push_cases
    (hPlace : s.place < 4)
    (v : Nat) :
    (s.push v).IsReached ∧
      (s.push v).place = (s.place + 1) % 4 ∧ (s.push v).pads = 0 := by
  obtain hPlace | hPlace | hPlace | hPlace :
      s.place = 0 ∨ s.place = 1 ∨ s.place = 2 ∨ s.place = 3 := by
    omega
  all_goals
    unfold State.push
    rw [hPlace]
    exact ⟨⟨by simp, Or.inl rfl⟩, rfl, rfl⟩

/- A digit is taken in with some value. -/
theorem run_of_isDigit
    (h : isDigit c = true)
    (rest : List Char) :
    ∃ v, run s (c :: rest) = run (s.push v) rest := by
  have hPad : c ≠ '=' := by
    rintro rfl
    exact not_isDigit_pad h
  unfold isDigit at h
  rw [run, if_neg hPad]
  cases hStandard : standard.value? c with
  | some v => exact ⟨v, rfl⟩
  | none =>
      cases hUrl : url.value? c with
      | some v => exact ⟨v, rfl⟩
      | none => simp [hStandard, hUrl] at h

/- Any other character but padding is passed over. -/
theorem run_of_foreign
    (hPad : c ≠ '=')
    (h : ¬ isDigit c = true)
    (rest : List Char) :
    run s (c :: rest) = run s rest := by
  unfold isDigit at h
  rw [run, if_neg hPad]
  cases hStandard : standard.value? c with
  | some v => simp [hStandard] at h
  | none =>
      cases hUrl : url.value? c with
      | some v => simp [hUrl] at h
      | none => rfl

end Steps

------------------------------------------------------------
-- Completion
------------------------------------------------------------

/- Whether a padding character stands behind the last digit. -/
def IsPadded (cs : List Char) : Prop :=
  ∃ before behind, cs = before ++ '=' :: behind ∧ digits behind = 0

/-
  Whether a padding character completes a group that was begun
  in a text: after three digits of the group, or after two and
  another padding character.
-/
def Completes (cs : List Char) : Prop :=
  ∃ front rest,
    cs = front ++ '=' :: rest ∧
      (digits front % 4 = 3 ∨ digits front % 4 = 2 ∧ IsPadded front)

/-
  Whether, in a state, the next padding character after what is
  in front of it completes a group.
-/
def State.IsReady
    (s : State)
    (front : List Char) : Prop :=
  (s.place + digits front) % 4 = 3 ∨
    (s.place + digits front) % 4 = 2 ∧
      (IsPadded front ∨ s.pads = 1 ∧ digits front = 0)

/- The same of a text that is read on from a state. -/
def State.CompletesIn
    (s : State)
    (cs : List Char) : Prop :=
  ∃ front rest, cs = front ++ '=' :: rest ∧ s.IsReady front

section Completion

variable {s s' : State} {c : Char} {cs : List Char}

/- Nothing is not padded. -/
theorem not_isPadded_nil :
    ¬ IsPadded [] := by
  rintro ⟨before, behind, hSplit, _⟩
  simp at hSplit

/- A padding character before a text counts if no digit follows. -/
theorem isPadded_cons_iff :
    IsPadded (c :: cs) ↔ IsPadded cs ∨ c = '=' ∧ digits cs = 0 := by
  constructor
  · rintro ⟨before, behind, hSplit, hNone⟩
    cases before with
    | nil =>
        rw [List.nil_append, List.cons.injEq] at hSplit
        right
        rw [hSplit.2]
        exact ⟨hSplit.1, hNone⟩
    | cons first before =>
        rw [List.cons_append, List.cons.injEq] at hSplit
        exact Or.inl ⟨before, behind, hSplit.2, hNone⟩
  · rintro (⟨before, behind, rfl, hNone⟩ | ⟨rfl, hNone⟩)
    · exact ⟨c :: before, behind, rfl, hNone⟩
    · exact ⟨[], cs, rfl, hNone⟩

/- The padding character that completes a group is first or later. -/
theorem completesIn_cons_iff :
    s.CompletesIn (c :: cs) ↔
      c = '=' ∧ s.IsReady [] ∨
        ∃ front rest, cs = front ++ '=' :: rest ∧ s.IsReady (c :: front) := by
  constructor
  · rintro ⟨front, rest, hSplit, hReady⟩
    cases front with
    | nil =>
        rw [List.nil_append, List.cons.injEq] at hSplit
        exact Or.inl ⟨hSplit.1, hReady⟩
    | cons first front =>
        rw [List.cons_append, List.cons.injEq] at hSplit
        rw [← hSplit.1] at hReady
        exact Or.inr ⟨front, rest, hSplit.2, hReady⟩
  · rintro (⟨rfl, hReady⟩ | ⟨front, rest, rfl, hReady⟩)
    · exact ⟨[], cs, rfl, hReady⟩
    · exact ⟨c :: front, rest, rfl, hReady⟩

/-
  It is later if the first character leads to another state
  that is ready when the one before is.
-/
theorem completesIn_cons_of_step
    (hFirst : ¬ (c = '=' ∧ s.IsReady []))
    (hStep : ∀ front, s.IsReady (c :: front) ↔ s'.IsReady front) :
    s.CompletesIn (c :: cs) ↔ s'.CompletesIn cs := by
  rw [completesIn_cons_iff]
  simp only [hFirst, false_or, hStep, State.CompletesIn]

/- Digits move on what is in front of padding. -/
theorem isReady_cons_of_isDigit
    (h : isDigit c = true)
    (hPlace : s'.place = (s.place + 1) % 4)
    (hPads : s'.pads = 0)
    (front : List Char) :
    s.IsReady (c :: front) ↔ s'.IsReady front := by
  have hPad : c ≠ '=' := by
    rintro rfl
    exact not_isDigit_pad h
  have hCount : (s.place + digits (c :: front)) % 4 =
      (s'.place + digits front) % 4 := by
    rw [digits_cons_of_isDigit h, hPlace]
    omega
  have hSome : digits (c :: front) ≠ 0 := by
    rw [digits_cons_of_isDigit h]
    omega
  unfold State.IsReady
  simp [hCount, hSome, hPads, isPadded_cons_iff, hPad]

/- Other characters but padding do nothing. -/
theorem isReady_cons_of_foreign
    (hPad : c ≠ '=')
    (h : ¬ isDigit c = true)
    (front : List Char) :
    s.IsReady (c :: front) ↔ s.IsReady front := by
  unfold State.IsReady
  simp [digits_cons_of_not_isDigit h, isPadded_cons_iff, hPad]

/- Padding is remembered after two digits of a group. -/
theorem isReady_cons_pad
    (hPlace : s'.place = s.place)
    (hPads : s'.pads = if s.place = 2 then 1 else 0)
    (hBelow : s.place < 3)
    (hNone : s.pads = 0)
    (front : List Char) :
    s.IsReady ('=' :: front) ↔ s'.IsReady front := by
  have hTwo : digits front = 0 →
      (s.place + digits front) % 4 = 2 → s.place = 2 := by
    omega
  unfold State.IsReady
  simp only [digits_cons_of_not_isDigit not_isDigit_pad,
    isPadded_cons_iff, hPlace, hPads, hNone, true_and]
  grind

/-
  A padding character ends the reading in a state that is
  ready for it, and is remembered in another one.
-/
theorem run_pad
    (hReached : s.IsReached)
    (rest : List Char) :
    s.IsReady [] ∧ (∃ bytes, run s ('=' :: rest) = .ok bytes) ∨
      ¬ s.IsReady [] ∧
        ∃ s' : State,
          run s ('=' :: rest) = run s' rest ∧ s'.IsReached ∧
            s'.place = s.place ∧
            ∀ front, s.IsReady ('=' :: front) ↔ s'.IsReady front := by
  have hPlace := hReached.place
  have hPads := hReached.pads
  have hNow :
      s.IsReady [] ↔ s.place = 3 ∨ s.place = 2 ∧ s.pads = 1 := by
    unfold State.IsReady
    simp [not_isPadded_nil, digits, Nat.mod_eq_of_lt hPlace]
  rw [run, if_pos rfl]
  by_cases hReady : s.place = 3 ∨ s.place = 2 ∧ s.pads = 1
  · left
    rw [if_pos (by omega), if_pos (by omega)]
    exact ⟨hNow.mpr hReady, _, rfl⟩
  right
  refine ⟨mt hNow.mp hReady, ?_⟩
  by_cases hTwo : s.place = 2
  · rw [if_pos (by omega), if_neg (by omega)]
    refine ⟨{ s with pads := s.pads + 1 }, rfl, ⟨hPlace, ?_⟩, rfl, ?_⟩
    · right
      exact ⟨hTwo, by dsimp only; omega⟩
    · have hFirst : s.pads + 1 = if s.place = 2 then 1 else 0 := by
        rw [if_pos hTwo]
        omega
      exact isReady_cons_pad (by rfl) hFirst (by omega) (by omega)
  · rw [if_neg (by omega)]
    refine ⟨s, rfl, hReached, rfl, ?_⟩
    have hNone : s.pads = if s.place = 2 then 1 else 0 := by
      rw [if_neg hTwo]
      omega
    exact isReady_cons_pad rfl hNone (by omega) (by omega)

end Completion

------------------------------------------------------------
-- Complete Texts
------------------------------------------------------------

/-
  From a state a text is read if its digits fill up the groups
  or a padding character completes one.
-/
theorem exists_run_iff
    {s : State}
    (hReached : s.IsReached)
    (cs : List Char) :
    (∃ bytes, run s cs = .ok bytes) ↔
      (s.place + digits cs) % 4 = 0 ∨ s.CompletesIn cs := by
  induction cs generalizing s with
  | nil =>
      have hNever : ¬ s.CompletesIn [] := by
        rintro ⟨front, rest, hSplit, _⟩
        simp at hSplit
      have hPlace := hReached.place
      have hCount : digits [] = 0 := rfl
      simp only [run, hNever, or_false, hCount, Nat.add_zero,
        Nat.mod_eq_of_lt hPlace]
      unfold State.finish
      split
      · case _ hZero => simp [hZero]
      · case _ hOne => simp [hOne]
      · case _ hOther _ =>
          have hNot : s.place ≠ 0 := hOther
          simp [hNot]
  | cons c rest ih =>
      by_cases hPad : c = '='
      · subst hPad
        rcases run_pad hReached rest with
          ⟨hReady, hRead⟩ | ⟨hNotReady, s', hRun, hNext, hPlace, hStep⟩
        · have hCompletes : s.CompletesIn ('=' :: rest) :=
            ⟨[], rest, rfl, hReady⟩
          simp [hRead, hCompletes]
        · rw [hRun, ih hNext, hPlace,
            digits_cons_of_not_isDigit not_isDigit_pad,
            completesIn_cons_of_step (fun h => hNotReady h.2) hStep]
      by_cases hDigit : isDigit c = true
      · rcases run_of_isDigit (s := s) hDigit rest with ⟨v, hRun⟩
        rcases State.push_cases hReached.place v with
          ⟨hNext, hPlace, hPads⟩
        have hCount : (s.place + digits (c :: rest)) % 4 =
            ((s.push v).place + digits rest) % 4 := by
          rw [digits_cons_of_isDigit hDigit, hPlace]
          omega
        rw [hRun, ih hNext, hCount,
          completesIn_cons_of_step (by simp [hPad])
            (isReady_cons_of_isDigit hDigit hPlace hPads)]
      · rw [run_of_foreign hPad hDigit, ih hReached,
          digits_cons_of_not_isDigit hDigit,
          completesIn_cons_of_step (by simp [hPad])
            (isReady_cons_of_foreign hPad hDigit)]

/-
  A text is read if its digits fill up groups of four, or if a
  padding character completes a group.
-/
theorem exists_decode_iff (cs : List Char) :
    (∃ bytes, decode cs = .ok bytes) ↔
      digits cs % 4 = 0 ∨ Completes cs := by
  have hStart : ({} : State).IsReached :=
    ⟨by decide, Or.inl rfl⟩
  have hReady :
      ∀ front, ({} : State).IsReady front ↔
        digits front % 4 = 3 ∨ digits front % 4 = 2 ∧ IsPadded front := by
    simp [State.IsReady]
  unfold decode
  rw [exists_run_iff hStart]
  simp [State.CompletesIn, Completes, hReady]

end Lenient

end Base64

end KeyAssertion
