import KeyAssertion.Proofs.Encoding.Grouped
import Mathlib.Data.List.Count

/-
  What the strict reader of Base64 accepts: the texts that are
  read by groups, with the same bytes, and besides them whole
  groups of digits with any padding after them.  The former are
  told among all by their length and by how much padding they
  have.

  Key definitions include:
    * `Base64.IsOverpadded`

  Key theorems include:
    * `Base64.Strict.decode_of_isGrouped`
    * `Base64.Strict.exists_decode_iff`
    * `Base64.Strict.isGrouped_iff_exists_decode`
-/

namespace KeyAssertion

namespace Base64

------------------------------------------------------------
-- Excess Padding
------------------------------------------------------------

/- Whether a text is whole groups of digits and padding after them. -/
inductive IsOverpadded : List Char → Prop
  | padding (n : Nat) : IsOverpadded (List.replicate n '=')
  | group
      (p q r s : Char)
      (rest : List Char)
      (hp : IsDigit p)
      (hq : IsDigit q)
      (hr : IsDigit r)
      (hs : IsDigit s)
      (hRest : IsOverpadded rest) :
      IsOverpadded (p :: q :: r :: s :: rest)

/- A digit in front does not count as padding. -/
theorem IsDigit.count_pad_cons
    {c : Char}
    (h : IsDigit c)
    (cs : List Char) :
    (c :: cs).count '=' = cs.count '=' :=
  List.count_cons_of_ne h.ne_pad

/- Groups end in two padding characters at most. -/
theorem IsGrouped.count_pad_le
    {cs : List Char}
    (h : IsGrouped cs) :
    cs.count '=' ≤ 2 := by
  induction h with
  | nil => exact Nat.zero_le _
  | oneByte p q hp hq =>
      rw [hp.count_pad_cons, hq.count_pad_cons]
      decide
  | twoBytes p q r hp hq hr =>
      rw [hp.count_pad_cons, hq.count_pad_cons, hr.count_pad_cons]
      decide
  | group p q r s rest hp hq hr hs hRest ih =>
      rw [hp.count_pad_cons, hq.count_pad_cons, hr.count_pad_cons,
        hs.count_pad_cons]
      exact ih

/- With so little padding whole groups are left only without any. -/
theorem IsOverpadded.isGrouped
    {cs : List Char}
    (h : IsOverpadded cs)
    (hLength : cs.length % 4 = 0)
    (hCount : cs.count '=' ≤ 2) :
    IsGrouped cs := by
  induction h with
  | padding n =>
      rw [List.length_replicate] at hLength
      rw [List.count_replicate_self] at hCount
      obtain rfl : n = 0 := by omega
      exact .nil
  | group p q r s rest hp hq hr hs hRest ih =>
      rw [hp.count_pad_cons, hq.count_pad_cons, hr.count_pad_cons,
        hs.count_pad_cons] at hCount
      simp only [List.length_cons] at hLength
      exact .group p q r s rest hp hq hr hs (ih (by omega) hCount)

namespace Strict

open Lenient (State)

section Steps

variable {s : State} {isPadded : Bool} {c : Char} {rest : List Char}

/- Before any padding a digit is taken in. -/
theorem run_of_value
    {v : Nat}
    (h : standard.value? c = some v) :
    run s false (c :: rest) = run (s.push v) false rest := by
  rw [run, if_neg (isDigit_of_value h).ne_pad]
  simp only [h, Bool.false_eq_true, if_false]

/- After padding no digit may follow, and nothing else ever. -/
theorem run_eq_none
    (hPad : c ≠ '=')
    (h : isPadded = true ∨ ¬ IsDigit c) :
    run s isPadded (c :: rest) = none := by
  rw [run, if_neg hPad]
  cases hValue : standard.value? c with
  | none => rfl
  | some v =>
      rcases h with rfl | hDigit
      · rfl
      · exact absurd (isDigit_of_value hValue) hDigit

/- What is read before any padding begins with a digit or padding. -/
theorem isDigit_or_pad_of_run
    {bytes : List UInt8}
    (h : run s false (c :: rest) = some bytes) :
    IsDigit c ∨ c = '=' := by
  by_cases hPad : c = '='
  · exact .inr hPad
  · by_cases hDigit : IsDigit c
    · exact .inl hDigit
    · cases (run_eq_none hPad (.inr hDigit)).symm.trans h

/- After padding that completes nothing there is padding only. -/
theorem run_padded
    (hPlace : s.place < 2)
    (cs : List Char)
    {bytes : List UInt8}
    (h : run s true cs = some bytes) :
    s.place = 0 ∧ ∃ n, cs = List.replicate n '=' := by
  induction cs with
  | nil =>
      refine ⟨?_, 0, rfl⟩
      rw [run, State.finish] at h
      split at h
      · assumption
      · cases h
      · cases h
  | cons c rest ih =>
      by_cases hPad : c = '='
      · subst hPad
        rw [run, if_pos rfl, if_neg (by omega)] at h
        rcases ih h with ⟨hZero, n, rfl⟩
        exact ⟨hZero, n + 1, rfl⟩
      · cases (run_eq_none hPad (.inl rfl)).symm.trans h

/- The padding character that completes a group is the last one. -/
theorem eq_nil_of_completing
    {bytes : List UInt8}
    (hPlace : 2 ≤ s.place)
    (hComplete : 4 ≤ s.place + s.pads + 1)
    (h : run s isPadded ('=' :: rest) = some bytes) :
    rest = [] := by
  rw [run, if_pos rfl, if_pos hPlace, if_pos hComplete] at h
  split at h
  · exact List.isEmpty_iff.mp ‹_›
  · cases h

/- Padding after whole groups is passed over. -/
theorem run_replicate_pad
    (done : List UInt8)
    (isPadded : Bool)
    (n : Nat) :
    run ⟨done, 0, 0, 0⟩ isPadded (List.replicate n '=') =
      some done.reverse := by
  induction n generalizing isPadded with
  | zero => rfl
  | succ n ih =>
      rw [List.replicate_succ, run, if_pos rfl,
        if_neg (Nat.not_succ_le_zero 1)]
      exact ih true

end Steps

/- Bytes are the same if their numbers are, up to multiples of 256. -/
theorem ofNat_eq_ofNat
    {m n : Nat}
    (h : m % 256 = n % 256) :
    UInt8.ofNat m = UInt8.ofNat n := by
  apply UInt8.toNat.inj
  rw [UInt8.toNat_ofNat', UInt8.toNat_ofNat']
  exact h

/- After one digit of a group there is another. -/
theorem exists_second
    {s : State}
    {cs : List Char}
    {bytes : List UInt8}
    (hPlace : s.place = 1)
    (h : run s false cs = some bytes) :
    ∃ c rest, cs = c :: rest ∧ IsDigit c := by
  cases cs with
  | nil => simp [run, State.finish, hPlace, Except.toOption] at h
  | cons c rest =>
      refine ⟨c, rest, rfl, ?_⟩
      rcases isDigit_or_pad_of_run h with hc | rfl
      · exact hc
      · rw [run, if_pos rfl, if_neg (by omega)] at h
        rcases run_padded (by omega) rest h with ⟨hZero, -⟩
        omega

/- After two digits there are two padding characters or another digit. -/
theorem exists_third
    {s : State}
    {cs : List Char}
    {bytes : List UInt8}
    (hPlace : s.place = 2)
    (hPads : s.pads = 0)
    (h : run s false cs = some bytes) :
    cs = ['=', '='] ∨ ∃ c rest, cs = c :: rest ∧ IsDigit c := by
  cases cs with
  | nil => simp [run, State.finish, hPlace, Except.toOption] at h
  | cons c rest =>
      rcases isDigit_or_pad_of_run h with hc | rfl
      · exact .inr ⟨c, rest, rfl, hc⟩
      · rw [run, if_pos rfl, if_pos (by omega), if_neg (by omega)] at h
        -- One padding character does not complete the group.
        cases rest with
        | nil => simp [run, State.finish, hPlace, Except.toOption] at h
        | cons d behind =>
            by_cases hPad : d = '='
            · subst hPad
              rw [hPads] at h
              rw [eq_nil_of_completing (by simp [hPlace]) (by simp [hPlace]) h]
              exact .inl rfl
            · cases (run_eq_none hPad (.inl rfl)).symm.trans h

/- After three digits there is one padding character or another digit. -/
theorem exists_fourth
    {s : State}
    {cs : List Char}
    {bytes : List UInt8}
    (hPlace : s.place = 3)
    (h : run s false cs = some bytes) :
    cs = ['='] ∨ ∃ c rest, cs = c :: rest ∧ IsDigit c := by
  cases cs with
  | nil => simp [run, State.finish, hPlace, Except.toOption] at h
  | cons c rest =>
      rcases isDigit_or_pad_of_run h with hc | rfl
      · exact .inr ⟨c, rest, rfl, hc⟩
      · rw [eq_nil_of_completing (by omega) (by omega) h]
        exact .inl rfl

/- Groups are read as by the reader by groups. -/
theorem run_of_isGrouped
    {cs : List Char}
    (h : IsGrouped cs)
    (done : List UInt8) :
    run ⟨done, 0, 0, 0⟩ false cs =
      (Base64.decode standard false cs).map (done.reverse ++ ·) := by
  induction h generalizing done with
  | nil => simp [run, Base64.decode, State.finish, Except.toOption]
  | oneByte p q hp hq =>
      rcases hp.exists_value with ⟨a, ha⟩
      rcases hq.exists_value with ⟨b, hb⟩
      have hByte : UInt8.ofNat (a * 4 + b / 16) =
          UInt8.ofNat ((a * 64 + b) / 16) :=
        ofNat_eq_ofNat (by omega)
      rw [run_of_value ha, run_of_value hb]
      simp [run, State.push, Base64.decode, lastGroup?, ha, hb, hByte]
  | twoBytes p q r hp hq hr =>
      rcases hp.exists_value with ⟨a, ha⟩
      rcases hq.exists_value with ⟨b, hb⟩
      rcases hr.exists_value with ⟨c, hc⟩
      have hc' := value_lt hc
      have hFirst : UInt8.ofNat (a * 4 + b / 16) =
          UInt8.ofNat (((a * 64 + b) * 64 + c) / 1024) :=
        ofNat_eq_ofNat (by omega)
      have hSecond : UInt8.ofNat (b % 16 * 16 + c / 4) =
          UInt8.ofNat (((a * 64 + b) * 64 + c) / 4) :=
        ofNat_eq_ofNat (by omega)
      have hPad := hr.ne_pad
      rw [run_of_value ha, run_of_value hb, run_of_value hc]
      simp [run, State.push, Base64.decode, lastGroup?, ha, hb, hc,
        hFirst, hSecond]
  | group p q r s rest hp hq hr hs hRest ih =>
      rcases hp.exists_value with ⟨a, ha⟩
      rcases hq.exists_value with ⟨b, hb⟩
      rcases hr.exists_value with ⟨c, hc⟩
      rcases hs.exists_value with ⟨d, hd⟩
      rcases hRest.exists_decode with ⟨tail, hTail⟩
      have hc' := value_lt hc
      have hd' := value_lt hd
      have hFirst : UInt8.ofNat (a * 4 + b / 16) =
          UInt8.ofNat ((((a * 64 + b) * 64 + c) * 64 + d) / 65536) :=
        ofNat_eq_ofNat (by omega)
      have hSecond : UInt8.ofNat (b % 16 * 16 + c / 4) =
          UInt8.ofNat ((((a * 64 + b) * 64 + c) * 64 + d) / 256) :=
        ofNat_eq_ofNat (by omega)
      have hThird : UInt8.ofNat (c % 4 * 64 + d) =
          UInt8.ofNat (((a * 64 + b) * 64 + c) * 64 + d) :=
        ofNat_eq_ofNat (by omega)
      have hPad := hs.ne_pad
      rw [run_of_value ha, run_of_value hb, run_of_value hc,
        run_of_value hd]
      simp only [State.push]
      rw [ih, hTail, Base64.decode]
      · simp [ha, hb, hc, hd, hTail, hFirst, hSecond, hThird]
      · simp [hPad]
      · simp [hPad]

/- Whole groups are read whatever padding there is after them. -/
theorem exists_run_of_isOverpadded
    {cs : List Char}
    (h : IsOverpadded cs)
    (done : List UInt8) :
    ∃ bytes, run ⟨done, 0, 0, 0⟩ false cs = some bytes := by
  induction h generalizing done with
  | padding n => exact ⟨_, run_replicate_pad done false n⟩
  | group p q r s rest hp hq hr hs hRest ih =>
      rcases hp.exists_value with ⟨a, ha⟩
      rcases hq.exists_value with ⟨b, hb⟩
      rcases hr.exists_value with ⟨c, hc⟩
      rcases hs.exists_value with ⟨d, hd⟩
      rw [run_of_value ha, run_of_value hb, run_of_value hc,
        run_of_value hd]
      exact ih _

/-
  What is read and begins with a digit is a last group with its
  padding, or a whole group in front of what is read after it.
-/
theorem group_cases
    {done bytes : List UInt8}
    {p : Char}
    {afterP : List Char}
    (hp : IsDigit p)
    (h : run ⟨done, 0, 0, 0⟩ false (p :: afterP) = some bytes) :
    IsGrouped (p :: afterP) ∨
      ∃ q r s rest,
        afterP = q :: r :: s :: rest ∧
          IsDigit q ∧ IsDigit r ∧ IsDigit s ∧
            ∃ done', run ⟨done', 0, 0, 0⟩ false rest = some bytes := by
  rcases hp.exists_value with ⟨a, ha⟩
  rw [run_of_value ha] at h
  rcases exists_second rfl h with ⟨q, afterQ, rfl, hq⟩
  rcases hq.exists_value with ⟨b, hb⟩
  rw [run_of_value hb] at h
  rcases exists_third rfl rfl h with rfl | ⟨r, afterR, rfl, hr⟩
  · exact .inl (.oneByte p q hp hq)
  rcases hr.exists_value with ⟨c, hc⟩
  rw [run_of_value hc] at h
  rcases exists_fourth rfl h with rfl | ⟨s, rest, rfl, hs⟩
  · exact .inl (.twoBytes p q r hp hq hr)
  rcases hs.exists_value with ⟨d, hd⟩
  rw [run_of_value hd] at h
  exact .inr ⟨q, r, s, rest, rfl, hq, hr, hs, _, h⟩

/- Nothing but groups and what is padded too much is read. -/
theorem isGrouped_or_isOverpadded_of_run
    (cs : List Char)
    (done : List UInt8)
    {bytes : List UInt8}
    (h : run ⟨done, 0, 0, 0⟩ false cs = some bytes) :
    IsGrouped cs ∨ IsOverpadded cs := by
  match cs with
  | [] => exact .inl .nil
  | p :: afterP =>
      rcases isDigit_or_pad_of_run h with hp | rfl
      · rcases group_cases hp h with hLast | hGroup
        · exact .inl hLast
        · rcases hGroup with
            ⟨q, r, s, rest, hAfter, hq, hr, hs, done', hRest⟩
          have hShorter : rest.length < (p :: afterP).length := by
            simp only [hAfter, List.length_cons]
            omega
          rw [hAfter]
          exact (isGrouped_or_isOverpadded_of_run rest done' hRest).imp
            (.group p q r s rest hp hq hr hs)
            (.group p q r s rest hp hq hr hs)
      · rw [run, if_pos rfl, if_neg (Nat.not_succ_le_zero 1)] at h
        rcases run_padded Nat.two_pos afterP h with ⟨-, n, rfl⟩
        exact .inr (.padding (n + 1))
termination_by cs.length

/- Groups do not begin with padding. -/
theorem head?_ne_pad_of_isGrouped
    {cs : List Char}
    (h : IsGrouped cs) :
    cs.head? ≠ some '=' := by
  cases h with
  | nil => exact nofun
  | oneByte p q hp hq => simpa using hp.ne_pad
  | twoBytes p q r hp hq hr => simpa using hp.ne_pad
  | group p q r s rest hp hq hr hs hRest => simpa using hp.ne_pad

/- Groups are read with the bytes that the reader by groups finds. -/
theorem decode_of_isGrouped
    {cs : List Char}
    (h : IsGrouped cs) :
    decode cs = Base64.decode standard false cs := by
  rw [decode, if_neg (head?_ne_pad_of_isGrouped h)]
  have hRun := run_of_isGrouped h []
  simp only [List.reverse_nil, List.nil_append, Option.map_id'] at hRun
  exact hRun

/-
  The strict reader accepts groups, and whole groups with any
  padding after them, but no padding alone.
-/
theorem exists_decode_iff (cs : List Char) :
    (∃ bytes, decode cs = some bytes) ↔
      IsGrouped cs ∨ IsOverpadded cs ∧ cs.head? ≠ some '=' := by
  constructor
  · rintro ⟨bytes, h⟩
    unfold decode at h
    split at h
    · cases h
    · rename_i hHead
      exact (isGrouped_or_isOverpadded_of_run cs [] h).imp_right
        fun hOver => ⟨hOver, hHead⟩
  · rintro (hGrouped | ⟨hOver, hHead⟩)
    · rw [decode_of_isGrouped hGrouped]
      exact hGrouped.exists_decode
    · rw [decode, if_neg hHead]
      exact exists_run_of_isOverpadded hOver []

/-
  Groups are what the strict reader accepts of such a length and
  with so little padding.
-/
theorem isGrouped_iff_exists_decode (cs : List Char) :
    IsGrouped cs ↔
      (∃ bytes, decode cs = some bytes) ∧
        cs.length % 4 = 0 ∧ cs.count '=' ≤ 2 := by
  rw [exists_decode_iff]
  constructor
  · intro h
    exact ⟨.inl h, h.isPadding.1, h.count_pad_le⟩
  · rintro ⟨hGrouped | ⟨hOver, -⟩, hLength, hCount⟩
    · exact hGrouped
    · exact hOver.isGrouped hLength hCount

/- What was written is read back. -/
theorem decode_encode (bytes : List UInt8) :
    decode (encode standard bytes) = some bytes := by
  have hRead := Base64.decode_encode standard false bytes
  rw [decode_of_isGrouped (isGrouped_of_decode hRead), hRead]

end Strict

end Base64

end KeyAssertion
