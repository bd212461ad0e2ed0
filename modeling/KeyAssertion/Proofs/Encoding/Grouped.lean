import KeyAssertion.Encoding.Base64
import KeyAssertion.Proofs.Text.Uppercase

/-
  What the reader of Base64 by groups accepts: groups of four
  digits, of which the last may end in one or two padding
  characters.  The same texts are told by counting their
  characters and dropping the digits in front.

  Key definitions include:
    * `Base64.IsDigit`
    * `Base64.IsGrouped`

  Key theorems include:
    * `Base64.exists_decode_iff`
    * `Base64.isGrouped_iff`
-/

namespace KeyAssertion

namespace Base64

------------------------------------------------------------
-- Digits
------------------------------------------------------------

/- Whether a character is in the standard alphabet. -/
def IsDigit (c : Char) : Prop :=
  (standard.value? c).isSome = true

instance (c : Char) : Decidable (IsDigit c) := by
  unfold IsDigit
  infer_instance

section Digits

variable {c : Char}

/- A digit has a value. -/
theorem IsDigit.exists_value
    (h : IsDigit c) :
    ∃ v, standard.value? c = some v :=
  Option.isSome_iff_exists.mp h

/- What has a value is a digit. -/
theorem isDigit_of_value
    {v : Nat}
    (h : standard.value? c = some v) :
    IsDigit c := by
  rw [IsDigit, h]
  rfl

/- A value has six bits. -/
theorem value_lt
    {v : Nat}
    (h : standard.value? c = some v) :
    v < 64 := by
  unfold Alphabet.value? at h
  dsimp only at h
  split_ifs at h <;> cases h <;> omega

/- It lies within the bounds of the alphabet. -/
theorem IsDigit.bounds
    (h : IsDigit c) :
    43 ≤ c.toNat ∧ c.toNat ≤ 122 := by
  unfold IsDigit Alphabet.value? at h
  dsimp only at h
  split_ifs at h with hUpper hLower hNumber hPlus hSlash
  · omega
  · omega
  · omega
  · rw [hPlus]
    decide
  · rw [hSlash]
    decide
  · cases h

/- It is no blank: these lie outside of the bounds. -/
theorem IsDigit.not_blank
    (h : IsDigit c) :
    Text.isBlank c = false := by
  have hOutside :
      ∀ r ∈ Text.blankRanges, r.last < 43 ∨ 122 < r.first := by
    decide
  rw [Bool.eq_false_iff]
  intro hBlank
  rcases Text.exists_of_covers hBlank with ⟨r, hMem, hRange⟩
  have hBounds := h.bounds
  have hBeyond := hOutside r hMem
  omega

/- The padding character is none. -/
theorem not_isDigit_pad : ¬ IsDigit '=' := by
  decide

/- No digit is the padding character. -/
theorem IsDigit.ne_pad
    (h : IsDigit c) :
    c ≠ '=' := by
  rintro rfl
  exact not_isDigit_pad h

end Digits

------------------------------------------------------------
-- Groups
------------------------------------------------------------

/-
  Whether a text consists of groups of four digits, of which
  the last may have one or two padding characters in their
  place.
-/
inductive IsGrouped : List Char → Prop
  | nil : IsGrouped []
  | oneByte
      (p q : Char)
      (hp : IsDigit p)
      (hq : IsDigit q) :
      IsGrouped [p, q, '=', '=']
  | twoBytes
      (p q r : Char)
      (hp : IsDigit p)
      (hq : IsDigit q)
      (hr : IsDigit r) :
      IsGrouped [p, q, r, '=']
  | group
      (p q r s : Char)
      (rest : List Char)
      (hp : IsDigit p)
      (hq : IsDigit q)
      (hr : IsDigit r)
      (hs : IsDigit s)
      (hRest : IsGrouped rest) :
      IsGrouped (p :: q :: r :: s :: rest)

/- Groups consist of digits and padding characters. -/
theorem IsGrouped.isDigit_or_pad
    {cs : List Char}
    (h : IsGrouped cs)
    (c : Char)
    (hMem : c ∈ cs) :
    IsDigit c ∨ c = '=' := by
  induction h with
  | nil => cases hMem
  | oneByte p q hp hq =>
      simp only [List.mem_cons, List.not_mem_nil, or_false] at hMem
      rcases hMem with rfl | rfl | hPad | hPad
      · exact .inl hp
      · exact .inl hq
      · exact .inr hPad
      · exact .inr hPad
  | twoBytes p q r hp hq hr =>
      simp only [List.mem_cons, List.not_mem_nil, or_false] at hMem
      rcases hMem with rfl | rfl | rfl | hPad
      · exact .inl hp
      · exact .inl hq
      · exact .inl hr
      · exact .inr hPad
  | group p q r s rest hp hq hr hs hRest ih =>
      simp only [List.mem_cons] at hMem
      rcases hMem with rfl | rfl | rfl | rfl | hMem
      · exact .inl hp
      · exact .inl hq
      · exact .inl hr
      · exact .inl hs
      · exact ih hMem

/- The characters of a last group that is read are digits. -/
theorem isDigit_of_lastGroup?
    {p q : Char}
    {r? : Option Char}
    {group : List UInt8 × Nat}
    (h : lastGroup? standard p q r? = some group) :
    IsDigit p ∧ IsDigit q ∧ ∀ r, r? = some r → IsDigit r := by
  rcases Option.bind_eq_some_iff.mp h with ⟨a, ha, hRest⟩
  rcases Option.bind_eq_some_iff.mp hRest with ⟨b, hb, hLast⟩
  refine ⟨isDigit_of_value ha, isDigit_of_value hb, ?_⟩
  rintro r rfl
  rcases Option.bind_eq_some_iff.mp hLast with ⟨c, hc, -⟩
  exact isDigit_of_value hc

/- What is read consists of groups. -/
theorem isGrouped_of_decode
    {cs : List Char}
    {bytes : List UInt8}
    (h : decode standard false cs = some bytes) :
    IsGrouped cs := by
  fun_induction decode standard false cs generalizing bytes with
  | case1 => exact .nil
  | case2 p q =>
      rcases Option.bind_eq_some_iff.mp h with ⟨group, hGroup, -⟩
      rcases isDigit_of_lastGroup? hGroup with ⟨hp, hq, -⟩
      exact .oneByte p q hp hq
  | case3 p q r hPad =>
      rcases Option.bind_eq_some_iff.mp h with ⟨group, hGroup, -⟩
      rcases isDigit_of_lastGroup? hGroup with ⟨hp, hq, hr⟩
      exact .twoBytes p q r hp hq (hr r rfl)
  | case4 p q r s rest hOne hTwo ih =>
      rcases Option.bind_eq_some_iff.mp h with ⟨a, ha, hAfterP⟩
      rcases Option.bind_eq_some_iff.mp hAfterP with ⟨b, hb, hAfterQ⟩
      rcases Option.bind_eq_some_iff.mp hAfterQ with ⟨c, hc, hAfterR⟩
      rcases Option.bind_eq_some_iff.mp hAfterR with ⟨d, hd, hAfterS⟩
      rcases Option.bind_eq_some_iff.mp hAfterS with ⟨tail, hTail, -⟩
      exact .group p q r s rest (isDigit_of_value ha) (isDigit_of_value hb)
        (isDigit_of_value hc) (isDigit_of_value hd) (ih hTail)
  | case5 => cases h

/- All groups are read. -/
theorem IsGrouped.exists_decode
    {cs : List Char}
    (h : IsGrouped cs) :
    ∃ bytes, decode standard false cs = some bytes := by
  induction h with
  | nil => exact ⟨[], rfl⟩
  | oneByte p q hp hq =>
      rcases hp.exists_value with ⟨a, ha⟩
      rcases hq.exists_value with ⟨b, hb⟩
      simp [decode, lastGroup?, ha, hb]
  | twoBytes p q r hp hq hr =>
      rcases hp.exists_value with ⟨a, ha⟩
      rcases hq.exists_value with ⟨b, hb⟩
      rcases hr.exists_value with ⟨c, hc⟩
      have hPad := hr.ne_pad
      simp [decode, lastGroup?, ha, hb, hc]
  | group p q r s rest hp hq hr hs hRest ih =>
      rcases hp.exists_value with ⟨a, ha⟩
      rcases hq.exists_value with ⟨b, hb⟩
      rcases hr.exists_value with ⟨c, hc⟩
      rcases hs.exists_value with ⟨d, hd⟩
      rcases ih with ⟨tail, hTail⟩
      -- The fourth digit is no padding, so this is not a last group.
      have hPad := hs.ne_pad
      rw [decode]
      · simp [ha, hb, hc, hd, hTail]
      · simp [hPad]
      · simp [hPad]

/- The reader by groups accepts groups and nothing else. -/
theorem exists_decode_iff (cs : List Char) :
    (∃ bytes, decode standard false cs = some bytes) ↔ IsGrouped cs := by
  constructor
  · rintro ⟨bytes, hBytes⟩
    exact isGrouped_of_decode hBytes
  · exact IsGrouped.exists_decode

------------------------------------------------------------
-- Counting
------------------------------------------------------------

/- What is left of a text after the digits in front. -/
def afterDigits (cs : List Char) : List Char :=
  cs.dropWhile fun c => (standard.value? c).isSome

/- Whether characters are two padding characters at most. -/
def IsPadding (cs : List Char) : Prop :=
  cs = [] ∨ cs = ['='] ∨ cs = ['=', '=']

/- A digit in front makes no difference to what is left. -/
theorem afterDigits_cons_of_isDigit
    {c : Char}
    (h : IsDigit c)
    (cs : List Char) :
    afterDigits (c :: cs) = afterDigits cs :=
  List.dropWhile_cons_of_pos h

/- Without a digit in front all is left. -/
theorem afterDigits_cons_of_not_isDigit
    {c : Char}
    (h : ¬ IsDigit c)
    (cs : List Char) :
    afterDigits (c :: cs) = c :: cs :=
  List.dropWhile_cons_of_neg h

/- After groups padding is left, and the length is one of whole groups. -/
theorem IsGrouped.isPadding
    {cs : List Char}
    (h : IsGrouped cs) :
    cs.length % 4 = 0 ∧ IsPadding (afterDigits cs) := by
  induction h with
  | nil => exact ⟨rfl, .inl rfl⟩
  | oneByte p q hp hq =>
      rw [afterDigits_cons_of_isDigit hp, afterDigits_cons_of_isDigit hq,
        afterDigits_cons_of_not_isDigit not_isDigit_pad]
      exact ⟨by simp, .inr (.inr rfl)⟩
  | twoBytes p q r hp hq hr =>
      rw [afterDigits_cons_of_isDigit hp, afterDigits_cons_of_isDigit hq,
        afterDigits_cons_of_isDigit hr,
        afterDigits_cons_of_not_isDigit not_isDigit_pad]
      exact ⟨by simp, .inr (.inl rfl)⟩
  | group p q r s rest hp hq hr hs hRest ih =>
      rw [afterDigits_cons_of_isDigit hp, afterDigits_cons_of_isDigit hq,
        afterDigits_cons_of_isDigit hr, afterDigits_cons_of_isDigit hs]
      simp only [List.length_cons]
      exact ⟨by omega, ih.2⟩

/- A character in front of which no digit is left belongs to the padding. -/
theorem IsPadding.cases_cons
    {c : Char}
    {cs : List Char}
    (h : IsPadding (afterDigits (c :: cs))) :
    IsDigit c ∧ IsPadding (afterDigits cs) ∨
      c = '=' ∧ (cs = [] ∨ cs = ['=']) := by
  by_cases hDigit : IsDigit c
  · rw [afterDigits_cons_of_isDigit hDigit] at h
    exact .inl ⟨hDigit, h⟩
  · rw [afterDigits_cons_of_not_isDigit hDigit] at h
    rcases h with hNil | hOne | hTwo
    · cases hNil
    · cases hOne
      exact .inr ⟨rfl, .inl rfl⟩
    · cases hTwo
      exact .inr ⟨rfl, .inr rfl⟩

/- A text of such a length with padding after its digits is in groups. -/
theorem isGrouped_of_isPadding :
    ∀ cs : List Char, cs.length % 4 = 0 → IsPadding (afterDigits cs) →
      IsGrouped cs
  | [], _, _ => .nil
  | [_], hLength, _ => by cases hLength
  | [_, _], hLength, _ => by cases hLength
  | [_, _, _], hLength, _ => by cases hLength
  | p :: q :: r :: s :: rest, hLength, hPadding => by
      simp only [List.length_cons] at hLength
      -- Padding is too short to begin at the first or second character.
      rcases hPadding.cases_cons with ⟨hp, hAfterP⟩ | ⟨-, hEnd⟩
      · rcases hAfterP.cases_cons with ⟨hq, hAfterQ⟩ | ⟨-, hEnd⟩
        · rcases hAfterQ.cases_cons with ⟨hr, hAfterR⟩ | ⟨rfl, hEnd⟩
          · rcases hAfterR.cases_cons with ⟨hs, hAfterS⟩ | ⟨rfl, hEnd⟩
            · exact .group p q r s rest hp hq hr hs
                (isGrouped_of_isPadding rest (by omega) hAfterS)
            · rcases hEnd with rfl | rfl
              · exact .twoBytes p q r hp hq hr
              · cases hLength
          · rcases hEnd with hNil | hPad
            · cases hNil
            · cases hPad
              exact .oneByte p q hp hq
        · simp at hEnd
      · simp at hEnd

/- Groups are told by the length and by what is left after the digits. -/
theorem isGrouped_iff (cs : List Char) :
    IsGrouped cs ↔ cs.length % 4 = 0 ∧ IsPadding (afterDigits cs) := by
  constructor
  · exact IsGrouped.isPadding
  · rintro ⟨hLength, hPadding⟩
    exact isGrouped_of_isPadding cs hLength hPadding

end Base64

end KeyAssertion
