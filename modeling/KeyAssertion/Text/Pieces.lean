/-
  This file defines the pieces of a text between separators.

  Key definitions include:
    * `Text.pieces`

  Key statements include:
    * `Text.length_pieces`
    * `Text.pieces_separator`
    * `Text.pieces_append`
-/

namespace KeyAssertion

namespace Text

/- The pieces between separators; there is always at least one. -/
def pieces (isSeparator : Char → Bool) : List Char → List (List Char)
  | [] => [[]]
  | c :: rest =>
      if isSeparator c then
        [] :: pieces isSeparator rest
      else
        match pieces isSeparator rest with
        | piece :: more => (c :: piece) :: more
        | [] => [[c]]

/- There is one piece more than there are separators. -/
theorem length_pieces
    (p : Char → Bool)
    (cs : List Char) :
    (pieces p cs).length = cs.countP p + 1 := by
  induction cs with
  | nil => rfl
  | cons c cs ih =>
    by_cases hc : p c = true
    · simp [pieces, hc, ih]
    · cases hp : pieces p cs with
      | nil => simp [hp] at ih
      | cons piece more =>
        simp [pieces, hc, hp] at ih ⊢
        omega

/- Characters without a separator are one piece. -/
theorem pieces_of_not_separator
    {p : Char → Bool}
    {cs : List Char}
    (h : ∀ c ∈ cs, p c = false) :
    pieces p cs = [cs] := by
  induction cs with
  | nil => rfl
  | cons c cs ih =>
    have hHead := h c (List.mem_cons_self ..)
    have hRest := ih fun x hx => h x (List.mem_cons_of_mem c hx)
    simp [pieces, hHead, hRest]

/- There is always a piece. -/
theorem pieces_ne_nil
    (p : Char → Bool)
    (cs : List Char) :
    pieces p cs ≠ [] := by
  intro hNone
  have hLength := length_pieces p cs
  rw [hNone] at hLength
  cases hLength

/- A separator parts the pieces before it from those behind it. -/
theorem pieces_separator
    {p : Char → Bool}
    {separator : Char}
    (hSeparator : p separator = true)
    (front back : List Char) :
    pieces p (front ++ separator :: back) =
      pieces p front ++ pieces p back := by
  induction front with
  | nil => simp [pieces, hSeparator]
  | cons c front ih =>
    by_cases hc : p c = true
    · simp [pieces, hc, ih]
    · cases hFront : pieces p front with
      | nil => exact absurd hFront (pieces_ne_nil p front)
      | cons piece more => simp [pieces, hc, ih, hFront]

/- Characters without a separator are the first piece before one. -/
theorem pieces_append
    {p : Char → Bool}
    {cs : List Char}
    {separator : Char}
    (h : ∀ c ∈ cs, p c = false)
    (hSeparator : p separator = true)
    (rest : List Char) :
    pieces p (cs ++ separator :: rest) = cs :: pieces p rest := by
  rw [pieces_separator hSeparator, pieces_of_not_separator h]
  rfl

end Text

end KeyAssertion
