import KeyAssertion.Text.CodeRange

/-
  This file defines the blank characters, those with the
  Unicode property White_Space together with the four
  separator controls, and the removal of blanks from a text.

  Key definitions include:
    * `Text.isBlank`
    * `Text.strip`
    * `Text.withoutBlanks`

  Key statements include:
    * `Text.isBlank_of_isWhitespace`
    * `Text.trimEndList_append`
    * `Text.trimList_append_append`
    * `Text.strip_eq_self`
    * `Text.strip_strip`
-/

namespace KeyAssertion

namespace Text

/- The blank code points. -/
def blankRanges : List CodeRange :=
  [⟨0x09, 0x0d⟩, ⟨0x1c, 0x20⟩, ⟨0x85, 0x85⟩, ⟨0xa0, 0xa0⟩,
    ⟨0x1680, 0x1680⟩, ⟨0x2000, 0x200a⟩, ⟨0x2028, 0x2029⟩,
    ⟨0x202f, 0x202f⟩, ⟨0x205f, 0x205f⟩, ⟨0x3000, 0x3000⟩]

/- Whether a character is blank. -/
def isBlank (c : Char) : Bool :=
  CodeRange.covers blankRanges c.toNat

/- Every character that core calls whitespace is blank. -/
theorem isBlank_of_isWhitespace
    (c : Char)
    (h : c.isWhitespace = true) :
    isBlank c = true := by
  simp only [Char.isWhitespace, Bool.or_eq_true,
    decide_eq_true_eq] at h
  rcases h with ((rfl | rfl) | rfl) | rfl <;> decide

/- Drop the characters of a class from both ends. -/
def trimList
    (p : Char → Bool)
    (cs : List Char) : List Char :=
  ((cs.dropWhile p).reverse.dropWhile p).reverse

/- Drop the characters of a class from the end. -/
def trimEndList
    (p : Char → Bool)
    (cs : List Char) : List Char :=
  (cs.reverse.dropWhile p).reverse

/- What is left by `dropWhile` starts with no character dropped. -/
theorem not_of_head?_dropWhile
    (p : Char → Bool)
    (cs : List Char)
    (c : Char)
    (h : (cs.dropWhile p).head? = some c) :
    p c = false := by
  induction cs with
  | nil => simp at h
  | cons a rest ih =>
      by_cases ha : p a = true
      · exact ih (by simpa [ha] using h)
      · have hEq : a = c := by
          simpa [ha] using h
        simpa [hEq] using ha

/- Nothing is dropped before a first character to be kept. -/
theorem dropWhile_eq_self
    (p : Char → Bool)
    (cs : List Char)
    (h : ∀ c, cs.head? = some c → p c = false) :
    cs.dropWhile p = cs := by
  cases cs with
  | nil => rfl
  | cons c rest => simp [h c rfl]

/- Trimming the end leaves a front part. -/
theorem trimEndList_prefix
    (p : Char → Bool)
    (cs : List Char) :
    trimEndList p cs <+: cs := by
  have hSuffix := List.dropWhile_suffix p (l := cs.reverse)
  simpa [trimEndList] using List.reverse_prefix.2 hSuffix

/- Trimming the end keeps the first character or all is dropped. -/
theorem head?_trimEndList
    (p : Char → Bool)
    (cs : List Char)
    (c : Char)
    (h : (trimEndList p cs).head? = some c) :
    cs.head? = some c := by
  obtain ⟨rest, hRest⟩ := trimEndList_prefix p cs
  rw [← hRest, List.head?_append, h]
  rfl

/- A second trimming of the end finds nothing. -/
theorem trimEndList_trimEndList
    (p : Char → Bool)
    (cs : List Char) :
    trimEndList p (trimEndList p cs) = trimEndList p cs := by
  unfold trimEndList
  rw [List.reverse_reverse,
    dropWhile_eq_self p _ (not_of_head?_dropWhile p cs.reverse)]

/- Trimming the end goes no further than to a character to be kept. -/
theorem trimEndList_append
    (p : Char → Bool)
    (front back : List Char)
    (h : ∃ c, front.getLast? = some c ∧ p c = false) :
    trimEndList p (front ++ back) = front ++ trimEndList p back := by
  have hFront : front.reverse.dropWhile p = front.reverse := by
    apply dropWhile_eq_self
    intro c hc
    rw [List.head?_reverse] at hc
    rcases h with ⟨d, hd, hKept⟩
    rw [hd] at hc
    cases hc
    exact hKept
  unfold trimEndList
  rw [List.reverse_append, List.dropWhile_append, hFront]
  split
  · next hEmpty =>
      rw [List.isEmpty_iff.mp hEmpty]
      simp
  · simp

/- What is left by trimming both ends starts with no character dropped. -/
theorem not_of_head?_trimList
    (p : Char → Bool)
    (cs : List Char)
    (c : Char)
    (h : (trimList p cs).head? = some c) :
    p c = false :=
  not_of_head?_dropWhile p cs c (head?_trimEndList p _ c h)

/- A second trimming of both ends finds nothing. -/
theorem trimList_trimList
    (p : Char → Bool)
    (cs : List Char) :
    trimList p (trimList p cs) = trimList p cs := by
  have hEnd : ∀ ds,
      trimList p ds = trimEndList p (ds.dropWhile p) :=
    fun _ => rfl
  rw [hEnd (trimList p cs),
    dropWhile_eq_self p _ (not_of_head?_trimList p cs), hEnd,
    trimEndList_trimEndList]

/- What is dropped makes no difference in front or at the end. -/
theorem trimList_append_append
    (p : Char → Bool)
    {front back : List Char}
    (hFront : ∀ c ∈ front, p c = true)
    (hBack : ∀ c ∈ back, p c = true)
    (cs : List Char) :
    trimList p (front ++ cs ++ back) = trimList p cs := by
  have hAll : back.dropWhile p = [] := by
    rw [← List.append_nil back, List.dropWhile_append_of_pos hBack]
    rfl
  unfold trimList
  rw [List.append_assoc, List.dropWhile_append_of_pos hFront,
    List.dropWhile_append, hAll]
  split
  · next hEmpty =>
      rw [List.isEmpty_iff.mp hEmpty]
  · rw [List.reverse_append, List.dropWhile_append_of_pos]
    simpa using hBack

/- A text between two characters to be kept is left as it is. -/
theorem trimList_eq_self
    (p : Char → Bool)
    {cs : List Char}
    (hHead : ∀ c, cs.head? = some c → p c = false)
    (hLast : ∀ c, cs.getLast? = some c → p c = false) :
    trimList p cs = cs := by
  unfold trimList
  rw [dropWhile_eq_self p cs hHead, dropWhile_eq_self, List.reverse_reverse]
  intro c hc
  rw [List.head?_reverse] at hc
  exact hLast c hc

/- A text without the blanks at its two ends. -/
def strip (s : String) : String :=
  String.ofList (trimList isBlank s.toList)

/- A text that begins and ends with no blank is left as it is. -/
theorem strip_eq_self
    {s : String}
    (hHead : ∀ c, s.toList.head? = some c → isBlank c = false)
    (hLast : ∀ c, s.toList.getLast? = some c → isBlank c = false) :
    strip s = s := by
  rw [strip, trimList_eq_self isBlank hHead hLast, String.ofList_toList]

/- So is a text that was stripped before. -/
theorem strip_strip (s : String) :
    strip (strip s) = strip s := by
  simp [strip, trimList_trimList]

/- A text without any of its blanks. -/
def withoutBlanks (s : String) : String :=
  String.ofList (s.toList.filter fun c => !isBlank c)

/- A text without the slashes at its end. -/
def withoutTrailingSlashes (s : String) : String :=
  String.ofList (trimEndList (· == '/') s.toList)

/- Slashes are the characters dropped at its end. -/
theorem toList_withoutTrailingSlashes (s : String) :
    (withoutTrailingSlashes s).toList =
      trimEndList (· == '/') s.toList := by
  rw [withoutTrailingSlashes, String.toList_ofList]

/- What is left is the beginning of the text. -/
theorem withoutTrailingSlashes_prefix (s : String) :
    (withoutTrailingSlashes s).toList <+: s.toList := by
  rw [toList_withoutTrailingSlashes]
  exact trimEndList_prefix (· == '/') s.toList

end Text

end KeyAssertion
