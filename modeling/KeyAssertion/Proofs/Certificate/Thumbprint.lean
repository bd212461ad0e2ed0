import KeyAssertion.Certificate.Basic
import KeyAssertion.Proofs.Certificate.Lookup
import KeyAssertion.Proofs.Secret.Detection

/-
  The thumbprint of a certificate: forty digits in upper case.
  This is its normal spelling, and as a secret any text with
  this normal spelling is taken for the thumbprint and for
  nothing else, however long it is.

  Key theorems include:
    * `Certificate.length_thumbprint`
    * `Certificate.normalize_thumbprint`
    * `Secret.normalize_ne_thumbprint`
    * `Secret.detect?_of_spelling`
-/

namespace KeyAssertion

------------------------------------------------------------
-- Digits
------------------------------------------------------------

/- A digest has twenty bytes. -/
theorem Hash.length_sha1 (message : Bytes) :
    (sha1 message).length = 20 := by
  simp [sha1, Bytes.length_ofNatWidth]

/- A hexadecimal digit in upper case is settled and no mark. -/
theorem Text.upperHexDigit_plain
    {n : Nat}
    (h : n < 16) :
    IsSettled (upperHexDigit n).toNat ∧
      upperHexDigit n ≠ '\x7b' ∧ upperHexDigit n ≠ '-' := by
  have hAll : ∀ n : Fin 16,
      ((upperHexDigit n).toNat.isValidChar ∧
        CodeRange.covers blankRanges (upperHexDigit n).toNat = false ∧
        upperPoints (upperHexDigit n).toNat =
          [(upperHexDigit n).toNat]) ∧
        upperHexDigit n ≠ '\x7b' ∧ upperHexDigit n ≠ '-' := by
    decide +kernel
  rcases hAll ⟨n, h⟩ with ⟨⟨hValid, hBlank, hUpper⟩, hMarks⟩
  exact ⟨⟨hValid, hBlank, hUpper⟩, hMarks⟩

namespace Certificate

/- A thumbprint consists of hexadecimal digits in upper case. -/
theorem exists_digit_of_mem_thumbprint
    {c : Certificate}
    {x : Char}
    (h : x ∈ c.thumbprint.toList) :
    ∃ n, n < 16 ∧ x = Text.upperHexDigit n := by
  unfold thumbprint Bytes.upperHex at h
  rw [String.toList_ofList] at h
  rcases List.mem_flatMap.mp h with ⟨b, -, hx⟩
  have hByte := b.toNat_lt
  simp only [List.mem_cons, List.not_mem_nil, or_false] at hx
  rcases hx with hHigh | hLow
  · exact ⟨_, by omega, hHigh⟩
  · exact ⟨_, by omega, hLow⟩

/- There are forty of them. -/
theorem length_thumbprint (c : Certificate) :
    c.thumbprint.toList.length = 40 := by
  unfold thumbprint Bytes.upperHex
  rw [String.toList_ofList, List.length_flatMap]
  simp [List.map_const', Hash.length_sha1]

/- They are settled. -/
theorem isSettled_of_mem_thumbprint
    {c : Certificate}
    {x : Char}
    (h : x ∈ c.thumbprint.toList) :
    Text.IsSettled x.toNat := by
  rcases exists_digit_of_mem_thumbprint h with ⟨n, hn, rfl⟩
  exact (Text.upperHexDigit_plain hn).1

/- A thumbprint is in its normal spelling. -/
theorem normalize_thumbprint (c : Certificate) :
    Thumbprint.normalize c.thumbprint = c.thumbprint := by
  apply Thumbprint.normalize_of_settled
  intro x hx
  exact isSettled_of_mem_thumbprint hx

/- It is not empty. -/
theorem thumbprint_ne_empty (c : Certificate) :
    c.thumbprint ≠ "" := by
  intro hEmpty
  have hLength := c.length_thumbprint
  rw [hEmpty] at hLength
  cases hLength

end Certificate

namespace Secret

------------------------------------------------------------
-- Base64
------------------------------------------------------------

/- In its normal spelling Base64 is not shorter. -/
theorem length_le_length_normalize
    {s : String}
    (h : isBase64List s.toList = true) :
    s.toList.length ≤ (Thumbprint.normalize s).toList.length := by
  rw [Thumbprint.normalize_of_not_blank fun _ hMem =>
    not_blank_of_isBase64List h hMem, Text.upper, String.toList_ofList]
  exact Text.length_le_length_upperList _

/- It is no spelling of the thumbprint of a certificate if it is long. -/
theorem normalize_ne_thumbprint
    {s : String}
    (hLong : longestNonBase64 < s.toList.length)
    (hBase64 : isBase64List s.toList = true)
    (c : Certificate) :
    Thumbprint.normalize s ≠ c.thumbprint := by
  intro hSame
  have hLength := length_le_length_normalize hBase64
  rw [hSame, c.length_thumbprint] at hLength
  have hBound : longestNonBase64 = 100 := rfl
  omega

------------------------------------------------------------
-- Spellings
------------------------------------------------------------

section Spelling

variable {c : Certificate} {s : String}

/- A character of a spelling has only digits in its upper-case form. -/
theorem exists_digit_of_spelling
    {d x : Char}
    (hSame : Thumbprint.normalize s = c.thumbprint)
    (hMem : d ∈ s.toList)
    (hBlank : Text.isBlank d = false)
    (hUpper : x ∈ Text.upperList [d]) :
    ∃ n, n < 16 ∧ x = Text.upperHexDigit n := by
  have hLeft := Thumbprint.mem_normalize hMem hBlank hUpper
  rw [hSame] at hLeft
  exact Certificate.exists_digit_of_mem_thumbprint hLeft

/- A spelling does not begin with a brace. -/
theorem head?_ne_brace_of_spelling
    (hSame : Thumbprint.normalize s = c.thumbprint) :
    s.toList.head? ≠ some '\x7b' := by
  intro hHead
  have hUpper : '\x7b' ∈ Text.upperList ['\x7b'] := by
    decide +kernel
  rcases exists_digit_of_spelling hSame (List.mem_of_mem_head? hHead)
    (by decide) hUpper with ⟨n, hn, hDigit⟩
  exact (Text.upperHexDigit_plain hn).2.1 hDigit.symm

/- Without a blank in front it does not open a PEM text. -/
theorem not_opensPem_of_spelling
    (hSame : Thumbprint.normalize s = c.thumbprint)
    (hFront : ∀ d, s.toList.head? = some d → Text.isBlank d = false) :
    ¬ OpensPem s := by
  intro hOpens
  rcases hOpens.exists_hyphen with ⟨d, hHead, hHyphen⟩
  rcases exists_digit_of_spelling hSame (List.mem_of_mem_head? hHead)
    (hFront d hHead) hHyphen with ⟨n, hn, hDigit⟩
  exact (Text.upperHexDigit_plain hn).2.2 hDigit.symm

/- Without blanks at its ends it is taken for the thumbprint. -/
theorem isTaken_of_spelling
    (hSame : Thumbprint.normalize s = c.thumbprint)
    (hStrip : Text.strip s = s) :
    IsTaken s (.thumbprint c.thumbprint) := by
  have hFront : ∀ d, s.toList.head? = some d → Text.isBlank d = false := by
    intro d hHead
    rw [← hStrip, Text.strip, String.toList_ofList] at hHead
    exact Text.not_of_head?_trimList Text.isBlank s.toList d hHead
  have hOther :
      ¬ (longestNonBase64 < s.toList.length ∧ isBase64 s = true) := by
    rintro ⟨hLong, hBase64⟩
    rw [isBase64_eq, hStrip] at hBase64
    exact normalize_ne_thumbprint hLong hBase64 c hSame
  rw [← hSame]
  exact .thumbprint (head?_ne_brace_of_spelling hSame)
    (not_opensPem_of_spelling hSame hFront) hOther

/- So it is with any blanks. -/
theorem detect?_of_spelling
    (hSame : Thumbprint.normalize s = c.thumbprint) :
    detect? (some s) = some (.thumbprint c.thumbprint) := by
  rw [← Thumbprint.normalize_strip] at hSame
  rw [detect?_eq_some_iff]
  refine ⟨?_, isTaken_of_spelling hSame (Text.strip_strip s)⟩
  intro hEmpty
  rw [hEmpty] at hSame
  exact c.thumbprint_ne_empty hSame.symm

end Spelling

/- So is the thumbprint itself. -/
theorem detect?_thumbprint (c : Certificate) :
    detect? (some c.thumbprint) = some (.thumbprint c.thumbprint) :=
  detect?_of_spelling c.normalize_thumbprint

end Secret

end KeyAssertion
