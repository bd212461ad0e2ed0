import KeyAssertion.Encoding.Bytes
import KeyAssertion.Proofs.Encoding.Base64
import KeyAssertion.Proofs.Encoding.Grouped
import KeyAssertion.Secret.Format
import Mathlib.Tactic.SplitIfs

/-
  The rules by which a text is taken for a secret, and what a
  text in braces and the Base64 form of bytes are taken for,
  with blanks around them.

  Key definitions include:
    * `Secret.IsTaken`

  Key theorems include:
    * `Secret.detect?_eq_some_iff`
    * `Secret.isBase64List_iff`
    * `Secret.detect?_surrounded`
    * `Secret.detect?_of_brace`
    * `Secret.detect?_encode`
-/

namespace KeyAssertion

namespace Secret

------------------------------------------------------------
-- Rules
------------------------------------------------------------

/- Whether the first characters of a text in upper case open a PEM text. -/
def OpensPem (s : String) : Prop :=
  Text.upperList (s.toList.take pemOpening.toList.length) =
    pemOpening.toList

/-
  The opening begins with a hyphen, which comes from the first
  character of the text.
-/
theorem OpensPem.exists_hyphen
    {s : String}
    (h : OpensPem s) :
    ∃ c, s.toList.head? = some c ∧ '-' ∈ Text.upperList [c] := by
  unfold OpensPem at h
  cases hList : s.toList with
  | nil =>
      rw [hList] at h
      cases h
  | cons c rest =>
      have hOpening : pemOpening.toList = '-' :: "----BEGIN".toList := rfl
      rw [hList, hOpening, List.length_cons, List.take_succ_cons] at h
      exact ⟨c, rfl, Text.mem_upperList_head h⟩

/-
  What a text without blanks at its ends is taken for.  Each
  rule has the opposite of those before it.
-/
inductive IsTaken (s : String) : Secret → Prop
  | jwk
      (hBrace : s.toList.head? = some '\x7b') :
      IsTaken s (.jwk s)
  | pem
      (hNoBrace : s.toList.head? ≠ some '\x7b')
      (hOpens : OpensPem s) :
      IsTaken s (.pem s)
  | base64
      (hNoBrace : s.toList.head? ≠ some '\x7b')
      (hOpensNot : ¬ OpensPem s)
      (hLong : longestNonBase64 < s.toList.length)
      (hBase64 : isBase64 s = true) :
      IsTaken s (.base64 s)
  | thumbprint
      (hNoBrace : s.toList.head? ≠ some '\x7b')
      (hOpensNot : ¬ OpensPem s)
      (hOther :
        ¬ (longestNonBase64 < s.toList.length ∧ isBase64 s = true)) :
      IsTaken s (.thumbprint (Thumbprint.normalize s))

/- One of the rules holds of a text, and no other secret is taken. -/
theorem ofTrimmed_eq_iff
    (s : String)
    (secret : Secret) :
    ofTrimmed s = secret ↔ IsTaken s secret := by
  constructor
  · rintro rfl
    unfold ofTrimmed
    dsimp only
    split_ifs with hBrace hOpens hBoth
    · exact .jwk hBrace
    · exact .pem hBrace hOpens
    · rw [Bool.and_eq_true, decide_eq_true_eq] at hBoth
      exact .base64 hBrace hOpens hBoth.1 hBoth.2
    · rw [Bool.and_eq_true, decide_eq_true_eq] at hBoth
      exact .thumbprint hBrace hOpens hBoth
  · intro h
    cases h with
    | jwk hBrace => simp only [ofTrimmed, if_pos hBrace]
    | pem hNoBrace hOpens =>
        simp only [ofTrimmed, if_neg hNoBrace]
        exact if_pos hOpens
    | base64 hNoBrace hOpensNot hLong hBase64 =>
        simp only [ofTrimmed, if_neg hNoBrace, hLong, hBase64,
          decide_true, Bool.and_self, if_true]
        exact if_neg hOpensNot
    | thumbprint hNoBrace hOpensNot hOther =>
        have hBoth :
            ¬ (decide (longestNonBase64 < s.toList.length) &&
              isBase64 s) = true := by
          rwa [Bool.and_eq_true, decide_eq_true_eq]
        simp only [ofTrimmed, if_neg hNoBrace, if_neg hBoth]
        exact if_neg hOpensNot

/- A text is taken for a secret by the rule that holds without its blanks. -/
theorem detect?_eq_some_iff
    (raw : String)
    (secret : Secret) :
    detect? (some raw) = some secret ↔
      Text.strip raw ≠ "" ∧ IsTaken (Text.strip raw) secret := by
  rw [← ofTrimmed_eq_iff]
  simp only [detect?]
  split_ifs with hEmpty
  · simp [hEmpty]
  · simp [hEmpty]

------------------------------------------------------------
-- Blanks
------------------------------------------------------------

/- Blanks around a text make no difference. -/
theorem strip_surrounded
    {front back : List Char}
    (hFront : ∀ c ∈ front, Text.isBlank c = true)
    (hBack : ∀ c ∈ back, Text.isBlank c = true)
    (cs : List Char) :
    Text.strip (String.ofList (front ++ cs ++ back)) =
      Text.strip (String.ofList cs) := by
  unfold Text.strip
  rw [String.toList_ofList, String.toList_ofList,
    Text.trimList_append_append Text.isBlank hFront hBack]

/- Neither do they to what the text is taken for. -/
theorem detect?_surrounded
    {front back : List Char}
    (hFront : ∀ c ∈ front, Text.isBlank c = true)
    (hBack : ∀ c ∈ back, Text.isBlank c = true)
    (cs : List Char) :
    detect? (some (String.ofList (front ++ cs ++ back))) =
      detect? (some (String.ofList cs)) := by
  unfold detect?
  simp only [strip_surrounded hFront hBack]

/- A text without blanks at its ends is taken as it is. -/
theorem detect?_of_stripped
    {s : String}
    {secret : Secret}
    (hStrip : Text.strip s = s)
    (hSome : s.toList ≠ [])
    (hTaken : IsTaken s secret) :
    detect? (some s) = some secret := by
  rw [detect?_eq_some_iff, hStrip]
  refine ⟨?_, hTaken⟩
  rintro rfl
  exact hSome rfl

------------------------------------------------------------
-- Texts in Braces
------------------------------------------------------------

/- A text that begins with a brace is taken for a JWK. -/
theorem detect?_of_brace
    {s : String}
    (hStrip : Text.strip s = s)
    (hBrace : s.toList.head? = some '{') :
    detect? (some s) = some (.jwk s) := by
  have hSome : s.toList ≠ [] := by
    intro hNil
    rw [hNil] at hBrace
    cases hBrace
  exact detect?_of_stripped hStrip hSome (.jwk hBrace)

------------------------------------------------------------
-- Base64
------------------------------------------------------------

/- Characters in groups are recognized, if there are any. -/
theorem isBase64List_iff (cs : List Char) :
    isBase64List cs = true ↔ cs ≠ [] ∧ Base64.IsGrouped cs := by
  rw [Base64.isGrouped_iff]
  simp only [isBase64List, Base64.IsPadding, Base64.afterDigits,
    Bool.and_eq_true, Bool.or_eq_true, beq_iff_eq, Bool.not_eq_true',
    List.isEmpty_eq_false_iff, and_assoc, or_assoc, ne_eq]

/- The characters of a text without blanks at its ends are those looked at. -/
theorem isBase64_eq (s : String) :
    isBase64 s = isBase64List (Text.strip s).toList := by
  rw [isBase64, Text.strip, String.toList_ofList]

/- What is recognized has no blanks. -/
theorem not_blank_of_isBase64List
    {cs : List Char}
    {c : Char}
    (h : isBase64List cs = true)
    (hMem : c ∈ cs) :
    Text.isBlank c = false := by
  have hGrouped := ((isBase64List_iff cs).mp h).2
  rcases hGrouped.isDigit_or_pad c hMem with hDigit | rfl
  · exact hDigit.not_blank
  · decide

/- The Base64 form of bytes is recognized, since it can be read. -/
theorem isBase64List_encode
    {bytes : Bytes}
    (h : bytes ≠ []) :
    isBase64List (Base64.encode Base64.standard bytes) = true := by
  rw [isBase64List_iff, ← Base64.exists_decode_iff]
  refine ⟨?_, bytes, Base64.decode_encode Base64.standard false bytes⟩
  intro hNil
  rcases Base64.head?_encode Base64.standard h with ⟨n, -, hHead⟩
  rw [hNil] at hHead
  cases hHead

/- It has no blanks at its ends. -/
theorem strip_encode
    {bytes : Bytes}
    (h : bytes ≠ []) :
    Text.strip (String.ofList (Base64.encode Base64.standard bytes)) =
      String.ofList (Base64.encode Base64.standard bytes) := by
  apply Text.strip_eq_self
  · intro c hHead
    rw [String.toList_ofList] at hHead
    exact not_blank_of_isBase64List (isBase64List_encode h)
      (List.mem_of_mem_head? hHead)
  · intro c hLast
    rw [String.toList_ofList] at hLast
    exact not_blank_of_isBase64List (isBase64List_encode h)
      (List.mem_of_getLast? hLast)

/- A digit is no brace, and no hyphen is its upper-case form. -/
theorem standard_digit_plain
    {n : Nat}
    (h : n < 64) :
    Base64.standard.digit n ≠ '\x7b' ∧
      '-' ∉ Text.upperList [Base64.standard.digit n] := by
  have hAll : ∀ n : Fin 64,
      Base64.standard.digit n ≠ '\x7b' ∧
        '-' ∉ Text.upperList [Base64.standard.digit n] := by
    decide +kernel
  exact hAll ⟨n, h⟩

/- Bytes whose Base64 form is long enough are taken for Base64. -/
theorem detect?_encode
    {bytes : Bytes}
    (hLong :
      longestNonBase64 < (Base64.encode Base64.standard bytes).length) :
    detect? (some (String.ofList (Base64.encode Base64.standard bytes))) =
      some (.base64
        (String.ofList (Base64.encode Base64.standard bytes))) := by
  have hBytes : bytes ≠ [] := by
    rintro rfl
    cases hLong
  rcases Base64.head?_encode Base64.standard hBytes with ⟨n, hn, hHead⟩
  apply detect?_of_stripped (strip_encode hBytes)
  · rw [String.toList_ofList]
    intro hNil
    rw [hNil] at hHead
    cases hHead
  · apply IsTaken.base64
    · rw [String.toList_ofList, hHead]
      intro hSame
      exact (standard_digit_plain hn).1 (Option.some.inj hSame)
    · intro hOpens
      rcases hOpens.exists_hyphen with ⟨c, hFirst, hHyphen⟩
      rw [String.toList_ofList, hHead] at hFirst
      cases hFirst
      exact (standard_digit_plain hn).2 hHyphen
    · rwa [String.toList_ofList]
    · rw [isBase64_eq, strip_encode hBytes, String.toList_ofList]
      exact isBase64List_encode hBytes

end Secret

end KeyAssertion
