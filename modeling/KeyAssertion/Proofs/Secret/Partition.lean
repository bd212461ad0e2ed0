import KeyAssertion.Proofs.Certificate.Standing
import KeyAssertion.Proofs.Secret.Detection
import KeyAssertion.Secret.Resolver

/-
  The formats of a secret share out the texts that are not
  blank: each is taken for one secret, by the first rule that
  holds of it without the blanks around it.  What is taken for
  a thumbprint is one in its normal spelling, and blanks around
  the text change nothing of what comes of it.

  Key definitions include:
    * `Text.IsBlankText`
    * `Secret.OpensObject`
    * `Secret.IsLongBase64`
    * `Secret.IsTold`

  Key theorems include:
    * `Secret.detect?_eq_none_iff`
    * `Secret.isTold`
-/

namespace KeyAssertion

------------------------------------------------------------
-- Blank Texts
------------------------------------------------------------

namespace Text

/- Whether a text has no other characters than blanks. -/
def IsBlankText (s : String) : Prop :=
  ∀ c ∈ s.toList, isBlank c = true

instance (s : String) : Decidable (IsBlankText s) :=
  decidable_of_iff (s.toList.all isBlank = true) List.all_eq_true

/- Nothing is left by trimming if every character is dropped. -/
theorem trimList_eq_nil_iff
    (p : Char → Bool)
    (cs : List Char) :
    trimList p cs = [] ↔ ∀ c ∈ cs, p c = true := by
  constructor
  · intro hNil c hMem
    have hFilter := filter_trimList p cs
    rw [hNil, List.filter_nil] at hFilter
    simpa using List.filter_eq_nil_iff.mp hFilter.symm c hMem
  · intro hAll
    have hNone : ∀ c ∈ ([] : List Char), p c = true := by
      simp
    have hTrim := trimList_append_append p hAll hNone []
    rwa [List.append_nil, List.append_nil] at hTrim

/- A text is blank if nothing is left of it without its blanks. -/
theorem strip_eq_empty_iff (s : String) :
    strip s = "" ↔ IsBlankText s := by
  rw [← String.toList_eq_nil_iff, strip, String.toList_ofList,
    trimList_eq_nil_iff]
  rfl

/- What is not true of the empty text is true of no blank text stripped. -/
theorem not_isBlankText_of_strip
    {p : String → Prop}
    {s : String}
    (hEmpty : ¬ p "")
    (h : p (strip s)) :
    ¬ IsBlankText s := by
  rw [← strip_eq_empty_iff]
  intro hBlank
  rw [hBlank] at h
  exact hEmpty h

/- Blank texts around a text make no difference to it without its blanks. -/
theorem strip_append_append
    {front back : String}
    (hFront : IsBlankText front)
    (hBack : IsBlankText back)
    (s : String) :
    strip (front ++ s ++ back) = strip s := by
  rw [strip, String.toList_append, String.toList_append,
    trimList_append_append isBlank hFront hBack, strip]

end Text

------------------------------------------------------------
-- Rules
------------------------------------------------------------

namespace Secret

/- Whether a text begins like an object. -/
def OpensObject (s : String) : Prop :=
  s.toList.head? = some '\x7b'

/- Whether a text consists of groups and is too long for a thumbprint. -/
def IsLongBase64 (s : String) : Prop :=
  longestNonBase64 < s.toList.length ∧ Base64.IsGrouped s.toList

/- The empty text does not begin like an object. -/
theorem not_opensObject_empty : ¬ OpensObject "" := by
  unfold OpensObject
  decide

/- Nor does it open a PEM text. -/
theorem not_opensPem_empty : ¬ OpensPem "" := by
  intro hOpens
  rcases hOpens.exists_hyphen with ⟨c, hHead, -⟩
  cases hHead

/- Nor is it long. -/
theorem not_isLongBase64_empty : ¬ IsLongBase64 "" := by
  rintro ⟨hLong, -⟩
  cases hLong

/- What is recognized as Base64 when it is long are the groups. -/
theorem isLongBase64_iff
    {s : String}
    (hStrip : Text.strip s = s) :
    longestNonBase64 < s.toList.length ∧ isBase64 s = true ↔
      IsLongBase64 s := by
  rw [isBase64_eq, hStrip, isBase64List_iff]
  constructor
  · rintro ⟨hLong, -, hGrouped⟩
    exact ⟨hLong, hGrouped⟩
  · rintro ⟨hLong, hGrouped⟩
    refine ⟨hLong, ?_, hGrouped⟩
    intro hNil
    rw [hNil] at hLong
    cases hLong

------------------------------------------------------------
-- Formats
------------------------------------------------------------

/- No secret is told in a blank text, and in no other. -/
theorem detect?_eq_none_iff (raw : String) :
    detect? (some raw) = none ↔ Text.IsBlankText raw := by
  rw [← Text.strip_eq_empty_iff]
  simp only [detect?]
  split_ifs with hEmpty
  · exact iff_of_true rfl hEmpty
  · exact iff_of_false (by simp) hEmpty

/- A JWK is told by its first character. -/
theorem detect?_eq_jwk_iff
    (raw t : String) :
    detect? (some raw) = some (.jwk t) ↔
      t = Text.strip raw ∧ OpensObject (Text.strip raw) := by
  rw [detect?_eq_some_iff, ne_eq, Text.strip_eq_empty_iff]
  constructor
  · rintro ⟨-, hTaken⟩
    cases hTaken with
    | jwk hBrace => exact ⟨rfl, hBrace⟩
  · rintro ⟨rfl, hOpens⟩
    exact ⟨Text.not_isBlankText_of_strip not_opensObject_empty hOpens,
      .jwk hOpens⟩

/- A PEM text is told by its opening. -/
theorem detect?_eq_pem_iff
    (raw t : String) :
    detect? (some raw) = some (.pem t) ↔
      t = Text.strip raw ∧ ¬ OpensObject (Text.strip raw) ∧
        OpensPem (Text.strip raw) := by
  rw [detect?_eq_some_iff, ne_eq, Text.strip_eq_empty_iff]
  constructor
  · rintro ⟨-, hTaken⟩
    cases hTaken with
    | pem hNoBrace hOpens => exact ⟨rfl, hNoBrace, hOpens⟩
  · rintro ⟨rfl, hOther, hOpens⟩
    exact ⟨Text.not_isBlankText_of_strip not_opensPem_empty hOpens,
      .pem hOther hOpens⟩

/- Base64 is told by its length and its groups. -/
theorem detect?_eq_base64_iff
    (raw t : String) :
    detect? (some raw) = some (.base64 t) ↔
      t = Text.strip raw ∧ ¬ OpensObject (Text.strip raw) ∧
        ¬ OpensPem (Text.strip raw) ∧ IsLongBase64 (Text.strip raw) := by
  have hLong := isLongBase64_iff (Text.strip_strip raw)
  rw [detect?_eq_some_iff, ne_eq, Text.strip_eq_empty_iff]
  constructor
  · rintro ⟨-, hTaken⟩
    cases hTaken with
    | base64 hNoBrace hOpensNot hLength hBase64 =>
        exact ⟨rfl, hNoBrace, hOpensNot, hLong.mp ⟨hLength, hBase64⟩⟩
  · rintro ⟨rfl, hOther, hOpensNot, hGroups⟩
    rcases hLong.mpr hGroups with ⟨hLength, hBase64⟩
    exact ⟨Text.not_isBlankText_of_strip not_isLongBase64_empty hGroups,
      .base64 hOther hOpensNot hLength hBase64⟩

/- What none of the other rules takes is put in the normal spelling. -/
theorem isTaken_thumbprint_iff
    {s : String}
    (hStrip : Text.strip s = s)
    (t : String) :
    IsTaken s (.thumbprint t) ↔
      t = Thumbprint.normalize s ∧ ¬ OpensObject s ∧ ¬ OpensPem s ∧
        ¬ IsLongBase64 s := by
  rw [← isLongBase64_iff hStrip]
  constructor
  · intro hTaken
    -- The normal spelling is kept out of the unification of `cases`.
    generalize hSecret : Secret.thumbprint t = secret at hTaken
    cases hTaken with
    | thumbprint hNoBrace hOpensNot hOther =>
        exact ⟨Secret.thumbprint.inj hSecret, hNoBrace, hOpensNot, hOther⟩
    | _ => cases hSecret
  · rintro ⟨rfl, hNoBrace, hOpensNot, hOther⟩
    exact .thumbprint hNoBrace hOpensNot hOther

/- What is left is taken for a thumbprint. -/
theorem detect?_eq_thumbprint_iff
    (raw t : String) :
    detect? (some raw) = some (.thumbprint t) ↔
      t = Thumbprint.normalize (Text.strip raw) ∧
        ¬ Text.IsBlankText raw ∧ ¬ OpensObject (Text.strip raw) ∧
          ¬ OpensPem (Text.strip raw) ∧
            ¬ IsLongBase64 (Text.strip raw) := by
  rw [detect?_eq_some_iff, ne_eq, Text.strip_eq_empty_iff,
    isTaken_thumbprint_iff (Text.strip_strip raw)]
  exact and_left_comm

------------------------------------------------------------
-- Thumbprints
------------------------------------------------------------

/- A thumbprint in its normal spelling has no blanks. -/
theorem not_blank_of_mem_normalize
    {s : String}
    {c : Char}
    (hMem : c ∈ (Thumbprint.normalize s).toList) :
    Text.isBlank c = false := by
  rw [Thumbprint.toList_normalize] at hMem
  have hSettled := Text.isSettled_of_mem_upperList
    (fun _ => Thumbprint.not_blank_of_mem_filter) hMem
  exact hSettled.not_blank

/- Whether a text is a thumbprint in its normal spelling. -/
structure IsNormalThumbprint (t : String) : Prop where
  notEmpty : t ≠ ""
  noBlank : ∀ c ∈ t.toList, Text.isBlank c = false
  fixed : Thumbprint.normalize t = t

/- What is taken for a thumbprint is one. -/
theorem isNormalThumbprint_of_detect?
    {raw t : String}
    (h : detect? (some raw) = some (.thumbprint t)) :
    IsNormalThumbprint t := by
  rcases (detect?_eq_thumbprint_iff raw t).mp h with ⟨rfl, hSome, -⟩
  constructor
  · rw [ne_eq, Thumbprint.normalize_strip,
      Thumbprint.normalize_eq_empty_iff]
    exact hSome
  · intro c
    exact not_blank_of_mem_normalize
  · exact Thumbprint.normalize_normalize _

------------------------------------------------------------
-- Telling
------------------------------------------------------------

/-
  Whether a text has its place among the formats:
    * it is refused if it is blank, and only then;
    * else the first of the rules for an object, a PEM text and
      Base64 that holds gives the format, and the text is kept
      without the blanks around it;
    * if none of them holds it is a thumbprint, which is put in
      its normal spelling;
    * with blanks around it, it is the same secret and resolves
      to the same key or error.
-/
structure IsTold
    [KeyLibrary]
    (raw : String) : Prop where
  blank :
    detect? (some raw) = none ↔ Text.IsBlankText raw
  refused :
    Text.IsBlankText raw → ∀ store now,
      resolve store now (some raw) = .error .empty
  jwk : ∀ t,
    detect? (some raw) = some (.jwk t) ↔
      t = Text.strip raw ∧ OpensObject (Text.strip raw)
  pem : ∀ t,
    detect? (some raw) = some (.pem t) ↔
      t = Text.strip raw ∧ ¬ OpensObject (Text.strip raw) ∧
        OpensPem (Text.strip raw)
  base64 : ∀ t,
    detect? (some raw) = some (.base64 t) ↔
      t = Text.strip raw ∧ ¬ OpensObject (Text.strip raw) ∧
        ¬ OpensPem (Text.strip raw) ∧ IsLongBase64 (Text.strip raw)
  thumbprint : ∀ t,
    detect? (some raw) = some (.thumbprint t) ↔
      t = Thumbprint.normalize (Text.strip raw) ∧
        ¬ Text.IsBlankText raw ∧ ¬ OpensObject (Text.strip raw) ∧
          ¬ OpensPem (Text.strip raw) ∧
            ¬ IsLongBase64 (Text.strip raw)
  normal : ∀ t,
    detect? (some raw) = some (.thumbprint t) → IsNormalThumbprint t
  surrounded : ∀ front back,
    Text.IsBlankText front → Text.IsBlankText back →
      detect? (some (front ++ raw ++ back)) = detect? (some raw) ∧
        ∀ store now,
          resolve store now (some (front ++ raw ++ back)) =
            resolve store now (some raw)

/- Blank texts around a text do not change what it is taken for. -/
theorem detect?_append_append
    {front back : String}
    (hFront : Text.IsBlankText front)
    (hBack : Text.IsBlankText back)
    (raw : String) :
    detect? (some (front ++ raw ++ back)) = detect? (some raw) := by
  simp only [detect?, Text.strip_append_append hFront hBack]

/- Every text has its place among the formats. -/
theorem isTold
    [KeyLibrary]
    (raw : String) :
    IsTold raw where
  blank := detect?_eq_none_iff raw
  refused := by
    intro hBlank store now
    simp only [resolve, (detect?_eq_none_iff raw).mpr hBlank]
  jwk := detect?_eq_jwk_iff raw
  pem := detect?_eq_pem_iff raw
  base64 := detect?_eq_base64_iff raw
  thumbprint := detect?_eq_thumbprint_iff raw
  normal := fun _ => isNormalThumbprint_of_detect?
  surrounded := by
    intro front back hFront hBack
    have hDetect := detect?_append_append hFront hBack raw
    refine ⟨hDetect, ?_⟩
    intro store now
    simp only [resolve, hDetect]

/- A thumbprint with blanks inside and at its ends is one without them. -/
theorem isTold_of_thumbprint :
    detect? (some ("\u2003" ++ "3f 2a" ++ "\u0085\n")) =
        some (.thumbprint "3F2A") ∧
      IsNormalThumbprint "3F2A" := by
  have hSame := (isTold "3f 2a").surrounded "\u2003" "\u0085\n"
    (by decide +kernel) (by decide +kernel)
  have hDetect :
      detect? (some "3f 2a") = some (.thumbprint "3F2A") := by
    decide +kernel
  exact ⟨hSame.1.trans hDetect, (isTold "3f 2a").normal _ hDetect⟩

end Secret

end KeyAssertion
