import KeyAssertion.Proofs.Discovery.Destination
import KeyAssertion.Proofs.Discovery.History
import KeyAssertion.Proofs.Encoding.Bytes

/-
  When the normal form of an authority is its own normal form.
  Blanks at the ends are taken off first and slashes at the end
  after them, so that a blank may be left at the end; nothing
  else stands in the way.

  Key definitions include:
    * `Exchange.HasOneKey`

  Key theorems include:
    * `Text.strip_eq_self_iff`
    * `Authority.check_withoutTrailingSlashes`
    * `Authority.normalize_key_iff`
    * `Exchange.hasOneKey_iff`
-/

namespace KeyAssertion

------------------------------------------------------------
-- Blanks
------------------------------------------------------------

namespace Text

/- What is left by trimming both ends ends in no character dropped. -/
theorem not_of_getLast?_trimList
    (p : Char → Bool)
    (cs : List Char)
    (c : Char)
    (h : (trimList p cs).getLast? = some c) :
    p c = false := by
  unfold trimList at h
  rw [List.getLast?_reverse] at h
  exact not_of_head?_dropWhile p _ c h

/-
  A text that begins with no blank is left as it is if and only
  if it ends with none.
-/
theorem strip_eq_self_iff
    {s : String}
    (hHead : ∀ c, s.toList.head? = some c → isBlank c = false) :
    strip s = s ↔
      ∀ c, s.toList.getLast? = some c → isBlank c = false := by
  constructor
  · intro hSame c hc
    rw [← hSame, strip, String.toList_ofList] at hc
    exact not_of_getLast?_trimList isBlank _ c hc
  · exact strip_eq_self hHead

/- Slashes are taken off the end once. -/
theorem withoutTrailingSlashes_idem (s : String) :
    withoutTrailingSlashes (withoutTrailingSlashes s) =
      withoutTrailingSlashes s := by
  rw [← String.toList_inj]
  simp only [toList_withoutTrailingSlashes, trimEndList_trimEndList]

/-
  A text that is left when blanks and then slashes are taken
  off has no blanks at its ends.
-/
theorem strip_of_withoutTrailingSlashes
    {s : String}
    (h : withoutTrailingSlashes (strip s) = s) :
    strip s = s := by
  have hFront := withoutTrailingSlashes_prefix (strip s)
  rw [h] at hFront
  have hLength : (strip s).toList.length ≤ s.toList.length := by
    have hEnd := List.length_dropWhile_le isBlank s.toList
    have hBoth := List.length_dropWhile_le isBlank
      (s.toList.dropWhile isBlank).reverse
    rw [List.length_reverse] at hBoth
    simp only [strip, trimList, String.toList_ofList, List.length_reverse]
    exact hBoth.trans hEnd
  rw [← String.toList_inj]
  exact (hFront.eq_of_length_le hLength).symm

/- No slash is taken off a text that ends with another character. -/
theorem withoutTrailingSlashes_eq_self
    {s : String}
    {c : Char}
    (hLast : s.toList.getLast? = some c)
    (hOther : c ≠ '/') :
    withoutTrailingSlashes s = s := by
  have hKept :=
    trimEndList_append (· == '/') s.toList [] ⟨c, hLast, by simpa using hOther⟩
  rw [List.append_nil] at hKept
  rw [← String.toList_inj, toList_withoutTrailingSlashes]
  simpa [trimEndList] using hKept

end Text

------------------------------------------------------------
-- Empty Parts
------------------------------------------------------------

namespace Percent

/- Only the empty text is encoded as the empty text. -/
theorem encodeList_eq_nil
    {isSafe : Char → Bool}
    {cs : List Char}
    (h : encodeList isSafe cs = []) :
    cs = [] := by
  have hCharacter : ∀ c, character isSafe c ≠ [] := by
    intro c hNone
    unfold character at hNone
    split_ifs at hNone
    have hLength := Bytes.length_le_length_ofText (String.singleton c)
    cases hBytes : Bytes.ofText (String.singleton c) with
    | nil => simp [hBytes] at hLength
    | cons b rest => simp [hBytes, byte] at hNone
  fun_cases encodeList isSafe cs with
  | case1 a b rest hEscape => simp [encodeList, hEscape] at h
  | case2 a b rest hPlain =>
    simp only [encodeList, if_neg hPlain, List.append_eq_nil_iff] at h
    exact absurd h.1 (hCharacter '%')
  | case3 c rest hOther =>
    rw [encodeList_cons isSafe fun a b more hPercent hRest =>
      (hOther a b more hPercent hRest).elim, List.append_eq_nil_iff] at h
    exact absurd h.1 (hCharacter c)
  | case4 => rfl

end Percent

------------------------------------------------------------
-- Authorities
------------------------------------------------------------

namespace Authority

/- A part that is not carried was empty or is not there. -/
theorem eq_nil_of_not_isCarried
    {isSafe : Char → Bool}
    {part : Option (List Char)}
    (h : isCarried (part.map fun cs =>
      String.ofList (Percent.encodeList isSafe cs)) = false)
    {cs : List Char}
    (hPart : part = some cs) :
    cs = [] := by
  subst hPart
  have hEmpty : Percent.encodeList isSafe cs = [] := by
    simpa [isCarried] using h
  exact Percent.encodeList_eq_nil hEmpty

/-
  The text of an authority ends with a mark if there is one in
  it, since nothing may stand behind it.
-/
theorem getLast?_of_marked
    {text : String}
    (hCheck : check text = .ok ())
    (hMarked : ¬ ∀ c ∈ text.toList, c ∉ Url.marks) :
    ∃ c, text.toList.getLast? = some c ∧ c ∈ Url.marks := by
  rcases (check_eq_ok_iff text).mp hCheck with
    ⟨u, hParse, _, _, _, hBare⟩
  rcases written_of_check hCheck with
    ⟨u', word, place, rest, hParse', _, _, hWritten, _⟩
  obtain rfl : u' = u := Except.ok.inj (hParse'.symm.trans hParse)
  rcases (Url.parse_eq_ok_iff _ _).mp hParse with ⟨_, _, hParts⟩
  rcases Url.ofParts_behind hParts hWritten.scheme_ne_nil with
    ⟨_, hQuery, hFragment⟩
  simp only [Bool.or_eq_false_iff, hQuery, hFragment] at hBare
  rcases hWritten.behind with ⟨back, hRest, hPath, hBehind⟩
  have hThere : back ≠ [] := by
    rintro rfl
    apply hMarked
    rw [hWritten.marked_iff, hRest, List.append_nil]
    exact hPath
  rcases hBehind.getLast?_mem_marks hThere
      (fun q hq => eq_nil_of_not_isCarried hBare.1 hq)
      (fun f hf => eq_nil_of_not_isCarried hBare.2 hf) with
    ⟨c, hLast, hMark⟩
  refine ⟨c, ?_, hMark⟩
  rw [hWritten.text, hRest]
  simp [List.getLast?_append, List.getLast?_cons, hLast]

/- An authority is accepted without the slashes at its end as well. -/
theorem check_withoutTrailingSlashes
    {text : String}
    (hCheck : check text = .ok ()) :
    check (Text.withoutTrailingSlashes text) = .ok () := by
  by_cases hNone : ∀ c ∈ text.toList, c ∉ Url.marks
  · rcases (check_eq_ok_iff text).mp hCheck with
      ⟨u, hParse, hScheme, hReached, hHost, _⟩
    rcases written_of_check hCheck with
      ⟨u', word, place, rest, hParse', hNamed, _, hWritten, hThere⟩
    obtain rfl : u' = u := Except.ok.inj (hParse'.symm.trans hParse)
    have hPrefix := Text.withoutTrailingSlashes_prefix text
    have hShort :
        (Text.withoutTrailingSlashes text ++ "").toList.length ≤
          Url.longest := by
      have hLength := ((Url.parse_eq_ok_iff _ _).mp hParse).1
      rw [String.append_empty]
      exact hPrefix.length_le.trans hLength
    rcases Url.parse_extend hParse hNamed hHost (by simp) (by simp)
        hShort with
      ⟨v, hParseV, hSchemeV, hHostV, _⟩
    rw [String.append_empty] at hParseV
    have hShorter :
        Url.Written (Text.trimEndList (· == '/') text.toList ++ []) word
          place (Text.trimEndList (· == '/') rest ++ []) :=
      hWritten.extend hThere (by simp)
    rw [List.append_nil, List.append_nil,
      ← Text.toList_withoutTrailingSlashes] at hShorter
    rcases (hShorter.not_marked_of_parse hParseV).mpr
        (fun c hc => hNone c (hPrefix.subset hc)) with
      ⟨hQuery, hFragment⟩
    apply (check_eq_ok_iff _).mpr
    refine ⟨v, hParseV, ?_, ?_, ?_, ?_⟩
    · rw [hSchemeV]
      exact hScheme
    · rw [hHostV]
      exact hReached
    · rw [hHostV]
      exact hHost
    · simp [hQuery, hFragment, isCarried]
  · rcases getLast?_of_marked hCheck hNone with ⟨c, hLast, hMark⟩
    have hOther : c ≠ '/' := by
      rintro rfl
      exact absurd hMark (by decide)
    rw [Text.withoutTrailingSlashes_eq_self hLast hOther]
    exact hCheck

variable {raw : Option String} {key : String}

/- A normal form has a first character, which is not blank. -/
theorem head?_of_normalize
    (hKey : normalize raw = .ok key) :
    key.toList ≠ [] ∧
      ∀ c, key.toList.head? = some c → Text.isBlank c = false := by
  rcases (normalize_eq_ok_iff raw key).mp hKey with
    ⟨s, _, _, hCheck, rfl⟩
  rcases written_of_check (check_withoutTrailingSlashes hCheck) with
    ⟨_, word, place, rest, _, _, _, hWritten, _⟩
  constructor
  · rw [hWritten.text]
    simp
  · intro c hc
    apply Text.not_of_head?_trimList Text.isBlank s.toList c
    have hHead :=
      Text.head?_trimEndList (· == '/') (Text.strip s).toList c
        (by rwa [← Text.toList_withoutTrailingSlashes])
    simpa [Text.strip] using hHead

/-
  The normal form of an authority is left as it is if and only
  if it does not end with a blank.
-/
theorem normalize_key_iff
    (hKey : normalize raw = .ok key) :
    normalize (some key) = .ok key ↔
      ∀ c, key.toList.getLast? = some c → Text.isBlank c = false := by
  rcases head?_of_normalize hKey with ⟨hThere, hHead⟩
  rw [← Text.strip_eq_self_iff hHead, normalize_eq_ok_iff]
  constructor
  · rintro ⟨s, hRaw, _, _, hSame⟩
    cases hRaw
    exact Text.strip_of_withoutTrailingSlashes hSame.symm
  · intro hStrip
    rcases (normalize_eq_ok_iff raw key).mp hKey with
      ⟨s, _, _, hCheck, hForm⟩
    refine ⟨key, rfl, ?_, ?_, ?_⟩
    · rw [hStrip]
      rintro rfl
      exact hThere rfl
    · rw [hStrip, hForm]
      exact check_withoutTrailingSlashes hCheck
    · rw [hStrip, hForm, Text.withoutTrailingSlashes_idem]

end Authority

------------------------------------------------------------
-- Keys
------------------------------------------------------------

/- The documents of an authority and of its normal form last alike. -/
theorem DiscoveryCache.durationOf_normal
    {raw : Option String}
    {key : String}
    (hKey : Authority.normalize raw = .ok key)
    (hNormal : Authority.normalize (some key) = .ok key)
    (c : DiscoveryCache) :
    c.durationOf (some key) = c.durationOf raw := by
  unfold durationOf
  rw [hKey, hNormal]

namespace Exchange

/-
  An authority has one key: its normal form is left as it is,
  and in every run each document that is fetched under it ends
  after the duration that is looked up for the authority then.
-/
structure HasOneKey (raw key : String) : Prop where
  normal : Authority.normalize (some key) = .ok key
  dated :
    ∀ x : Exchange, ∀ events n document,
      x.Ended events ⟨n, key⟩ (.ok document) →
        x.Happened events fun y e =>
          ∃ reply duration,
            e = .answer n reply ∧
              y.cache.durationOf (some raw) = .ok duration ∧
              document.fetchedAt = y.now ∧
              y.now.add duration = .ok document.expiresAt

variable {raw key : String}

/- Where the normal form is left as it is there is one key. -/
theorem hasOneKey_of_normal
    (hKey : Authority.normalize (some raw) = .ok key)
    (hNormal : Authority.normalize (some key) = .ok key) :
    HasOneKey raw key := by
  refine ⟨hNormal, ?_⟩
  rintro x events n document
    ⟨before, e, after, hEvents, reply, rfl, _, hResult⟩
  rcases (resultOf_eq_ok_iff _ _ _ _).mp hResult.symm with
    ⟨m, _, hDocument⟩
  rcases (DiscoveryCache.document_eq_ok_iff _ _ _ _ _).mp hDocument with
    ⟨_, _, hFetched, duration, hDuration, hExpires⟩
  rw [DiscoveryCache.durationOf_normal hKey hNormal] at hDuration
  exact ⟨before, _, after, hEvents, reply, duration, rfl, hDuration,
    hFetched, hExpires⟩

/-
  An authority has one key if and only if its normal form does
  not end with a blank.
-/
theorem hasOneKey_iff
    (hKey : Authority.normalize (some raw) = .ok key) :
    HasOneKey raw key ↔
      ∀ c, key.toList.getLast? = some c → Text.isBlank c = false := by
  rw [← Authority.normalize_key_iff hKey]
  constructor
  · intro hOne
    exact hOne.normal
  · exact hasOneKey_of_normal hKey

/- A blank before the slash at the end is left in the normal form. -/
theorem not_hasOneKey_of_blank :
    Authority.normalize (some "http://a/b /") = .ok "http://a/b " ∧
      Authority.normalize (some "http://a/b ") = .ok "http://a/b" ∧
      ¬ HasOneKey "http://a/b /" "http://a/b " := by
  have hKey :
      Authority.normalize (some "http://a/b /") = .ok "http://a/b " := by
    decide +kernel
  refine ⟨hKey, by decide +kernel, ?_⟩
  rw [hasOneKey_iff hKey]
  intro hPlain
  exact absurd (hPlain ' ' (by decide +kernel)) (by decide)

end Exchange

end KeyAssertion
