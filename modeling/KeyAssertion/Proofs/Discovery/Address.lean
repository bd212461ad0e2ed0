import KeyAssertion.Discovery.Fetch
import KeyAssertion.Proofs.Url.Extension

/-
  Where the document of an authority is requested: an authority
  in normal form always has an absolute URL for it, and only
  the length of this URL can be in the way of a request.

  Key theorems include:
    * `Authority.check_eq_ok_iff`
    * `Authority.normalize_eq_ok_iff`
    * `Discovery.request_of_normalize`
-/

namespace KeyAssertion

namespace Authority

/-
  An authority is a URL of a server that can be reached by
  name, without a query and a fragment.
-/
theorem check_eq_ok_iff
    (text : String) :
    check text = .ok () ↔
      ∃ u,
        Url.parse text = .ok u ∧
          schemes.contains u.scheme = true ∧
          Host.check u.host = .ok () ∧
          u.host ≠ "" ∧
          (isCarried u.query || isCarried u.fragment) = false := by
  unfold check
  rw [Attempt.bind_eq_ok_iff]
  simp only [Attempt.mapError_eq_ok_iff]
  refine exists_congr fun u => and_congr_right fun _ => ?_
  by_cases hScheme : u.scheme ∈ schemes
  · by_cases hHost : u.host = ""
    · simp [hScheme, hHost, Attempt.bind_eq_ok_iff]
    · by_cases hMore :
          (isCarried u.query || isCarried u.fragment) = true
      · simp [hScheme, hHost, hMore, Attempt.bind_eq_ok_iff]
      · simp [hScheme, hHost, hMore, Attempt.mapError_eq_ok_iff]
  · simp [hScheme, Attempt.bind_eq_ok_iff]

/-
  The normal form of an authority is its text without blanks at
  its ends and then without slashes at its end.
-/
theorem normalize_eq_ok_iff
    (raw : Option String)
    (key : String) :
    normalize raw = .ok key ↔
      ∃ s,
        raw = some s ∧ Text.strip s ≠ "" ∧
          check (Text.strip s) = .ok () ∧
          key = Text.withoutTrailingSlashes (Text.strip s) := by
  cases raw with
  | none => simp [normalize, throw, throwThe, MonadExceptOf.throw]
  | some s =>
      by_cases hEmpty : Text.strip s = ""
      · simp [normalize, hEmpty, Attempt.bind_eq_ok_iff]
      · simp only [normalize, if_neg hEmpty, Attempt.bind_eq_ok_iff]
        constructor
        · rintro ⟨_, hCheck, hKey⟩
          exact ⟨s, rfl, hEmpty, hCheck, (Except.ok.inj hKey).symm⟩
        · rintro ⟨_, hRaw, _, hCheck, hKey⟩
          rw [hKey]
          cases hRaw
          exact ⟨(), hCheck, rfl⟩

/- The path below an authority begins with a slash. -/
theorem wellKnownPath_opening :
    ∀ c, wellKnownPath.toList.head? = some c → c = '/' := by
  have hHead : wellKnownPath.toList.head? = some '/' := by
    decide +kernel
  intro c hc
  rw [hHead] at hc
  exact (Option.some.inj hc).symm

/- The path below an authority may stand in a URL as it is. -/
theorem wellKnownPath_printable :
    ∀ c ∈ wellKnownPath.toList,
      Percent.isPrintableAscii c = true := by
  have hAll :
      wellKnownPath.toList.all Percent.isPrintableAscii = true := by
    decide
  exact List.all_eq_true.mp hAll

end Authority

namespace Discovery

/-
  The document of an authority in normal form is requested at
  an absolute URL, unless the text of this URL is too long.
-/
theorem request_of_normalize
    {raw : Option String}
    {key : String}
    (hKey : Authority.normalize raw = .ok key) :
    ((key ++ Authority.wellKnownPath).toList.length ≤ Url.longest ∧
      ∃ u, request key = .ok u ∧ u.isAbsolute = true) ∨
    (Url.longest < (key ++ Authority.wellKnownPath).toList.length ∧
      request key = .error (.url .tooLong)) := by
  rcases (Authority.normalize_eq_ok_iff raw key).mp hKey with
    ⟨s, _, _, hCheck, rfl⟩
  rcases (Authority.check_eq_ok_iff _).mp hCheck with
    ⟨u, hParse, hScheme, hReached, hHost, _⟩
  have hNamed : u.scheme ≠ "" := by
    intro hNone
    rw [hNone] at hScheme
    exact absurd hScheme (by decide)
  by_cases hShort :
      (Text.withoutTrailingSlashes (Text.strip s)
        ++ Authority.wellKnownPath).toList.length ≤ Url.longest
  · rcases Url.parse_extend hParse hNamed hHost
        Authority.wellKnownPath_opening
        Authority.wellKnownPath_printable hShort with
      ⟨v, hLonger, hSchemeSame, hHostSame, _⟩
    have hAbsolute : v.isAbsolute = true := by
      simp [Url.isAbsolute, hSchemeSame, hHostSame, hNamed, hHost]
    have hSame : Host.check v.host = .ok () := by
      rw [hHostSame]
      exact hReached
    refine Or.inl ⟨hShort, v, ?_, hAbsolute⟩
    simp [request, hLonger, Except.mapError, bind, Except.bind,
      hAbsolute, hSame]
    rfl
  · have hTooLong := Nat.not_le.mp hShort
    have hLong := Url.parse_of_too_long hTooLong
    refine Or.inr ⟨hTooLong, ?_⟩
    simp [request, hLong, Except.mapError, bind, Except.bind]

end Discovery

end KeyAssertion
