import KeyAssertion.Proofs.Discovery.Address
import KeyAssertion.Proofs.Url.Path

/-
  Where the document of an authority is requested: at its own
  server and below its own path, unless a mark of a query or of
  a fragment in its text takes the rest of the URL, or this
  gets too long.

  Key definitions include:
    * `Discovery.IsDocumentOf`
    * `Discovery.ReachesDocument`

  Key theorems include:
    * `Authority.written_of_check`
    * `Discovery.reachesDocument_of_not_marked`
    * `Discovery.reachesDocument_iff`
-/

namespace KeyAssertion

------------------------------------------------------------
-- Authorities
------------------------------------------------------------

namespace Authority

/-
  The URL of an authority that is accepted, and how its text is
  written.
-/
theorem written_of_check
    {text : String}
    (hCheck : check text = .ok ()) :
    ∃ u word place rest,
      Url.parse text = .ok u ∧ u.scheme ≠ "" ∧ u.host ≠ "" ∧
        Url.Written text.toList word place rest ∧ place ≠ [] := by
  rcases (check_eq_ok_iff text).mp hCheck with
    ⟨u, hParse, hScheme, _, hHost, _⟩
  have hNamed : u.scheme ≠ "" := by
    intro hNone
    rw [hNone] at hScheme
    exact absurd hScheme (by decide)
  rcases Url.written_of_parse hParse hNamed hHost with
    ⟨place, rest, hWritten, hThere⟩
  exact ⟨u, _, place, rest, hParse, hNamed, hHost, hWritten, hThere⟩

/- What the path below an authority begins with. -/
theorem exists_wellKnownPath :
    ∃ more, wellKnownPath.toList = '/' :: more ∧
      (∀ s ∈ Text.pieces (fun c => c == '/') more,
        s ≠ ['.'] ∧ s ≠ ['.', '.']) ∧
      Percent.encodeList Url.isPathSafe ('/' :: more) =
        '/' :: more := by
  refine ⟨".well-known/openid-configuration".toList, ?_, ?_, ?_⟩
  · decide +kernel
  · decide +kernel
  · decide +kernel

/- It has no mark of a query or a fragment. -/
theorem wellKnownPath_clear :
    ∀ c ∈ wellKnownPath.toList, c ∉ Url.marks := by
  have hAll :
      (wellKnownPath.toList.all fun c => !Url.marks.contains c) = true := by
    decide +kernel
  simpa using hAll

end Authority

namespace Discovery

------------------------------------------------------------
-- Destinations
------------------------------------------------------------

/- A URL names the document of the server that another URL names. -/
structure IsDocumentOf (u v : Url) : Prop where
  scheme : v.scheme = u.scheme
  host : v.host = u.host
  port : v.port = u.port
  query : v.query = none
  fragment : v.fragment = none
  path : Authority.wellKnownPath.toList <:+ v.path.toList

/-
  The document of an authority is requested where the authority
  says; with the text of the authority and its normal form.
-/
def ReachesDocument (raw key : String) : Prop :=
  ∃ u v,
    Url.parse (Text.strip raw) = .ok u ∧
      Url.parse (key ++ Authority.wellKnownPath) = .ok v ∧
      request key = .ok v ∧
      IsDocumentOf u v

variable {raw key : String}

/- A request that reaches the document has a text without marks. -/
theorem not_marked_of_reachesDocument
    (hKey : Authority.normalize (some raw) = .ok key)
    (hReached : ReachesDocument raw key) :
    ∀ c ∈ key.toList, c ∉ Url.marks := by
  rcases hReached with ⟨u, v, hParse, hLonger, _, hDocument⟩
  rcases (Authority.normalize_eq_ok_iff _ _).mp hKey with
    ⟨_, hRaw, _, hCheck, rfl⟩
  cases hRaw
  rcases Authority.written_of_check hCheck with
    ⟨_, word, place, rest, _, _, _, hWritten, hThere⟩
  have hExtended :=
    hWritten.extend hThere Authority.wellKnownPath_opening
  rw [← Url.toList_withoutTrailingSlashes_append] at hExtended
  have hNone :=
    (hExtended.not_marked_of_parse hLonger).mp
      ⟨hDocument.query, hDocument.fragment⟩
  intro c hc
  apply hNone
  rw [String.toList_append]
  exact List.mem_append_left _ hc

/- A text without marks that is short enough leads to the document. -/
theorem reachesDocument_of_not_marked
    (hKey : Authority.normalize (some raw) = .ok key)
    (hNone : ∀ c ∈ key.toList, c ∉ Url.marks)
    (hShort :
      (key ++ Authority.wellKnownPath).toList.length ≤ Url.longest) :
    ReachesDocument raw key := by
  have hRequested : ∃ v, request key = .ok v ∧ v.isAbsolute = true := by
    rcases request_of_normalize hKey with ⟨_, hSent⟩ | ⟨hLong, _⟩
    · exact hSent
    · exact absurd hShort (Nat.not_le.mpr hLong)
  rcases hRequested with ⟨v, hRequest, hAbsolute⟩
  have hLonger := parse_of_request hRequest hAbsolute
  rcases (Authority.normalize_eq_ok_iff _ _).mp hKey with
    ⟨_, hRaw, _, hCheck, rfl⟩
  cases hRaw
  rcases Authority.written_of_check hCheck with
    ⟨u, word, place, rest, hParse, hScheme, hHost, hWritten, hThere⟩
  -- The server is that of the shorter text.
  rcases Url.parse_extend hParse hScheme hHost
      Authority.wellKnownPath_opening
      Authority.wellKnownPath_printable hShort with
    ⟨v', hParse', hSchemeSame, hHostSame, hPortSame⟩
  obtain rfl : v' = v :=
    Except.ok.inj (hParse'.symm.trans hLonger)
  -- No mark is put behind, so that the rest is path.
  have hExtended :=
    hWritten.extend hThere Authority.wellKnownPath_opening
  rw [← Url.toList_withoutTrailingSlashes_append] at hExtended
  have hClear :
      ∀ c ∈ (Text.withoutTrailingSlashes (Text.strip raw)
          ++ Authority.wellKnownPath).toList, c ∉ Url.marks := by
    rw [String.toList_append, List.forall_mem_append]
    exact ⟨hNone, Authority.wellKnownPath_clear⟩
  rcases (hExtended.not_marked_of_parse hLonger).mpr hClear with
    ⟨hQuery, hFragment⟩
  rcases Authority.exists_wellKnownPath with
    ⟨more, hPath, hSegments, hSafe⟩
  have hSuffix : Authority.wellKnownPath.toList <:+ v'.path.toList := by
    rw [hPath] at hExtended ⊢
    exact Url.suffix_path_of_parse hExtended hLonger hClear hSegments
      hSafe
  exact
    ⟨u, v', hParse, hLonger, hRequest, hSchemeSame, hHostSame,
      hPortSame, hQuery, hFragment, hSuffix⟩

/-
  The document of an authority is requested where the authority
  says if and only if no mark of a query or of a fragment is in
  its text and the URL is not too long.
-/
theorem reachesDocument_iff
    (hKey : Authority.normalize (some raw) = .ok key) :
    ReachesDocument raw key ↔
      (∀ c ∈ key.toList, c ∉ Url.marks) ∧
        (key ++ Authority.wellKnownPath).toList.length ≤
          Url.longest := by
  constructor
  · intro hReached
    refine ⟨not_marked_of_reachesDocument hKey hReached, ?_⟩
    rcases hReached with ⟨u, v, _, hLonger, _⟩
    exact ((Url.parse_eq_ok_iff _ v).mp hLonger).1
  · rintro ⟨hNone, hShort⟩
    exact reachesDocument_of_not_marked hKey hNone hShort

/- An empty query is a mark that the path ends up behind. -/
theorem not_reachesDocument_of_emptyQuery :
    Authority.normalize (some "http://a?") = .ok "http://a?" ∧
      ¬ ReachesDocument "http://a?" "http://a?" := by
  have hKey :
      Authority.normalize (some "http://a?") = .ok "http://a?" := by
    decide +kernel
  refine ⟨hKey, ?_⟩
  rw [reachesDocument_iff hKey]
  intro hClear
  have hMark : '?' ∈ "http://a?".toList := by
    decide
  exact hClear.1 '?' hMark (by decide)

end Discovery

end KeyAssertion
