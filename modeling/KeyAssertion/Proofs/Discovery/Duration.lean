import KeyAssertion.Proofs.Clock.Moment
import KeyAssertion.Proofs.Discovery.Entries
import KeyAssertion.Proofs.Discovery.Normal

/-
  How long documents are kept, and by whom this is said: by a
  call, by the map of the settings or by their default.  Calls
  and the default are never below zero; the map may be.  An
  authority is named in the map by its text, in a call by its
  normal form.

  Key definitions include:
    * `DiscoverySettings.entryFor?`
    * `Exchange.KeepsForward`
    * `DiscoveryCache.IsSetAlike`

  Key theorems include:
    * `DiscoveryCache.durationOf_eq_ok_iff`
    * `DiscoverySettings.cacheDurationSeconds_nonneg_of_load`
    * `Exchange.run_durations_nonneg`
    * `Exchange.keepsForward_iff`
    * `DiscoveryCache.isSetAlike_iff`
-/

namespace KeyAssertion

------------------------------------------------------------
-- Settings
------------------------------------------------------------

namespace Settings

/- A number that may not be negative is not. -/
theorem nonneg_of_natural
    {v : Json}
    {n : Int}
    (h : natural v = .ok n) :
    0 ≤ n := by
  rcases (Attempt.bind_eq_ok_iff _ _ _).mp h with ⟨m, _, hChecked⟩
  by_cases hLow : m < 0
  · rw [if_pos hLow] at hChecked
    cases hChecked
  · rw [if_neg hLow] at hChecked
    cases hChecked
    exact Int.not_lt.mp hLow

/- A field that is read has a value that was read or its default. -/
theorem field_eq_ok_iff
    {α : Type}
    (name : String)
    (value? : Option Json)
    (default : α)
    (read : Json → Except FieldProblem α)
    (a : α) :
    field name value? default read = .ok a ↔
      value? = none ∧ a = default ∨
        ∃ v, value? = some v ∧ read v = .ok a := by
  cases value? with
  | none => simp [field, eq_comm]
  | some v => simp [field, Attempt.mapError_eq_ok_iff]

/- A record without faults is the record of its fields. -/
theorem collect_eq_ok_iff
    {α : Type}
    (record : Except FieldFault α)
    (faults : List FieldFault)
    (r : α) :
    collect record faults = .ok r ↔
      record = .ok r ∧ faults = [] := by
  cases record with
  | error e => simp [collect]
  | ok r' =>
      cases faults with
      | nil => simp [collect]
      | cons f rest => simp [collect]

end Settings

namespace DiscoverySettings

/- The first entry of the map for an authority, slashes at the end aside. -/
def entryFor?
    (s : DiscoverySettings)
    (authority : String) : Option (String × Int) :=
  s.cacheDurations.find? fun d =>
    Text.withoutTrailingSlashes d.1 ==
      Text.withoutTrailingSlashes authority

/- Without such an entry the default counts. -/
theorem durationFor_eq
    (s : DiscoverySettings)
    (authority : String) :
    s.durationFor authority =
      ((s.entryFor? authority).map Prod.snd).getD
        s.cacheDurationSeconds := by
  unfold durationFor entryFor?
  simp only []
  cases s.cacheDurations.find? _ with
  | none => rfl
  | some entry => rfl

/- The default of settings that are accepted is not negative. -/
theorem cacheDurationSeconds_nonneg_of_load
    {env : Settings.Environment}
    {init : JsonObject}
    {s : DiscoverySettings}
    (h : load env init = .ok s) :
    0 ≤ s.cacheDurationSeconds := by
  rcases (Attempt.bind_eq_ok_iff _ _ _).mp h with ⟨fromEnv, _, hCollect⟩
  have hRecord := ((Settings.collect_eq_ok_iff _ _ _).mp hCollect).1
  rcases (Attempt.bind_eq_ok_iff _ _ _).mp hRecord with
    ⟨seconds, hField, hRest⟩
  rcases (Attempt.bind_eq_ok_iff _ _ _).mp hRest with
    ⟨map, _, hTimeout⟩
  rcases (Attempt.bind_eq_ok_iff _ _ _).mp hTimeout with
    ⟨timeout, _, hPure⟩
  cases hPure
  rcases (Settings.field_eq_ok_iff _ _ _ _ _).mp hField with
    ⟨_, hDefault⟩ | ⟨v, _, hRead⟩
  · rw [hDefault]
    exact Int.natCast_nonneg 86400
  · exact Settings.nonneg_of_natural hRead

end DiscoverySettings

------------------------------------------------------------
-- Durations of Authorities
------------------------------------------------------------

/- For an authority, what is known of its normal form counts. -/
theorem DiscoveryCache.durationOf_of_normalize
    (c : DiscoveryCache)
    {raw : Option String}
    {key : String}
    (hKey : Authority.normalize raw = .ok key) :
    c.durationOf raw =
      match c.durations.lookup key with
      | some d => .ok d
      | none =>
          (Duration.ofSeconds (c.settings.durationFor key)).mapError
            .date := by
  unfold durationOf
  rw [hKey]
  rfl

/-
  The duration of an authority is the one that was set for its
  normal form, else that of the settings.
-/
theorem DiscoveryCache.durationOf_eq_ok_iff
    (c : DiscoveryCache)
    (raw : Option String)
    (d : Duration) :
    c.durationOf raw = .ok d ↔
      ∃ key,
        Authority.normalize raw = .ok key ∧
          (c.durations.lookup key = some d ∨
            c.durations.lookup key = none ∧
              Duration.ofSeconds (c.settings.durationFor key) =
                .ok d) := by
  constructor
  · intro hDuration
    rcases (Attempt.bind_eq_ok_iff _ _ _).mp hDuration with
      ⟨key, hNormal, _⟩
    have hKey := (Attempt.mapError_eq_ok_iff _ _ _).mp hNormal
    refine ⟨key, hKey, ?_⟩
    rw [durationOf_of_normalize c hKey] at hDuration
    cases hLookup : c.durations.lookup key with
    | none =>
        rw [hLookup] at hDuration
        exact Or.inr ⟨rfl, (Attempt.mapError_eq_ok_iff _ _ _).mp hDuration⟩
    | some d' =>
        rw [hLookup] at hDuration
        cases hDuration
        exact Or.inl rfl
  · rintro ⟨key, hKey, hSet | ⟨hLookup, hSeconds⟩⟩
    · rw [durationOf_of_normalize c hKey, hSet]
    · rw [durationOf_of_normalize c hKey, hLookup, hSeconds]
      rfl

namespace Exchange

/-
  Documents are kept for no time below zero: no authority has a
  duration below zero, and no entry ends before it was fetched.
-/
structure KeepsForward (x : Exchange) : Prop where
  durations :
    ∀ raw d, x.cache.durationOf raw = .ok d → 0 ≤ d.micros
  entries :
    ∀ key entry,
      (key, entry) ∈ x.cache.entries →
        entry.document.fetchedAt ≤ entry.document.expiresAt

/- No event changes the settings. -/
theorem Move.settings_eq
    {x y : Exchange}
    {e : Event}
    (hMove : Move x e y) :
    y.cache.settings = x.cache.settings := by
  cases hMove with
  | answered _ _ => exact settings_conclude _ _ _
  | finished _ _ => exact settings_complete _ _ _
  | _ => rfl

/- Durations change by a call that sets one, which is not negative. -/
theorem Move.durations_cases
    {x y : Exchange}
    {e : Event}
    (hMove : Move x e y) :
    y.cache.durations = x.cache.durations ∨
      ∃ key d,
        0 ≤ d.micros ∧
          y.cache.durations =
            KeyedList.put key d x.cache.durations := by
  cases hMove with
  | answered _ _ =>
      exact Or.inl (durations_conclude _ _ _)
  | finished _ _ =>
      exact Or.inl (durations_complete _ _ _)
  | configured hLength _ => exact Or.inr ⟨_, _, hLength, rfl⟩
  | _ => exact Or.inl rfl

section Start

variable {settings : DiscoverySettings} {now : Moment}
variable {events : List Event}

/- The settings of a run are those of its start. -/
theorem run_settings :
    ((start settings now).run events).cache.settings = settings :=
  run_induction
    (P := fun _ y => y.cache.settings = settings)
    rfl
    (fun _ _ _ hBefore hMove => hMove.settings_eq.trans hBefore)
    events

/- No duration that was set in a run is negative. -/
theorem run_durations_nonneg
    {key : String}
    {d : Duration}
    (hSet :
      (key, d) ∈ ((start settings now).run events).cache.durations) :
    0 ≤ d.micros := by
  revert hSet
  refine run_induction
    (P := fun _ y => (key, d) ∈ y.cache.durations → 0 ≤ d.micros)
    ?_ ?_ events
  · intro hSet
    cases hSet
  · intro es e y ih hMove hSet
    rcases hMove.durations_cases with
      hSame | ⟨key', d', hLength, hPut⟩
    · rw [hSame] at hSet
      exact ih hSet
    · rw [hPut] at hSet
      rcases (KeyedList.mem_put_iff _ _ _ _).mp hSet with
        hNew | ⟨hOld, _⟩
      · cases hNew
        exact hLength
      · exact ih hOld

/-
  Where no duration is negative at any moment, no document ends
  before it was fetched.
-/
theorem fetched_le_expires
    (hDurations :
      ∀ first raw d,
        ((start settings now).run first).cache.durationOf raw =
            .ok d →
          0 ≤ d.micros)
    {key : String}
    {entry : CachedDocument}
    (hEntry :
      (key, entry) ∈
        ((start settings now).run events).cache.entries) :
    entry.document.fetchedAt ≤ entry.document.expiresAt := by
  rcases entry_obtained hEntry with
    ⟨before, e, after, _, _, _, _, duration, hObtained⟩
  have hLength := hDurations before (some key) duration hObtained.kept
  have hEnd := (Moment.ofMicros_eq_ok_iff _ _).mp hObtained.expiresAt
  rw [hObtained.fetchedAt]
  change _ ≤ entry.document.expiresAt.micros
  rw [hEnd]
  exact Int.le_add_of_nonneg_right hLength

end Start

/-
  With settings that are accepted, documents are kept for no
  time below zero in any run if and only if the map of the
  settings gives no authority a duration below zero.
-/
theorem keepsForward_iff
    {env : Settings.Environment}
    {init : JsonObject}
    {settings : DiscoverySettings}
    (hLoad : DiscoverySettings.load env init = .ok settings) :
    (∀ now events, ((start settings now).run events).KeepsForward) ↔
      ∀ raw key entry d,
        Authority.normalize raw = .ok key →
          settings.entryFor? key = some entry →
            Duration.ofSeconds entry.2 = .ok d →
              0 ≤ entry.2 := by
  constructor
  · intro hKeeps raw key entry d hKey hEntry hSeconds
    have hDuration :
        (start settings .epoch).cache.durationOf raw = .ok d := by
      apply (DiscoveryCache.durationOf_eq_ok_iff _ _ _).mpr
      refine ⟨key, hKey, Or.inr ⟨rfl, ?_⟩⟩
      change Duration.ofSeconds (settings.durationFor key) = .ok d
      rw [DiscoverySettings.durationFor_eq, hEntry]
      exact hSeconds
    have hLength := (hKeeps .epoch []).durations raw d hDuration
    rw [Duration.micros_of_ofMicros hSeconds] at hLength
    omega
  · intro hMap
    have hDurations :
        ∀ now events raw d,
          ((start settings now).run events).cache.durationOf raw =
              .ok d →
            0 ≤ d.micros := by
      intro now events raw d hDuration
      rcases (DiscoveryCache.durationOf_eq_ok_iff _ _ _).mp hDuration with
        ⟨key, hKey, hSet | ⟨_, hSeconds⟩⟩
      · exact run_durations_nonneg (KeyedList.mem_of_lookup hSet)
      · rw [run_settings, DiscoverySettings.durationFor_eq] at hSeconds
        rw [Duration.micros_of_ofMicros hSeconds]
        cases hEntry : settings.entryFor? key with
        | none =>
            have hDefault :=
              DiscoverySettings.cacheDurationSeconds_nonneg_of_load hLoad
            simp only [Option.map_none, Option.getD_none]
            omega
        | some entry =>
            rw [hEntry] at hSeconds
            have hNonneg := hMap raw key entry d hKey hEntry hSeconds
            simp only [Option.map_some, Option.getD_some]
            omega
    intro now events
    exact ⟨hDurations now events,
      fun _ _ => fetched_le_expires (hDurations now)⟩

/- A map with a duration below zero is accepted and counts. -/
theorem not_keepsForward_of_negative :
    ∃ settings,
      DiscoverySettings.load []
          [(.text "cache_durations",
            .object [(.text "http://a", .integer (-1))])] =
        .ok settings ∧
      ¬ ∀ now events,
        ((start settings now).run events).KeepsForward := by
  let settings : DiscoverySettings :=
    { cacheDurations := [("http://a", -1)] }
  have hLoad :
      DiscoverySettings.load []
          [(.text "cache_durations",
            .object [(.text "http://a", .integer (-1))])] =
        .ok settings := by
    decide +kernel
  refine ⟨settings, hLoad, ?_⟩
  rw [keepsForward_iff hLoad]
  intro hMap
  have hNonneg :=
    hMap (some "http://a") "http://a" ("http://a", -1) ⟨-1000000⟩
      (by decide +kernel) (by decide +kernel) (by decide)
  exact absurd hNonneg (by decide)

end Exchange

------------------------------------------------------------
-- Settings and Calls
------------------------------------------------------------

namespace Text

/-
  Where something that begins with no blank is left of a text
  without blanks at its ends and slashes at its end, the same
  is left without the slashes alone if and only if there are no
  blanks at the ends.
-/
theorem withoutTrailingSlashes_eq_iff
    {s key : String}
    (hKey : withoutTrailingSlashes (strip s) = key)
    (hThere : key.toList ≠ [])
    (hHead : ∀ c, key.toList.head? = some c → isBlank c = false) :
    withoutTrailingSlashes s = key ↔ strip s = s := by
  constructor
  · intro hSame
    have hFront : key.toList <+: s.toList := by
      rw [← hSame]
      exact withoutTrailingSlashes_prefix s
    have hFirst :
        ∀ c, s.toList.head? = some c → isBlank c = false := by
      rcases hFront with ⟨back, hBack⟩
      intro c hc
      apply hHead c
      rwa [← hBack, List.head?_append,
        Option.or_of_isSome (by simpa using hThere)] at hc
    apply (strip_eq_self_iff hFirst).mpr
    intro c hLast
    by_contra hBlank
    have hOther : c ≠ '/' := by
      rintro rfl
      exact hBlank (by decide)
    -- A blank at the end keeps the slashes before it in place.
    have hWhole := withoutTrailingSlashes_eq_self hLast hOther
    have hStrip : strip s = s := by
      apply strip_of_withoutTrailingSlashes
      rw [hKey, ← hSame, hWhole]
    exact hBlank ((strip_eq_self_iff hFirst).mp hStrip c hLast)
  · intro hStrip
    rw [← hStrip, hKey]

end Text

/- Without slashes at its end the normal form is as it is. -/
theorem Authority.withoutTrailingSlashes_normal
    {raw : Option String}
    {key : String}
    (hKey : normalize raw = .ok key) :
    Text.withoutTrailingSlashes key = key := by
  rcases (normalize_eq_ok_iff _ _).mp hKey with ⟨s, _, _, _, rfl⟩
  exact Text.withoutTrailingSlashes_idem _

namespace DiscoveryCache

/- A cache with a map of settings in which nothing happened yet. -/
def ofMap
    (base : DiscoverySettings)
    (map : List (String × Int)) : DiscoveryCache :=
  { settings := { base with cacheDurations := map } }

/-
  The spelling of an authority counts in the map of the
  settings as in a call: with the same seconds for it, whatever
  the default, every authority has the same duration.
-/
def IsSetAlike (spelling : String) : Prop :=
  ∀ base seconds d,
    0 ≤ base.cacheDurationSeconds →
      0 ≤ seconds →
        Duration.ofSeconds seconds = .ok d →
          ∃ configured,
            (ofMap base []).configure (some spelling) d =
                .ok configured ∧
              ∀ authority,
                (ofMap base [(spelling, seconds)]).durationOf authority =
                  configured.durationOf authority

section Alike

variable {spelling key : String}

/- An entry of the map counts where its text is the normal form. -/
theorem durationOf_ofMap
    (base : DiscoverySettings)
    (seconds : Int)
    {authority : Option String}
    (hKey : Authority.normalize authority = .ok key) :
    (ofMap base [(spelling, seconds)]).durationOf authority =
      (Duration.ofSeconds
        (if Text.withoutTrailingSlashes spelling = key then seconds
          else base.cacheDurationSeconds)).mapError .date := by
  have hLookup :
      (ofMap base [(spelling, seconds)]).settings.durationFor key =
        if Text.withoutTrailingSlashes spelling = key then seconds
          else base.cacheDurationSeconds := by
    rw [DiscoverySettings.durationFor_eq]
    simp only [DiscoverySettings.entryFor?, ofMap, List.find?_cons,
      Authority.withoutTrailingSlashes_normal hKey]
    by_cases hSame : Text.withoutTrailingSlashes spelling = key
    · simp [hSame]
    · simp [hSame, beq_eq_false_iff_ne.mpr hSame]
  rw [durationOf_of_normalize _ hKey, ← hLookup]
  rfl

/- A duration that is set by a call counts for the normal form. -/
theorem exists_configured
    (base : DiscoverySettings)
    {d : Duration}
    (hKey : Authority.normalize (some spelling) = .ok key)
    (hLength : 0 ≤ d.micros) :
    ∃ configured,
      (ofMap base []).configure (some spelling) d = .ok configured ∧
        ∀ {authority other},
          Authority.normalize authority = .ok other →
            configured.durationOf authority =
              if key = other then .ok d
              else
                (Duration.ofSeconds base.cacheDurationSeconds).mapError
                  .date := by
  refine ⟨{ ofMap base [] with durations := KeyedList.put key d [] },
    ?_, ?_⟩
  · unfold configure
    rw [if_neg (Int.not_lt.mpr hLength), hKey]
    rfl
  · intro authority other hOther
    rw [durationOf_of_normalize _ hOther]
    by_cases hOwn : key = other
    · rw [if_pos hOwn, ← hOwn, KeyedList.lookup_put_self]
    · rw [if_neg hOwn,
        KeyedList.lookup_put_of_ne key other _ _ (Ne.symm hOwn)]
      rfl

/-
  A spelling counts alike if and only if it has no blanks at its
  ends: a call takes them off, the map does not.
-/
theorem isSetAlike_iff
    (hKey : Authority.normalize (some spelling) = .ok key) :
    IsSetAlike spelling ↔ Text.strip spelling = spelling := by
  have hStripped :
      Text.withoutTrailingSlashes (Text.strip spelling) = key := by
    rcases (Authority.normalize_eq_ok_iff _ _).mp hKey with
      ⟨s, hRaw, _, _, hForm⟩
    cases hRaw
    exact hForm.symm
  rcases Authority.head?_of_normalize hKey with ⟨hThere, hHead⟩
  rw [← Text.withoutTrailingSlashes_eq_iff hStripped hThere hHead]
  constructor
  · intro hAlike
    rcases exists_configured {} hKey (d := ⟨0⟩) (by decide) with
      ⟨configured, hConfigured, hCalled⟩
    rcases hAlike {} 0 ⟨0⟩ (by decide) (by decide) (by decide) with
      ⟨configured', hConfigured', hSame⟩
    obtain rfl : configured' = configured :=
      Except.ok.inj (hConfigured'.symm.trans hConfigured)
    have hOwn := hSame (some spelling)
    rw [durationOf_ofMap _ _ hKey, hCalled hKey, if_pos rfl] at hOwn
    by_contra hOther
    rw [if_neg hOther] at hOwn
    exact absurd hOwn (by decide)
  · intro hSpelled base seconds d _ hSeconds hLength
    have hMicros := Duration.micros_of_ofMicros hLength
    rcases exists_configured base hKey (d := d) (by omega) with
      ⟨configured, hConfigured, hCalled⟩
    refine ⟨configured, hConfigured, ?_⟩
    intro authority
    cases hOther : Authority.normalize authority with
    | error fault =>
        unfold durationOf
        rw [hOther]
        rfl
    | ok other =>
        rw [durationOf_ofMap _ _ hOther, hCalled hOther, hSpelled]
        by_cases hOwn : key = other
        · rw [if_pos hOwn, if_pos hOwn, hLength]
          rfl
        · rw [if_neg hOwn, if_neg hOwn]

end Alike

/- A blank before an authority is left in the map. -/
theorem not_isSetAlike_of_blank :
    Authority.normalize (some " http://a") = .ok "http://a" ∧
      ¬ IsSetAlike " http://a" := by
  have hKey :
      Authority.normalize (some " http://a") = .ok "http://a" := by
    decide +kernel
  refine ⟨hKey, ?_⟩
  rw [isSetAlike_iff hKey]
  decide +kernel

end DiscoveryCache

end KeyAssertion
