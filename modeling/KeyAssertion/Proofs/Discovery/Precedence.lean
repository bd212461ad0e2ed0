import KeyAssertion.Proofs.Discovery.Duration

/-
  Who says how long the documents of an authority are kept: the
  last call for it that was not refused, else the first entry of
  the map of the settings that names it, else the default.  What
  a setting says counts if a length of time can be that long.

  Key definitions include:
    * `Duration.IsHeld`
    * `Exchange.Event.Sets`
    * `Exchange.LastSets`
    * `Exchange.Said`
    * `Exchange.KeepsPrecedence`

  Key theorems include:
    * `Exchange.lookup_durations_run_iff`
    * `Exchange.existsUnique_said`
    * `Exchange.keepsPrecedence`
-/

namespace KeyAssertion

------------------------------------------------------------
-- Lengths of Time
------------------------------------------------------------

namespace Duration

/- Whether the whole days of a length of time have at most nine digits. -/
def IsHeld (d : Duration) : Prop :=
  -999999999 ≤ Int.fdiv d.micros microsPerDay ∧
    Int.fdiv d.micros microsPerDay ≤ 999999999

instance (d : Duration) : Decidable d.IsHeld := by
  unfold IsHeld
  infer_instance

/- Seconds are a length of time if it is one of these. -/
theorem ofSeconds_of_isHeld
    {seconds : Int}
    (hHeld : IsHeld ⟨seconds * 1000000⟩) :
    ofSeconds seconds = .ok ⟨seconds * 1000000⟩ := by
  unfold IsHeld at hHeld
  unfold ofSeconds ofMicros
  dsimp only at hHeld ⊢
  rw [if_neg (by omega), if_neg (by omega)]

/- No other seconds are. -/
theorem exists_ofSeconds_eq_error
    {seconds : Int}
    (hBeyond : ¬ IsHeld ⟨seconds * 1000000⟩) :
    ∃ fault, ofSeconds seconds = .error fault := by
  unfold IsHeld at hBeyond
  unfold ofSeconds ofMicros
  dsimp only at hBeyond ⊢
  split_ifs
  · exact ⟨_, rfl⟩
  · exact ⟨_, rfl⟩
  · exact absurd (by omega) hBeyond

end Duration

namespace Exchange

------------------------------------------------------------
-- Calls
------------------------------------------------------------

/-
  Whether an event is a call that sets the duration of an
  authority in normal form, in whatever spelling.
-/
inductive Event.Sets (key : String) (d : Duration) : Event → Prop
  | configure
      (authority : Option String)
      (hLength : 0 ≤ d.micros)
      (hKey : Authority.normalize authority = .ok key) :
      Sets key d (.configure authority d)

/- A call sets one duration. -/
theorem Event.Sets.unique
    {e : Event}
    {key : String}
    {d other : Duration}
    (h : e.Sets key d)
    (hOther : e.Sets key other) :
    other = d := by
  cases h with
  | configure authority hLength hKey =>
      cases hOther with
      | configure _ _ _ => rfl

/- The call sets a duration if it is not refused. -/
theorem accepted_iff
    (x : Exchange)
    (authority : Option String)
    (d : Duration) :
    (x.step (.configure authority d)).2 = none ↔
      ∃ key, Event.Sets key d (.configure authority d) := by
  simp only [step, DiscoveryCache.configure]
  constructor
  · intro hAccepted
    by_cases hNegative : d.micros < 0
    · rw [if_pos hNegative] at hAccepted
      cases hAccepted
    · rw [if_neg hNegative] at hAccepted
      cases hKey : Authority.normalize authority with
      | error fault =>
          rw [hKey] at hAccepted
          cases hAccepted
      | ok key =>
          exact ⟨key, .configure authority (Int.not_lt.mp hNegative) hKey⟩
  · rintro ⟨key, hSets⟩
    cases hSets with
    | configure _ hLength hKey =>
        rw [if_neg (Int.not_lt.mpr hLength), hKey]
        rfl

/- Whether the last such call of a run set a duration. -/
def LastSets
    (events : List Event)
    (key : String)
    (d : Duration) : Prop :=
  ∃ before e after,
    events = before ++ e :: after ∧ e.Sets key d ∧
      ∀ later ∈ after, ∀ other, ¬ later.Sets key other

section Last

variable {events : List Event} {e : Event}
variable {key : String} {d : Duration}

/-
  After one more event the last call is this event, or it is the
  one it was and the event is no such call.
-/
theorem lastSets_concat_iff :
    LastSets (events ++ [e]) key d ↔
      e.Sets key d ∨
        (∀ other, ¬ e.Sets key other) ∧ LastSets events key d := by
  constructor
  · rintro ⟨before, e', after, hEvents, hSets, hAfter⟩
    -- The last call is the new event itself or one of those before it.
    rcases List.eq_nil_or_concat after with
      rfl | ⟨front, last, rfl⟩
    · rcases List.append_inj' hEvents rfl with ⟨-, hLast⟩
      cases hLast
      exact .inl hSets
    · rw [List.concat_eq_append, ← List.cons_append,
        ← List.append_assoc] at hEvents
      rcases List.append_inj' hEvents rfl with ⟨rfl, hLast⟩
      cases hLast
      refine .inr ⟨hAfter e (by simp), before, e', front, rfl, hSets, ?_⟩
      intro later hMem
      exact hAfter later (by simp [hMem])
  · rintro (hSets | ⟨hNone, before, e', after, rfl, hSets, hAfter⟩)
    · exact ⟨events, e, [], rfl, hSets, by simp⟩
    · refine ⟨before, e', after ++ [e], by simp, hSets, ?_⟩
      intro later hMem
      rcases List.mem_append.mp hMem with hOld | hNew
      · exact hAfter later hOld
      · cases List.mem_singleton.mp hNew
        exact hNone

/- Without an event there is no call. -/
theorem not_lastSets_nil : ¬ LastSets [] key d := by
  rintro ⟨before, e, after, hEvents, -⟩
  simp at hEvents

end Last

------------------------------------------------------------
-- Steps
------------------------------------------------------------

section Steps

variable {x y : Exchange} {e : Event}
variable {key : String} {d : Duration}

/- A call that sets a duration leaves it. -/
theorem Move.lookup_durations_of_sets
    (hMove : Move x e y)
    (hSets : e.Sets key d) :
    y.cache.durations.lookup key = some d := by
  cases hSets with
  | configure authority hLength hKey =>
      cases hMove with
      | configured _ hSame =>
          cases hKey.symm.trans hSame
          exact KeyedList.lookup_put_self key _ _
      | notConfigured hRefused =>
          rcases hRefused with hNegative | ⟨fault, hFault⟩
          · exact absurd hLength (Int.not_le.mpr hNegative)
          · cases hKey.symm.trans hFault

/- Every other event leaves the one that is there. -/
theorem Move.lookup_durations_of_not_sets
    (hMove : Move x e y)
    (hNone : ∀ d, ¬ e.Sets key d) :
    y.cache.durations.lookup key = x.cache.durations.lookup key := by
  cases hMove with
  | answered _ _ =>
      exact congrArg _ (durations_conclude _ _ _)
  | finished _ _ =>
      exact congrArg _ (durations_complete _ _ _)
  | @configured authority d other hLength hOther =>
      apply KeyedList.lookup_put_of_ne
      rintro rfl
      exact hNone d (.configure authority hLength hOther)
  | _ => rfl

/- So the duration of every spelling is the same after it. -/
theorem Move.durationOf_of_not_sets
    {raw : Option String}
    (hKey : Authority.normalize raw = .ok key)
    (hMove : Move x e y)
    (hNone : ∀ d, ¬ e.Sets key d) :
    y.cache.durationOf raw = x.cache.durationOf raw := by
  rw [DiscoveryCache.durationOf_of_normalize _ hKey,
    DiscoveryCache.durationOf_of_normalize _ hKey,
    hMove.lookup_durations_of_not_sets hNone, hMove.settings_eq]

end Steps

------------------------------------------------------------
-- Runs
------------------------------------------------------------

section Runs

variable (settings : DiscoverySettings) (now : Moment)
variable (events : List Event) (key : String)

/- What is set after a run is what its last call set. -/
theorem lookup_durations_run_iff (d : Duration) :
    ((start settings now).run events).cache.durations.lookup key =
        some d ↔
      LastSets events key d := by
  revert d
  refine run_induction
    (P := fun es y => ∀ d,
      y.cache.durations.lookup key = some d ↔ LastSets es key d)
    ?_ ?_ events
  · intro d
    exact iff_of_false nofun not_lastSets_nil
  · intro es e y ih hMove d
    rw [lastSets_concat_iff]
    -- An event that sets the key decides both sides, any other neither.
    by_cases hSets : ∃ other, e.Sets key other
    · rcases hSets with ⟨other, hSets⟩
      rw [hMove.lookup_durations_of_sets hSets, Option.some_inj]
      constructor
      · rintro rfl
        exact .inl hSets
      · rintro (hOwn | ⟨hNone, -⟩)
        · exact hOwn.unique hSets
        · exact absurd hSets (hNone other)
    · have hNone := not_exists.mp hSets
      rw [hMove.lookup_durations_of_not_sets hNone, ih d]
      constructor
      · exact fun hLast => .inr ⟨hNone, hLast⟩
      · rintro (hOwn | ⟨-, hLast⟩)
        · exact absurd hOwn (hNone d)
        · exact hLast

variable {settings now events key}

/- So it is one duration. -/
theorem LastSets.unique
    {d other : Duration}
    (h : LastSets events key d)
    (hOther : LastSets events key other) :
    other = d := by
  rw [← lookup_durations_run_iff {} .epoch] at h hOther
  exact Option.some.inj (hOther.symm.trans h)

/- Without a call nothing is set. -/
theorem lookup_durations_run_eq_none_iff :
    ((start settings now).run events).cache.durations.lookup key =
        none ↔
      ∀ d, ¬ LastSets events key d := by
  simp only [Option.eq_none_iff_forall_ne_some, ne_eq,
    lookup_durations_run_iff]

end Runs

------------------------------------------------------------
-- Precedence
------------------------------------------------------------

/- Whether an entry of the map is for an authority in normal form. -/
def Names
    (entry : String × Int)
    (key : String) : Prop :=
  Text.withoutTrailingSlashes entry.1 = Text.withoutTrailingSlashes key

/-
  How long the documents of an authority in normal form are to
  be kept: as the last call for it says, without any call as the
  first entry of the map for it says, and without an entry as
  the default says.
-/
inductive Said
    (settings : DiscoverySettings)
    (events : List Event)
    (key : String) : Duration → Prop
  | called
      {d : Duration}
      (hLast : LastSets events key d) :
      Said settings events key d
  | listed
      {front back : List (String × Int)} {entry : String × Int}
      (hUncalled : ∀ d, ¬ LastSets events key d)
      (hMap : settings.cacheDurations = front ++ entry :: back)
      (hNames : Names entry key)
      (hFirst : ∀ other ∈ front, ¬ Names other key) :
      Said settings events key ⟨entry.2 * 1000000⟩
  | standard
      (hUncalled : ∀ d, ¬ LastSets events key d)
      (hUnlisted :
        ∀ entry ∈ settings.cacheDurations, ¬ Names entry key) :
      Said settings events key ⟨settings.cacheDurationSeconds * 1000000⟩

section Precedence

variable {settings : DiscoverySettings} {events : List Event}
variable {key : String} {d : Duration}

/- The entry that is found is the first one for the authority. -/
theorem entryFor?_eq_some_iff (entry : String × Int) :
    settings.entryFor? key = some entry ↔
      ∃ front back,
        settings.cacheDurations = front ++ entry :: back ∧
          Names entry key ∧ ∀ other ∈ front, ¬ Names other key := by
  simp only [DiscoverySettings.entryFor?, List.find?_eq_some_iff_append,
    beq_iff_eq, Bool.not_eq_true', beq_eq_false_iff_ne, Names, ne_eq]
  constructor
  · rintro ⟨hNames, front, back, hMap, hFirst⟩
    exact ⟨front, back, hMap, hNames, hFirst⟩
  · rintro ⟨front, back, hMap, hNames, hFirst⟩
    exact ⟨hNames, front, back, hMap, hFirst⟩

/- None is found if there is none for it. -/
theorem entryFor?_eq_none_iff :
    settings.entryFor? key = none ↔
      ∀ entry ∈ settings.cacheDurations, ¬ Names entry key := by
  simp only [DiscoverySettings.entryFor?, List.find?_eq_none, beq_iff_eq,
    Names]

/- What is said comes from the last call or from the settings. -/
theorem said_iff :
    Said settings events key d ↔
      LastSets events key d ∨
        (∀ other, ¬ LastSets events key other) ∧
          d = ⟨settings.durationFor key * 1000000⟩ := by
  constructor
  · intro h
    cases h with
    | called hLast => exact .inl hLast
    | listed hUncalled hMap hNames hFirst =>
        have hEntry :=
          (entryFor?_eq_some_iff _).mpr ⟨_, _, hMap, hNames, hFirst⟩
        rw [DiscoverySettings.durationFor_eq, hEntry]
        exact .inr ⟨hUncalled, rfl⟩
    | standard hUncalled hUnlisted =>
        rw [DiscoverySettings.durationFor_eq,
          entryFor?_eq_none_iff.mpr hUnlisted]
        exact .inr ⟨hUncalled, rfl⟩
  · rintro (hLast | ⟨hUncalled, rfl⟩)
    · exact .called hLast
    · rw [DiscoverySettings.durationFor_eq]
      cases hEntry : settings.entryFor? key with
      | none =>
          exact .standard hUncalled (entryFor?_eq_none_iff.mp hEntry)
      | some entry =>
          rcases (entryFor?_eq_some_iff entry).mp hEntry with
            ⟨front, back, hMap, hNames, hFirst⟩
          exact .listed hUncalled hMap hNames hFirst

/- One duration is said, and no other. -/
theorem existsUnique_said
    (settings : DiscoverySettings)
    (events : List Event)
    (key : String) :
    ∃! d, Said settings events key d := by
  simp only [said_iff]
  by_cases hCalled : ∃ d, LastSets events key d
  · rcases hCalled with ⟨d, hLast⟩
    refine ⟨d, .inl hLast, ?_⟩
    rintro other (hOther | ⟨hUncalled, -⟩)
    · exact hLast.unique hOther
    · exact absurd hLast (hUncalled d)
  · have hUncalled := not_exists.mp hCalled
    refine ⟨_, .inr ⟨hUncalled, rfl⟩, ?_⟩
    rintro other (hOther | ⟨-, hSame⟩)
    · exact absurd hOther (hUncalled other)
    · exact hSame

end Precedence

/-
  Whether the durations of an authority are those that are said:
    * one duration is said, and it is the one that is had, if a
      call said it or a length of time can be that long;
    * else there is only the fault that none can;
    * nothing changes it but a call for this authority, and such
      a call takes effect if and only if it is not refused;
    * every spelling has the same.
-/
structure KeepsPrecedence
    (settings : DiscoverySettings)
    (now : Moment)
    (events : List Event)
    (raw : Option String)
    (key : String) : Prop where
  said :
    ∃! d, Said settings events key d
  had : ∀ d,
    Said settings events key d →
      LastSets events key d ∨ d.IsHeld →
        ((start settings now).run events).cache.durationOf raw = .ok d
  beyond : ∀ d,
    Said settings events key d →
      ¬ LastSets events key d → ¬ d.IsHeld →
        ∃ fault,
          ((start settings now).run events).cache.durationOf raw =
            .error (.date fault)
  unchanged : ∀ e,
    (∀ d, ¬ e.Sets key d) →
      ((start settings now).run (events ++ [e])).cache.durationOf raw =
        ((start settings now).run events).cache.durationOf raw
  accepted : ∀ authority d,
    (((start settings now).run events).step
        (.configure authority d)).2 = none ↔
      ∃ other, Event.Sets other d (.configure authority d)
  spelled : ∀ other,
    Authority.normalize other = .ok key →
      ((start settings now).run events).cache.durationOf other =
        ((start settings now).run events).cache.durationOf raw

section Start

variable {settings : DiscoverySettings} {now : Moment}
variable {events : List Event} {raw : Option String}
variable {key : String} {d : Duration}

/- The duration that the last call set is had. -/
theorem durationOf_run_of_lastSets
    (hKey : Authority.normalize raw = .ok key)
    (hLast : LastSets events key d) :
    ((start settings now).run events).cache.durationOf raw = .ok d := by
  rw [DiscoveryCache.durationOf_of_normalize _ hKey,
    (lookup_durations_run_iff settings now events key d).mpr hLast]

/- Without a call the duration is that of the settings. -/
theorem durationOf_run_of_uncalled
    (hKey : Authority.normalize raw = .ok key)
    (hUncalled : ∀ d, ¬ LastSets events key d) :
    ((start settings now).run events).cache.durationOf raw =
      (Duration.ofSeconds (settings.durationFor key)).mapError
        .date := by
  rw [DiscoveryCache.durationOf_of_normalize _ hKey,
    lookup_durations_run_eq_none_iff.mpr hUncalled, run_settings]

/-
  For every authority in whatever settings and after whatever
  run, the durations are those that are said.
-/
theorem keepsPrecedence
    (settings : DiscoverySettings)
    (now : Moment)
    (events : List Event)
    (hKey : Authority.normalize raw = .ok key) :
    KeepsPrecedence settings now events raw key where
  said := existsUnique_said settings events key
  had := by
    intro d hSaid hCounts
    rcases said_iff.mp hSaid with hLast | ⟨hUncalled, rfl⟩
    · exact durationOf_run_of_lastSets hKey hLast
    · have hHeld := hCounts.resolve_left (hUncalled _)
      rw [durationOf_run_of_uncalled hKey hUncalled,
        Duration.ofSeconds_of_isHeld hHeld]
      rfl
  beyond := by
    intro d hSaid hNotLast hBeyond
    rcases said_iff.mp hSaid with hLast | ⟨hUncalled, rfl⟩
    · exact absurd hLast hNotLast
    · rcases Duration.exists_ofSeconds_eq_error hBeyond with
        ⟨fault, hFault⟩
      rw [durationOf_run_of_uncalled hKey hUncalled, hFault]
      exact ⟨fault, rfl⟩
  unchanged := fun e hNone =>
    (run_move _ events e).durationOf_of_not_sets hKey hNone
  accepted := accepted_iff _
  spelled := by
    intro other hOther
    rw [DiscoveryCache.durationOf_of_normalize _ hOther,
      DiscoveryCache.durationOf_of_normalize _ hKey]

/-
  The second of two calls counts, though it sets no time at all;
  a call that is refused, one for another authority and the
  removal of all documents change nothing.
-/
theorem keepsPrecedence_of_zero :
    Authority.normalize (some "http://a/") = .ok "http://a" ∧
      ((start { cacheDurations := [("http://a//", 5)] } .epoch).run
        [.configure (some "http://a") ⟨7⟩,
          .configure (some " http://a/") ⟨0⟩,
          .configure (some "http://a") ⟨-1⟩,
          .configure (some "http://b") ⟨9⟩,
          .clear]).cache.durationOf (some "http://a/") = .ok ⟨0⟩ := by
  have hKey : Authority.normalize (some "http://a/") = .ok "http://a" := by
    decide +kernel
  have hSpelled :
      Authority.normalize (some " http://a/") = .ok "http://a" := by
    decide +kernel
  have hOther : Authority.normalize (some "http://b") = .ok "http://b" := by
    decide +kernel
  have hLast :
      LastSets
        [.configure (some "http://a") ⟨7⟩,
          .configure (some " http://a/") ⟨0⟩,
          .configure (some "http://a") ⟨-1⟩,
          .configure (some "http://b") ⟨9⟩,
          .clear] "http://a" ⟨0⟩ := by
    refine ⟨[.configure (some "http://a") ⟨7⟩], _, _, rfl,
      .configure (some " http://a/") (by decide) hSpelled, ?_⟩
    intro later hMem d hSets
    cases hSets with
    | configure authority hLength hSame =>
        simp only [List.mem_cons, Event.configure.injEq,
          reduceCtorEq, List.not_mem_nil, or_false] at hMem
        rcases hMem with ⟨rfl, rfl⟩ | ⟨rfl, rfl⟩
        · exact absurd hLength (by decide)
        · exact absurd (Except.ok.inj (hOther.symm.trans hSame))
            (by decide)
  exact ⟨hKey,
    (keepsPrecedence _ _ _ hKey).had _ (.called hLast) (.inl hLast)⟩

/- Not everything that is said can be had: a setting may be too long. -/
theorem not_had_of_beyond :
    ¬ ∀ (settings : DiscoverySettings) (now : Moment)
      (events : List Event) (raw : Option String) (key : String),
      Authority.normalize raw = .ok key →
        ∃ d,
          Said settings events key d ∧
            ((start settings now).run events).cache.durationOf raw =
              .ok d := by
  have hKey : Authority.normalize (some "http://a") = .ok "http://a" := by
    decide +kernel
  have hNone :
      ((start { cacheDurations := [("http://a", 86400000000000)] }
        .epoch).run []).cache.durationOf (some "http://a") =
          .error (.date (.dayLimit 1000000000)) := by
    decide +kernel
  intro hAll
  rcases hAll _ _ _ _ _ hKey with ⟨d, -, hHad⟩
  cases hNone.symm.trans hHad

end Start

end Exchange

end KeyAssertion
