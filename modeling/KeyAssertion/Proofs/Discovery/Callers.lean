import KeyAssertion.Proofs.Discovery.History

/-
  What becomes of a caller: a call is served at once or waits
  for one fetch, and a caller that waits leaves or comes to the
  result of its fetch, once and for all.

  Key definitions include:
    * `Exchange.Event.caller?`
    * `Exchange.Quiet`
    * `Exchange.DistinctCallers`
    * `Exchange.Unseen`
    * `Exchange.Awaits`
    * `Exchange.Settled`

  Key theorems include:
    * `Exchange.Move.caller_cases`
    * `Exchange.Consistent.outcome?_answered`
    * `Exchange.run_unseen`
    * `Exchange.run_caller_cases`
    * `Exchange.Settled.run`
    * `Exchange.Awaits.run`
    * `Exchange.Consistent.run_waiting`
-/

namespace KeyAssertion

namespace Exchange

------------------------------------------------------------
-- Calls
------------------------------------------------------------

/- The caller that an event is a call of. -/
def Event.caller? : Event → Option Nat
  | .get caller _ => some caller
  | _ => none

/- A caller makes no call in a part of a run. -/
def Quiet
    (events : List Event)
    (caller : Nat) : Prop :=
  ∀ e ∈ events, e.caller? ≠ some caller

instance (events : List Event) (caller : Nat) :
    Decidable (Quiet events caller) :=
  inferInstanceAs (Decidable (∀ e ∈ events, _))

/- No call is made in a run of two parts if none is in either. -/
theorem quiet_append_iff
    {es fs : List Event}
    {caller : Nat} :
    Quiet (es ++ fs) caller ↔ Quiet es caller ∧ Quiet fs caller :=
  List.forall_mem_append

/- An event is a part of a run. -/
theorem quiet_singleton_iff
    {e : Event}
    {caller : Nat} :
    Quiet [e] caller ↔ e.caller? ≠ some caller :=
  List.forall_mem_singleton

/- Some caller has not called. -/
theorem exists_quiet
    (events : List Event) :
    ∃ caller, Quiet events caller := by
  have hBound :
      ∃ bound, ∀ caller,
        bound ≤ caller → Quiet events caller := by
    induction events with
    | nil =>
        refine ⟨0, ?_⟩
        intro caller _ e he
        cases he
    | cons e es ih =>
        rcases ih with ⟨bound, hAbove⟩
        refine ⟨max bound ((e.caller?.getD 0) + 1), ?_⟩
        intro caller hCaller e' he' hSame
        rcases List.mem_cons.mp he' with rfl | hOld
        · rw [hSame] at hCaller
          have hNumber : caller + 1 ≤ caller :=
            Nat.le_trans (Nat.le_max_right _ _) hCaller
          exact absurd hNumber (Nat.not_succ_le_self caller)
        · have hOldBound : bound ≤ caller :=
            Nat.le_trans (Nat.le_max_left _ _) hCaller
          exact hAbove caller hOldBound e' hOld hSame
  rcases hBound with ⟨bound, hAbove⟩
  exact ⟨bound, hAbove bound (Nat.le_refl _)⟩

/- Every call has a caller of its own. -/
def DistinctCallers (events : List Event) : Prop :=
  (events.filterMap Event.caller?).Nodup

/- Nobody else calls in the name of a caller. -/
theorem DistinctCallers.split
    {before after : List Event}
    {caller : Nat}
    {authority : Option String}
    (h : DistinctCallers (before ++ .get caller authority :: after)) :
    Quiet before caller ∧ Quiet after caller := by
  unfold DistinctCallers at h
  rw [List.filterMap_append, List.filterMap_cons] at h
  rcases List.nodup_append.mp h with ⟨_, hAfter, hBoth⟩
  constructor
  · intro e he hCaller
    have hBefore : caller ∈ before.filterMap Event.caller? :=
      List.mem_filterMap.mpr ⟨e, he, hCaller⟩
    exact hBoth caller hBefore caller List.mem_cons_self rfl
  · intro e he hCaller
    have hIn : caller ∈ after.filterMap Event.caller? :=
      List.mem_filterMap.mpr ⟨e, he, hCaller⟩
    exact (List.nodup_cons.mp hAfter).1 hIn

/- Callers that are told apart in a run are so in its first part. -/
theorem DistinctCallers.of_append
    {es fs : List Event}
    (h : DistinctCallers (es ++ fs)) :
    DistinctCallers es := by
  unfold DistinctCallers at h
  rw [List.filterMap_append] at h
  exact (List.nodup_append.mp h).1

------------------------------------------------------------
-- States of a Caller
------------------------------------------------------------

/- A caller neither waits nor has come to anything. -/
structure Unseen
    (x : Exchange)
    (caller : Nat) : Prop where
  away : ¬ x.Waits caller
  unserved : ∀ o, (caller, o) ∉ x.outcomes

/- A caller waits for one fetch and has come to nothing yet. -/
structure Awaits
    (x : Exchange)
    (caller n : Nat) : Prop where
  waits : ∀ m, (caller, m) ∈ x.waiting ↔ m = n
  unserved : ∀ o, (caller, o) ∉ x.outcomes

/- A caller has come to one outcome and waits no more. -/
structure Settled
    (x : Exchange)
    (caller : Nat)
    (outcome : Outcome) : Prop where
  away : ¬ x.Waits caller
  served : ∀ o, (caller, o) ∈ x.outcomes ↔ o = outcome

variable {x y : Exchange} {e : Event}
variable {caller n : Nat} {outcome : Outcome}

/- An outcome that a caller is told is on record. -/
theorem mem_of_outcome?
    (h : x.outcome? caller = some outcome) :
    (caller, outcome) ∈ x.outcomes :=
  KeyedList.mem_of_lookup h

/- A caller that has come to an outcome is told it. -/
theorem Settled.outcome?_eq
    (h : x.Settled caller outcome) :
    x.outcome? caller = some outcome :=
  KeyedList.lookup_eq_some_of_unique ((h.served outcome).mpr rfl)
    fun o => (h.served o).mp

/- A caller that is served at once has come to this outcome. -/
theorem Unseen.settle
    (h : x.Unseen caller)
    (o : Outcome) :
    (x.settle caller o).Settled caller o := by
  refine ⟨h.away, ?_⟩
  intro o'
  change (caller, o') ∈ (caller, o) :: x.outcomes ↔ _
  simp [h.unserved o']

/- A fetch that starts serves nobody yet. -/
theorem Unseen.launch
    (h : x.Unseen caller)
    (cache : DiscoveryCache)
    (key : String)
    (n : Nat) :
    (x.launch cache key n).Unseen caller :=
  ⟨h.away, h.unserved⟩

/- A caller that starts to wait waits for this fetch only. -/
theorem Unseen.wait
    (h : x.Unseen caller)
    (n : Nat) :
    (x.wait caller n).Awaits caller n := by
  refine ⟨?_, h.unserved⟩
  intro m
  have hNone : (caller, m) ∉ x.waiting := by
    intro hMem
    exact h.away ⟨m, hMem⟩
  simp [Exchange.wait, hNone]

/- A call serves its caller at once or lets it wait. -/
theorem Unseen.called
    (h : x.Unseen caller)
    {authority : Option String}
    (hMove : Move x (.get caller authority) y) :
    (∃ o, y.Settled caller o) ∨ ∃ n, y.Awaits caller n := by
  cases hMove with
  | faulty _ => exact Or.inl ⟨_, h.settle _⟩
  | hit _ _ _ => exact Or.inl ⟨_, h.settle _⟩
  | joined _ _ _ _ => exact Or.inr ⟨_, h.wait _⟩
  | late _ _ _ _ => exact Or.inl ⟨_, h.settle _⟩
  | started _ _ _ => exact Or.inr ⟨_, (h.launch _ _ _).wait _⟩

------------------------------------------------------------
-- Single Events
------------------------------------------------------------

/- A caller waits for the same and has come to the same. -/
structure SameCaller
    (x y : Exchange)
    (caller : Nat) : Prop where
  waiting :
    ∀ m, (caller, m) ∈ y.waiting ↔ (caller, m) ∈ x.waiting
  outcomes :
    ∀ o, (caller, o) ∈ y.outcomes ↔ (caller, o) ∈ x.outcomes

/- What the calls and departures of others are to a caller. -/
private theorem mem_cons_other
    {c : Nat}
    {o : Outcome}
    {l : List (Nat × Outcome)}
    (hOther : c ≠ caller)
    (o' : Outcome) :
    (caller, o') ∈ (c, o) :: l ↔ (caller, o') ∈ l := by
  simp [Ne.symm hOther]

/-
  A caller that does not call now is left alone, unless it
  leaves or the callback of its fetch is called.
-/
theorem Move.caller_cases
    (hMove : Move x e y)
    (hOther : e.caller? ≠ some caller) :
    SameCaller x y caller ∨
      (∃ d,
        e = .leave caller d ∧ x.Waits caller ∧
          y = x.depart caller d) ∨
      ∃ f result,
        x.Landed f result ∧ e = .finish f.number ∧
          (caller, f.number) ∈ x.waiting ∧
          y = x.complete f result := by
  rcases hMove.callers_cases with
    ⟨hWaiting, hOutcomes⟩ |
      ⟨c, authority, o, rfl, hWaiting, hOutcomes⟩ |
      ⟨c, authority, m, rfl, hWaiting, hOutcomes⟩ |
      ⟨c, d, rfl, hWaits, rfl⟩ | ⟨f, result, hLanded, rfl, rfl⟩
  · exact Or.inl
      ⟨fun m => by rw [hWaiting], fun o => by rw [hOutcomes]⟩
  · have hNe : c ≠ caller := by
      intro hEq
      exact hOther (congrArg some hEq)
    refine Or.inl ⟨fun m => by rw [hWaiting], fun o' => ?_⟩
    rw [hOutcomes]
    exact mem_cons_other hNe o'
  · have hNe : c ≠ caller := by
      intro hEq
      exact hOther (congrArg some hEq)
    refine Or.inl ⟨fun m' => ?_, fun o => by rw [hOutcomes]⟩
    rw [hWaiting]
    simp [Ne.symm hNe]
  · by_cases hEq : c = caller
    · subst hEq
      exact Or.inr (Or.inl ⟨d, rfl, hWaits, rfl⟩)
    · refine Or.inl ⟨fun m => ?_, mem_cons_other hEq⟩
      simp [depart, settle, Ne.symm hEq]
  · by_cases hWaits : (caller, f.number) ∈ x.waiting
    · exact Or.inr (Or.inr ⟨f, result, hLanded, rfl, hWaits, rfl⟩)
    · refine Or.inl ⟨fun m => ?_, fun o => ?_⟩
      · rw [mem_waiting_complete]
        refine ⟨And.left, fun hMem => ⟨hMem, ?_⟩⟩
        intro hEq
        rw [show m = f.number from hEq] at hMem
        exact hWaits hMem
      · rw [mem_outcomes_complete]
        simp [hWaits]

/- What a caller has come to stays on record. -/
theorem Move.mem_outcomes
    (hMove : Move x e y)
    {w : Nat × Outcome}
    (hMem : w ∈ x.outcomes) :
    w ∈ y.outcomes := by
  rcases hMove.callers_cases with
    ⟨_, hSame⟩ | ⟨_, _, _, _, _, hMore⟩ | ⟨_, _, _, _, _, hSame⟩ |
      ⟨_, _, _, _, rfl⟩ | ⟨_, _, _, _, rfl⟩
  · rw [hSame]
    exact hMem
  · rw [hMore]
    exact List.mem_cons_of_mem _ hMem
  · rw [hSame]
    exact hMem
  · exact List.mem_cons_of_mem _ hMem
  · exact mem_outcomes_complete.mpr (Or.inr hMem)

/- A caller is not seen before its call. -/
theorem Unseen.move
    (h : x.Unseen caller)
    (hMove : Move x e y)
    (hOther : e.caller? ≠ some caller) :
    y.Unseen caller := by
  rcases hMove.caller_cases hOther with
    hSame | ⟨_, _, hWaits, _⟩ | ⟨f, _, _, _, hWaits, _⟩
  · refine ⟨?_, ?_⟩
    · rintro ⟨m, hMem⟩
      exact h.away ⟨m, (hSame.waiting m).mp hMem⟩
    · intro o hMem
      exact h.unserved o ((hSame.outcomes o).mp hMem)
  · exact absurd hWaits h.away
  · exact absurd ⟨f.number, hWaits⟩ h.away

/- What a caller has come to stays. -/
theorem Settled.move
    (h : x.Settled caller outcome)
    (hMove : Move x e y)
    (hOther : e.caller? ≠ some caller) :
    y.Settled caller outcome := by
  rcases hMove.caller_cases hOther with
    hSame | ⟨_, _, hWaits, _⟩ | ⟨f, _, _, _, hWaits, _⟩
  · refine ⟨?_, ?_⟩
    · rintro ⟨m, hMem⟩
      exact h.away ⟨m, (hSame.waiting m).mp hMem⟩
    · intro o
      exact (hSame.outcomes o).trans (h.served o)
  · exact absurd hWaits h.away
  · exact absurd ⟨f.number, hWaits⟩ h.away

/- A caller that leaves has come to its departure. -/
theorem Awaits.depart
    (h : x.Awaits caller n)
    (d : Departure) :
    (x.depart caller d).Settled caller d.outcome := by
  refine ⟨?_, ?_⟩
  · rintro ⟨m, hMem⟩
    simp [Exchange.depart, settle] at hMem
  · intro o
    change (caller, o) ∈ (caller, d.outcome) :: x.outcomes ↔ _
    simp [h.unserved o]

/- The callback of its fetch gives a caller the result. -/
theorem Awaits.complete
    (h : x.Awaits caller n)
    {f : Fetch}
    (hNumber : f.number = n)
    (result : Except CacheError DiscoveryDocument) :
    (x.complete f result).Settled caller ⟨some n, result⟩ := by
  subst hNumber
  refine ⟨?_, ?_⟩
  · rintro ⟨m, hMem⟩
    rcases mem_waiting_complete.mp hMem with ⟨hOld, hNe⟩
    exact hNe ((h.waits m).mp hOld)
  · intro o
    rw [mem_outcomes_complete]
    simp [h.unserved o, (h.waits f.number).mpr rfl]

/- Callers that wait for a fetch are told its result by its callback. -/
theorem outcome?_complete
    {f : Fetch}
    (hWaits : (caller, f.number) ∈ x.waiting)
    (result : Except CacheError DiscoveryDocument) :
    (x.complete f result).outcome? caller =
      some ⟨some f.number, result⟩ := by
  have hMem :
      (caller, (⟨some f.number, result⟩ : Outcome)) ∈
        (x.waiting.filter fun w => w.2 == f.number).map
          fun w => (w.1, ⟨some f.number, result⟩) := by
    refine List.mem_map.mpr ⟨(caller, f.number), ?_, rfl⟩
    exact List.mem_filter.mpr ⟨hWaits, by simp⟩
  have hServed :=
    KeyedList.lookup_eq_some_of_unique hMem fun other hOther => by
      rcases List.mem_map.mp hOther with ⟨_, _, hEq⟩
      exact (Prod.mk.inj hEq).2.symm
  unfold outcome? complete
  rw [List.partition_eq_filter_filter]
  rw [List.lookup_append, hServed]
  rfl

/- They are told it when the fetch is answered and this is called. -/
theorem Consistent.outcome?_answered
    (h : x.Consistent)
    {f : Fetch}
    (hPending : x.Pending f)
    (hWaits : (caller, f.number) ∈ x.waiting)
    (reply : HttpReply) :
    (x.run [.answer f.number reply, .finish f.number]).outcome?
        caller =
      some ⟨some f.number, x.resultOf f reply⟩ := by
  have hEnd := h.eq_conclude hPending (step_move x (.answer _ reply))
  have hLanded :
      (x.conclude f reply).Landed f (x.resultOf f reply) :=
    ⟨hPending.1, result?_conclude_self x f reply⟩
  have hOver :=
    (h.conclude hPending.1 reply).eq_complete hLanded (step_move _ _)
  change
    ((x.step (.answer f.number reply)).1.step
      (.finish f.number)).1.outcome? caller = _
  rw [hEnd, hOver]
  exact outcome?_complete hWaits _

/- A caller that waits goes on so, leaves or is served. -/
theorem Awaits.move
    (h : x.Awaits caller n)
    (hMove : Move x e y)
    (hOther : e.caller? ≠ some caller) :
    y.Awaits caller n ∨
      (∃ d,
        e = .leave caller d ∧ y.Settled caller d.outcome) ∨
      ∃ f result,
        x.Landed f result ∧ f.number = n ∧
          y = x.complete f result ∧
          y.Settled caller ⟨some n, result⟩ := by
  rcases hMove.caller_cases hOther with
    hSame | ⟨d, hEvent, _, rfl⟩ |
      ⟨f, result, hLanded, _, hWaits, rfl⟩
  · refine Or.inl ⟨?_, ?_⟩
    · intro m
      exact (hSame.waiting m).trans (h.waits m)
    · intro o hMem
      exact h.unserved o ((hSame.outcomes o).mp hMem)
  · exact Or.inr (Or.inl ⟨d, hEvent, h.depart d⟩)
  · have hNumber := (h.waits f.number).mp hWaits
    exact Or.inr (Or.inr
      ⟨f, result, hLanded, hNumber, rfl,
        h.complete hNumber result⟩)

------------------------------------------------------------
-- Runs
------------------------------------------------------------

/- What is on record stays so in every run. -/
theorem run_mem_outcomes
    (x : Exchange)
    {later : List Event}
    {w : Nat × Outcome}
    (hMem : w ∈ x.outcomes) :
    w ∈ (x.run later).outcomes :=
  run_induction (P := fun _ y => w ∈ y.outcomes) hMem
    (fun _ _ _ hBefore hMove => hMove.mem_outcomes hBefore) later

/- A caller that does not call in a run is not seen by it. -/
theorem run_unseen
    (settings : DiscoverySettings)
    (now : Moment)
    {events : List Event}
    (hQuiet : Quiet events caller) :
    ((start settings now).run events).Unseen caller := by
  revert hQuiet
  refine run_induction
    (P := fun es y =>
      Quiet es caller → y.Unseen caller)
    ?_ ?_ events
  · intro _
    refine ⟨?_, ?_⟩
    · rintro ⟨m, hMem⟩
      cases hMem
    · intro o hMem
      cases hMem
  · intro es e y ih hMove hQuiet
    rcases quiet_append_iff.mp hQuiet with ⟨hEarlier, hLast⟩
    exact (ih hEarlier).move hMove (quiet_singleton_iff.mp hLast)

/- A caller that has called does not call again. -/
theorem quiet_of_seen
    {settings : DiscoverySettings}
    {now : Moment}
    {events later : List Event}
    (hDistinct : DistinctCallers (events ++ later))
    (hSeen : ¬ ((start settings now).run events).Unseen caller) :
    Quiet later caller := by
  intro e he hCaller
  apply hSeen
  apply run_unseen settings now
  intro e' he' hCaller'
  unfold DistinctCallers at hDistinct
  rw [List.filterMap_append] at hDistinct
  exact
    (List.nodup_append.mp hDistinct).2.2 caller
      (List.mem_filterMap.mpr ⟨e', he', hCaller'⟩) caller
      (List.mem_filterMap.mpr ⟨e, he, hCaller⟩) rfl

/- A caller that waits does not call again. -/
theorem quiet_of_waits
    {settings : DiscoverySettings}
    {now : Moment}
    {events later : List Event}
    (hDistinct : DistinctCallers (events ++ later))
    (hWaits : ((start settings now).run events).Waits caller) :
    Quiet later caller := by
  apply quiet_of_seen hDistinct
  intro hUnseen
  exact hUnseen.away hWaits

/- What a caller has come to stays, whatever others do. -/
theorem Settled.run
    (h : x.Settled caller outcome)
    {later : List Event}
    (hQuiet : Quiet later caller) :
    (x.run later).Settled caller outcome := by
  revert hQuiet
  refine run_induction
    (P := fun es y =>
      Quiet es caller → y.Settled caller outcome)
    ?_ ?_ later
  · intro _
    exact h
  · intro es e y ih hMove hQuiet
    rcases quiet_append_iff.mp hQuiet with ⟨hEarlier, hLast⟩
    exact (ih hEarlier).move hMove (quiet_singleton_iff.mp hLast)

/-
  A caller that waits for a fetch still does after a run, or it
  has left, or the fetch is over and it has come to the result.
-/
theorem Awaits.run
    (h : x.Awaits caller n)
    (hConsistent : x.Consistent)
    {later : List Event}
    (hQuiet : Quiet later caller) :
    (x.run later).Awaits caller n ∨
      (∃ d,
        .leave caller d ∈ later ∧
          (x.run later).Settled caller d.outcome) ∨
      ∃ f result,
        f.number = n ∧ x.ComesTo later f result ∧
          (x.run later).Retired n ∧
          (x.run later).Settled caller ⟨some n, result⟩ := by
  revert hQuiet
  refine run_induction
    (P := fun es y =>
      Quiet es caller →
        y.Awaits caller n ∨
          (∃ d,
            .leave caller d ∈ es ∧ y.Settled caller d.outcome) ∨
          ∃ f result,
            f.number = n ∧ x.ComesTo es f result ∧ y.Retired n ∧
              y.Settled caller ⟨some n, result⟩)
    ?_ ?_ later
  · intro _
    exact Or.inl h
  · intro es e y ih hMove hQuiet
    rcases quiet_append_iff.mp hQuiet with ⟨hEarlier, hLast⟩
    have hOther := quiet_singleton_iff.mp hLast
    rcases ih hEarlier with
      hAwaits | ⟨d, hLeft, hSettled⟩ |
        ⟨f, result, hNumber, hComes, hRetired, hSettled⟩
    · rcases hAwaits.move hMove hOther with
        hStill | ⟨d, rfl, hSettled⟩ |
          ⟨f, result, hLanded, hNumber, hAfter, hSettled⟩
      · exact Or.inl hStill
      · exact Or.inr (Or.inl ⟨d, by simp, hSettled⟩)
      · have hComes := hConsistent.comesTo_of_landed hLanded
        have hRetired :=
          (hConsistent.run es).retired_complete hLanded.1 result
        rw [← hAfter, hNumber] at hRetired
        exact Or.inr (Or.inr
          ⟨f, result, hNumber, hComes.append [e], hRetired, hSettled⟩)
    · exact Or.inr (Or.inl
        ⟨d, List.mem_append_left _ hLeft,
          hSettled.move hMove hOther⟩)
    · exact Or.inr (Or.inr
        ⟨f, result, hNumber, hComes.append [e],
          hRetired.move hMove, hSettled.move hMove hOther⟩)

/- A caller waits as long as its fetch runs and it does not leave. -/
theorem Consistent.run_waiting
    (h : x.Consistent)
    {f : Fetch}
    {later : List Event}
    (hRuns : f ∈ (x.run later).running)
    (hWaits : (caller, f.number) ∈ x.waiting)
    (hStays : ∀ d, .leave caller d ∉ later) :
    (caller, f.number) ∈ (x.run later).waiting := by
  have hBegun : f.number < x.cache.nextFetch := by
    rcases h.awaited _ hWaits with ⟨g, hg, hNumber⟩
    change g.number = f.number at hNumber
    rw [← hNumber]
    exact h.begun g hg
  induction later using List.reverseRecOn with
  | nil => exact hWaits
  | append_singleton later e ih =>
      have hMove := run_move x later e
      have hRan : f ∈ (x.run later).running := by
        refine (hMove.running_cases hRuns).resolve_right ?_
        exact Nat.ne_of_lt
          (Nat.lt_of_lt_of_le hBegun (x.run_numbers later).1)
      have hBefore := ih hRan
        fun d hLeft => hStays d (List.mem_append_left _ hLeft)
      generalize x.run (later ++ [e]) = y at hMove hRuns ⊢
      rcases hMove.callers_cases with
        ⟨hSame, _⟩ | ⟨_, _, _, _, hSame, _⟩ |
          ⟨_, _, _, _, hMore, _⟩ | ⟨c, d, rfl, _, rfl⟩ |
          ⟨g, _, _, _, rfl⟩
      · rw [hSame]
        exact hBefore
      · rw [hSame]
        exact hBefore
      · rw [hMore]
        exact List.mem_append_left _ hBefore
      · refine List.mem_filter.mpr ⟨hBefore, ?_⟩
        have hOther : caller ≠ c := by
          rintro rfl
          exact hStays d (by simp)
        simpa using hOther
      · exact
          mem_waiting_complete.mpr
            ⟨hBefore, (mem_running_complete.mp hRuns).2⟩

/- A caller is unseen, waits for one fetch or has one outcome. -/
theorem run_caller_cases
    (settings : DiscoverySettings)
    (now : Moment)
    {events : List Event}
    (hDistinct : DistinctCallers events)
    (caller : Nat) :
    ((start settings now).run events).Unseen caller ∨
      (∃ n, ((start settings now).run events).Awaits caller n) ∨
      ∃ o, ((start settings now).run events).Settled caller o := by
  revert hDistinct
  refine run_induction
    (P := fun es y =>
      DistinctCallers es →
        y.Unseen caller ∨ (∃ n, y.Awaits caller n) ∨
          ∃ o, y.Settled caller o)
    ?_ ?_ events
  · intro _
    refine Or.inl ⟨?_, ?_⟩
    · rintro ⟨m, hMem⟩
      cases hMem
    · intro o hMem
      cases hMem
  · intro es e y ih hMove hDistinct
    by_cases hCaller : e.caller? = some caller
    · cases e with
      | get c authority =>
          cases hCaller
          have hUnseen :=
            run_unseen settings now hDistinct.split.1
          rcases hUnseen.called hMove with hSettled | hAwaits
          · exact Or.inr (Or.inr hSettled)
          · exact Or.inr (Or.inl hAwaits)
      | _ => cases hCaller
    · rcases ih hDistinct.of_append with
        hUnseen | ⟨n, hAwaits⟩ | ⟨o, hSettled⟩
      · exact Or.inl (hUnseen.move hMove hCaller)
      · rcases hAwaits.move hMove hCaller with
          hStill | ⟨d, _, hLeft⟩ | ⟨_, _, _, _, _, hServed⟩
        · exact Or.inr (Or.inl ⟨n, hStill⟩)
        · exact Or.inr (Or.inr ⟨_, hLeft⟩)
        · exact Or.inr (Or.inr ⟨_, hServed⟩)
      · exact Or.inr (Or.inr ⟨o, hSettled.move hMove hCaller⟩)

/- A caller that waits for a fetch waits for no other. -/
theorem run_awaits
    {settings : DiscoverySettings}
    {now : Moment}
    {events : List Event}
    (hDistinct : DistinctCallers events)
    (hWaits :
      (caller, n) ∈ ((start settings now).run events).waiting) :
    ((start settings now).run events).Awaits caller n := by
  rcases run_caller_cases settings now hDistinct caller with
    hUnseen | ⟨m, hAwaits⟩ | ⟨o, hSettled⟩
  · exact absurd ⟨n, hWaits⟩ hUnseen.away
  · rw [(hAwaits.waits n).mp hWaits]
    exact hAwaits
  · exact absurd ⟨n, hWaits⟩ hSettled.away

end Exchange

end KeyAssertion
