import KeyAssertion.Proofs.Discovery.Consistency

/-
  What a run leaves behind comes from single moments of it:
  every entry and every outcome is the result of one fetch that
  came to it once, and is the only result of that fetch.

  Key definitions include:
    * `Exchange.Happened`
    * `Exchange.Decided`
    * `Exchange.Retired`
    * `Exchange.Ended`
    * `Exchange.ComesTo`

  Key theorems include:
    * `Exchange.happened_concat_iff`
    * `Exchange.Move.running_cases`
    * `Exchange.Move.pending_cases`
    * `Exchange.Move.landed_cases`
    * `Exchange.Landed.move`
    * `Exchange.Landed.run`
    * `Exchange.run_numbers`
    * `Exchange.Ended.dated`
    * `Exchange.Consistent.comesTo_of_landed`
    * `Exchange.run_entry`
    * `Exchange.Consistent.ended_decided`
    * `Exchange.Consistent.ended_unique`
    * `Exchange.entry_ended`
    * `Exchange.landed_ended`
    * `Exchange.outcome_ended`
-/

namespace KeyAssertion

namespace Exchange

------------------------------------------------------------
-- Moments of a Run
------------------------------------------------------------

/- At some moment of a run, a state met an event in a certain way. -/
def Happened
    (x : Exchange)
    (events : List Event)
    (Q : Exchange → Event → Prop) : Prop :=
  ∃ before e after,
    events = before ++ e :: after ∧ Q (x.run before) e

variable {x : Exchange}
variable {Q : Exchange → Event → Prop}

/- Nothing has happened in the empty run. -/
theorem not_happened_nil : ¬ x.Happened [] Q := by
  rintro ⟨before, e, after, hEvents, _⟩
  cases before <;> cases hEvents

/- What has happened stays so. -/
theorem Happened.append
    {es : List Event}
    (h : x.Happened es Q)
    (fs : List Event) :
    x.Happened (es ++ fs) Q := by
  rcases h with ⟨before, e, after, rfl, hQ⟩
  refine ⟨before, e, after ++ fs, ?_, hQ⟩
  rw [List.append_assoc]
  rfl

/- What happened by an event happened before it or at it. -/
theorem happened_concat_iff
    (es : List Event)
    (e : Event) :
    x.Happened (es ++ [e]) Q ↔
      x.Happened es Q ∨ Q (x.run es) e := by
  constructor
  · rintro ⟨before, e', after, hEvents, hQ⟩
    rcases List.eq_nil_or_concat after with
      rfl | ⟨after, last, rfl⟩
    · rcases List.append_inj' hEvents rfl with ⟨rfl, hLast⟩
      rw [List.singleton_inj.mp hLast]
      exact Or.inr hQ
    · have hSplit :
          es ++ [e] = (before ++ e' :: after) ++ [last] := by
        rw [hEvents, List.concat_eq_append, List.append_assoc]
        rfl
      have hEs := (List.append_inj' hSplit rfl).1
      exact Or.inl ⟨before, e', after, hEs, hQ⟩
  · rintro (hBefore | hQ)
    · exact hBefore.append [e]
    · exact ⟨es, e, [], rfl, hQ⟩

/- What happens in the last part of a run happens in it. -/
theorem Happened.of_run
    {es fs : List Event}
    (h : (x.run es).Happened fs Q) :
    x.Happened (es ++ fs) Q := by
  rcases h with ⟨before, e, after, rfl, hQ⟩
  refine ⟨es ++ before, e, after, ?_, ?_⟩
  · rw [List.append_assoc]
  · rw [run_append]
    exact hQ

------------------------------------------------------------
-- Fetches and Single Events
------------------------------------------------------------

variable {y : Exchange} {e : Event} {f : Fetch} {n : Nat}
variable {result : Except CacheError DiscoveryDocument}

/- Numbers are only added to. -/
theorem Move.nextFetch_le
    (hMove : Move x e y) :
    x.cache.nextFetch ≤ y.cache.nextFetch := by
  rcases hMove.fetches_cases with
    hSame | ⟨_, _, _, _, _, _, _, rfl⟩ | ⟨_, _, _, _, rfl⟩ |
      ⟨_, _, _, _, rfl⟩
  · exact Nat.le_of_eq hSame.nextFetch.symm
  · exact Nat.le_succ _
  · exact Nat.le_of_eq (nextFetch_conclude _ _ _).symm
  · exact Nat.le_of_eq (nextFetch_complete _ _ _).symm

/- A fetch that runs after an event ran before it or starts. -/
theorem Move.running_cases
    (hMove : Move x e y)
    (hRuns : f ∈ y.running) :
    f ∈ x.running ∨ f.number = x.cache.nextFetch := by
  rcases hMove.fetches_cases with
    hSame | ⟨_, _, _, _, _, _, _, rfl⟩ | ⟨_, _, _, _, rfl⟩ |
      ⟨_, _, _, _, rfl⟩
  · rw [hSame.running] at hRuns
    exact Or.inl hRuns
  · rcases List.mem_append.mp hRuns with hOld | hNew
    · exact Or.inl hOld
    · rw [List.mem_singleton.mp hNew]
      exact Or.inr rfl
  · exact Or.inl hRuns
  · exact Or.inl (mem_running_complete.mp hRuns).1

/- A result after an event was there or is that of a reply. -/
theorem Move.result_cases
    (hMove : Move x e y)
    (hResult : y.result? n = some result) :
    x.result? n = some result ∨
      ∃ f reply,
        x.Pending f ∧ f.number = n ∧ e = .answer n reply ∧
          result = x.resultOf f reply := by
  rcases hMove.fetches_cases with
    hSame | ⟨_, _, _, _, _, _, _, rfl⟩ | ⟨f, reply, hOpen, rfl, rfl⟩ |
      ⟨f, _, _, _, rfl⟩
  · unfold result? at hResult ⊢
    rw [hSame.results] at hResult
    exact Or.inl hResult
  · exact Or.inl hResult
  · by_cases hNumber : f.number = n
    · subst hNumber
      rw [result?_conclude_self] at hResult
      exact Or.inr
        ⟨f, reply, hOpen, rfl, rfl, (Option.some.inj hResult).symm⟩
    · rw [result?_conclude_of_ne x f reply (Ne.symm hNumber)] at hResult
      exact Or.inl hResult
  · by_cases hNumber : n = f.number
    · have hNone :=
        KeyedList.lookup_filter_self f.number x.results
      subst hNumber
      exact absurd (hNone.symm.trans hResult) nofun
    · rw [result?_complete_of_ne x f _ hNumber] at hResult
      exact Or.inl hResult

/- A result stays until the callback of its fetch. -/
theorem Landed.move
    (hLanded : x.Landed f result)
    (hConsistent : x.Consistent)
    (hMove : Move x e y) :
    y.Landed f result ∨
      (e = .finish f.number ∧ y = x.complete f result) := by
  rcases hMove.fetches_cases with
    hSame | ⟨_, _, _, _, _, _, _, rfl⟩ | ⟨g, reply, hOpen, _, rfl⟩ |
      ⟨g, other, hOther, rfl, rfl⟩
  · refine Or.inl ⟨?_, ?_⟩
    · rw [hSame.running]
      exact hLanded.1
    · unfold result?
      rw [hSame.results]
      exact hLanded.2
  · exact Or.inl ⟨List.mem_append_left _ hLanded.1, hLanded.2⟩
  · have hNe : f.number ≠ g.number := by
      intro hNumber
      have hThere := hLanded.2
      rw [hNumber, hOpen.2] at hThere
      cases hThere
    refine Or.inl ⟨hLanded.1, ?_⟩
    rw [result?_conclude_of_ne x g reply hNe]
    exact hLanded.2
  · by_cases hNumber : f.number = g.number
    · have hSame := hConsistent.distinct f hLanded.1 g hOther.1 hNumber
      subst hSame
      have hResults := hLanded.2.symm.trans hOther.2
      rw [Option.some.inj hResults]
      exact Or.inr ⟨rfl, rfl⟩
    · refine Or.inl
        ⟨mem_running_complete.mpr ⟨hLanded.1, hNumber⟩, ?_⟩
      rw [result?_complete_of_ne x g other hNumber]
      exact hLanded.2

/- It stays in every run without this callback. -/
theorem Landed.run
    (hLanded : x.Landed f result)
    (hConsistent : x.Consistent)
    {later : List Event}
    (hOpen : .finish f.number ∉ later) :
    (x.run later).Landed f result := by
  revert hOpen
  refine run_induction
    (P := fun es y => .finish f.number ∉ es → y.Landed f result)
    ?_ ?_ later
  · intro _
    exact hLanded
  · intro es e y ih hMove hOpen
    have hEarlier := ih fun hMem =>
      hOpen (List.mem_append_left [e] hMem)
    rcases hEarlier.move (hConsistent.run es) hMove with
      hStill | ⟨rfl, _⟩
    · exact hStill
    · exact absurd (by simp) hOpen

/- A fetch that has landed had before or comes to its result now. -/
theorem Move.landed_cases
    (hMove : Move x e y)
    (hConsistent : x.Consistent)
    (hLanded : y.Landed f result) :
    x.Landed f result ∨
      ∃ reply,
        e = .answer f.number reply ∧ x.Pending f ∧
          result = x.resultOf f reply := by
  rcases hMove.result_cases hLanded.2 with
    hOld | ⟨g, reply, hPending, hNumber, hEvent, hNew⟩
  · rcases hMove.running_cases hLanded.1 with hRan | hStarts
    · exact Or.inl ⟨hRan, hOld⟩
    · -- A fetch that starts has no result.
      have hNone :=
        hConsistent.result?_eq_none_of_le (Nat.le_of_eq hStarts.symm)
      exact absurd (hNone.symm.trans hOld) nofun
  · rcases hMove.running_cases hLanded.1 with hRan | hStarts
    · have hSame :=
        hConsistent.distinct g hPending.1 f hRan hNumber
      subst hSame
      exact Or.inr ⟨reply, hEvent, hPending, hNew⟩
    · have hBegun := hConsistent.begun g hPending.1
      rw [hNumber, hStarts] at hBegun
      exact absurd hBegun (Nat.lt_irrefl _)

/- A pending fetch was pending before an event or starts. -/
theorem Move.pending_cases
    (hMove : Move x e y)
    (hPending : y.Pending f) :
    x.Pending f ∨ f.number = x.cache.nextFetch := by
  rcases hMove.running_cases hPending.1 with hOld | hNew
  · refine Or.inl ⟨hOld, ?_⟩
    have hOpen := hPending.2
    rcases hMove.fetches_cases with
      hSame | ⟨_, _, _, _, _, _, _, rfl⟩ | ⟨g, reply, _, _, rfl⟩ |
        ⟨g, _, _, _, rfl⟩
    · unfold result? at hOpen ⊢
      rw [hSame.results] at hOpen
      exact hOpen
    · exact hOpen
    · by_cases hNumber : f.number = g.number
      · rw [hNumber, result?_conclude_self] at hOpen
        cases hOpen
      · rw [result?_conclude_of_ne x g reply hNumber] at hOpen
        exact hOpen
    · have hNumber := (mem_running_complete.mp hPending.1).2
      rw [result?_complete_of_ne x g _ hNumber] at hOpen
      exact hOpen
  · exact Or.inr hNew

/- A number that was given to a fetch, which is not pending. -/
def Decided
    (x : Exchange)
    (n : Nat) : Prop :=
  n < x.cache.nextFetch ∧ ∀ f, x.Pending f → f.number ≠ n

/- A number that was given to a fetch, which runs no more. -/
def Retired
    (x : Exchange)
    (n : Nat) : Prop :=
  n < x.cache.nextFetch ∧ ∀ f ∈ x.running, f.number ≠ n

/- What has been decided stays so. -/
theorem Decided.move
    (h : x.Decided n)
    (hMove : Move x e y) :
    y.Decided n := by
  refine ⟨Nat.lt_of_lt_of_le h.1 hMove.nextFetch_le, ?_⟩
  intro f hPending
  rcases hMove.pending_cases hPending with hOld | hNew
  · exact h.2 f hOld
  · rw [hNew]
    exact Nat.ne_of_gt h.1

/- Numbers are not given again. -/
theorem Retired.move
    (h : x.Retired n)
    (hMove : Move x e y) :
    y.Retired n := by
  refine ⟨Nat.lt_of_lt_of_le h.1 hMove.nextFetch_le, ?_⟩
  intro f hRuns
  rcases hMove.running_cases hRuns with hOld | hNew
  · exact h.2 f hOld
  · rw [hNew]
    exact Nat.ne_of_gt h.1

/- The result of a fetch that is answered is decided. -/
theorem Consistent.decided_conclude
    (h : x.Consistent)
    (hRuns : f ∈ x.running)
    (reply : HttpReply) :
    (x.conclude f reply).Decided f.number := by
  refine ⟨?_, ?_⟩
  · rw [nextFetch_conclude]
    exact h.begun f hRuns
  · intro g hPending hNumber
    have hOpen := hPending.2
    rw [hNumber, result?_conclude_self] at hOpen
    cases hOpen

/- The number of a fetch whose callback is called is retired. -/
theorem Consistent.retired_complete
    (h : x.Consistent)
    (hRuns : f ∈ x.running)
    (result : Except CacheError DiscoveryDocument) :
    (x.complete f result).Retired f.number := by
  refine ⟨?_, ?_⟩
  · rw [nextFetch_complete]
    exact h.begun f hRuns
  · intro g hg
    exact (mem_running_complete.mp hg).2

------------------------------------------------------------
-- Fetches Since a Moment
------------------------------------------------------------

/-
  A pending fetch is answered and so comes to a result in a run.
-/
def Ended
    (x : Exchange)
    (events : List Event)
    (f : Fetch)
    (result : Except CacheError DiscoveryDocument) : Prop :=
  x.Happened events fun y e =>
    ∃ reply,
      e = .answer f.number reply ∧ y.Pending f ∧
        result = y.resultOf f reply

/- A fetch has landed or comes to its result in a run. -/
def ComesTo
    (x : Exchange)
    (events : List Event)
    (f : Fetch)
    (result : Except CacheError DiscoveryDocument) : Prop :=
  x.Landed f result ∨ x.Ended events f result

/- What a fetch has come to it has come to ever after. -/
theorem ComesTo.append
    {es : List Event}
    (h : x.ComesTo es f result)
    (fs : List Event) :
    x.ComesTo (es ++ fs) f result :=
  h.imp_right fun hEnded => Happened.append hEnded fs

/- Fetches that start after a moment have later numbers. -/
theorem run_numbers
    (x : Exchange)
    (later : List Event) :
    x.cache.nextFetch ≤ (x.run later).cache.nextFetch ∧
      ∀ f,
        f.number < x.cache.nextFetch →
          (f ∈ (x.run later).running → f ∈ x.running) ∧
            ((x.run later).Pending f → x.Pending f) := by
  refine run_induction
    (P := fun _ y =>
      x.cache.nextFetch ≤ y.cache.nextFetch ∧
        ∀ f,
          f.number < x.cache.nextFetch →
            (f ∈ y.running → f ∈ x.running) ∧
              (y.Pending f → x.Pending f))
    ?_ ?_ later
  · refine ⟨Nat.le_refl _, ?_⟩
    intro f _
    exact ⟨id, id⟩
  · intro es e y ih hMove
    refine ⟨Nat.le_trans ih.1 hMove.nextFetch_le, ?_⟩
    intro f hOld
    have hNotNew : f.number ≠ (x.run es).cache.nextFetch :=
      Nat.ne_of_lt (Nat.lt_of_lt_of_le hOld ih.1)
    constructor
    · intro hRuns
      exact (ih.2 f hOld).1
        ((hMove.running_cases hRuns).resolve_right hNotNew)
    · intro hPending
      exact (ih.2 f hOld).2
        ((hMove.pending_cases hPending).resolve_right hNotNew)

/- A fetch that ends and has an earlier number was pending before. -/
theorem Ended.pending
    {later : List Event}
    (hEnded : x.Ended later f result)
    (hOld : f.number < x.cache.nextFetch) :
    x.Pending f := by
  rcases hEnded with ⟨before, _, _, _, _, _, hPending, _⟩
  exact ((x.run_numbers before).2 f hOld).2 hPending

/- The document of a fetch is for its authority and dated then. -/
theorem Ended.dated
    {later : List Event}
    {document : DiscoveryDocument}
    (hEnded : x.Ended later f (.ok document)) :
    document.authority = f.authority ∧
      ∃ first second,
        later = first ++ second ∧
          document.fetchedAt = (x.run first).now := by
  rcases hEnded with
    ⟨first, e, second, rfl, reply, _, _, hResult⟩
  rcases (resultOf_eq_ok_iff _ _ _ _).mp hResult.symm with
    ⟨m, _, hDocument⟩
  rcases (DiscoveryCache.document_eq_ok_iff _ _ _ _ _).mp
      hDocument with
    ⟨hAuthority, _, hFetched, _⟩
  exact ⟨hAuthority, first, e :: second, rfl, hFetched⟩

/- A fetch that has landed after a run came to its result. -/
theorem Consistent.comesTo_of_landed
    (h : x.Consistent)
    {later : List Event}
    (hLanded : (x.run later).Landed f result) :
    x.ComesTo later f result := by
  revert hLanded
  refine run_induction
    (P := fun es y => y.Landed f result → x.ComesTo es f result)
    ?_ ?_ later
  · intro hLanded
    exact Or.inl hLanded
  · intro es e y ih hMove hLanded
    rcases hMove.landed_cases (h.run es) hLanded with hOld | hNew
    · exact (ih hOld).append [e]
    · exact Or.inr ((happened_concat_iff es e).mpr (Or.inr hNew))

/- An entry after a run was there before or comes from a fetch. -/
theorem run_entry
    (x : Exchange)
    {later : List Event}
    {key : String}
    {entry : CachedDocument}
    (hEntry : (key, entry) ∈ (x.run later).cache.entries) :
    (key, entry) ∈ x.cache.entries ∨
      x.Ended later ⟨entry.fetch, key⟩ (.ok entry.document) := by
  revert hEntry
  refine run_induction
    (P := fun es y =>
      (key, entry) ∈ y.cache.entries →
        (key, entry) ∈ x.cache.entries ∨
          x.Ended es ⟨entry.fetch, key⟩ (.ok entry.document))
    ?_ ?_ later
  · intro hEntry
    exact Or.inl hEntry
  · intro es e y ih hMove hEntry
    rcases hMove.entries_cases with
      hSame | ⟨f, reply, hPending, rfl, rfl⟩ |
        ⟨_, other, _, _, hDrop⟩ | ⟨_, hEmpty⟩
    · rw [hSame] at hEntry
      exact (ih hEntry).imp_right fun h => h.append [e]
    · rcases DiscoveryCache.mem_entries_store _ _ _ _ _
          hEntry with
        ⟨d, hResult, hNew⟩ | hOld
      · cases hNew
        apply Or.inr
        apply (happened_concat_iff es _).mpr
        exact Or.inr ⟨reply, rfl, hPending, hResult.symm⟩
      · exact (ih hOld).imp_right fun h => h.append [_]
    · rw [hDrop] at hEntry
      have hOld := ((KeyedList.mem_drop_iff _ _ _).mp hEntry).1
      exact (ih hOld).imp_right fun h => h.append [e]
    · rw [hEmpty] at hEntry
      cases hEntry

variable {events : List Event} {g : Fetch}
variable {r s : Except CacheError DiscoveryDocument}

/- A fetch that has ended is not pending again. -/
theorem Consistent.ended_decided
    (h : x.Consistent)
    (hEnded : x.Ended events f r) :
    (x.run events).Decided f.number := by
  revert hEnded
  refine run_induction
    (P := fun es y => x.Ended es f r → y.Decided f.number)
    ?_ ?_ events
  · intro hNone
    exact absurd hNone not_happened_nil
  · intro es e y ih hMove hSome
    rcases (happened_concat_iff es e).mp hSome with
      hOld | ⟨reply, rfl, hPending, _⟩
    · exact (ih hOld).move hMove
    · rw [(h.run es).eq_conclude hPending hMove]
      exact (h.run es).decided_conclude hPending.1 reply

/- A fetch ends once and with one result. -/
theorem Consistent.ended_unique
    (h : x.Consistent)
    (hF : x.Ended events f r)
    (hG : x.Ended events g s)
    (hNumber : f.number = g.number) :
    f = g ∧ r = s := by
  induction events using List.reverseRecOn with
  | nil => exact absurd hF not_happened_nil
  | append_singleton es e ih =>
      rcases (happened_concat_iff es e).mp hF with
        hOldF | ⟨reply, rfl, hOpenF, hR⟩
      · rcases (happened_concat_iff es e).mp hG with
          hOldG | ⟨_, _, hOpenG, _⟩
        · exact ih hOldF hOldG
        · exact absurd hNumber.symm
            ((h.ended_decided hOldF).2 g hOpenG)
      · rcases (happened_concat_iff es _).mp hG with
          hOldG | ⟨reply', hEvent, hOpenG, hS⟩
        · exact absurd hNumber
            ((h.ended_decided hOldG).2 f hOpenF)
        · have hSame :=
            (h.run es).distinct f hOpenF.1 g hOpenG.1 hNumber
          subst hSame
          cases hEvent
          exact ⟨rfl, by rw [hR, hS]⟩

------------------------------------------------------------
-- Entries and Outcomes
------------------------------------------------------------

section Start

variable {settings : DiscoverySettings} {now : Moment}

/- Every entry is the document of a fetch for its key. -/
theorem entry_ended
    {key : String}
    {entry : CachedDocument}
    (hEntry :
      (key, entry) ∈
        ((start settings now).run events).cache.entries) :
    (start settings now).Ended events ⟨entry.fetch, key⟩
      (.ok entry.document) := by
  rcases run_entry _ hEntry with hOld | hEnded
  · cases hOld
  · exact hEnded

/- A fetch that has landed ended with its result. -/
theorem landed_ended
    (hLanded : ((start settings now).run events).Landed f result) :
    (start settings now).Ended events f result := by
  have hStart := Consistent.of_start settings now
  rcases hStart.comesTo_of_landed hLanded with hNone | hEnded
  · cases hNone.1
  · exact hEnded

/- A fetch that ended and still runs has landed with its result. -/
theorem landed_of_ended
    (hEnded : (start settings now).Ended events f result)
    (hRuns : f ∈ ((start settings now).run events).running) :
    ((start settings now).run events).Landed f result := by
  have hStart := Consistent.of_start settings now
  rcases pending_or_landed hRuns with hPending | ⟨other, hLanded⟩
  · exact absurd rfl ((hStart.ended_decided hEnded).2 f hPending)
  · rw [(hStart.ended_unique hEnded (landed_ended hLanded) rfl).2]
    exact hLanded

/- Every result is that of a fetch that ended. -/
theorem result_ended
    (hResult :
      ((start settings now).run events).result? n = some result) :
    ∃ key, (start settings now).Ended events ⟨n, key⟩ result := by
  have hConsistent := run_consistent settings now events
  rcases hConsistent.landed n result hResult with ⟨f, hRuns, rfl⟩
  exact ⟨f.authority, landed_ended ⟨hRuns, hResult⟩⟩

/- Every outcome that comes from a fetch is its result. -/
theorem outcome_ended
    {caller : Nat}
    {outcome : Outcome}
    (hOutcome :
      (caller, outcome) ∈
        ((start settings now).run events).outcomes)
    (hFetch : outcome.fetch = some n) :
    ∃ key,
      (start settings now).Ended events ⟨n, key⟩
        outcome.result := by
  revert hOutcome
  refine run_induction
    (P := fun es y =>
      (caller, outcome) ∈ y.outcomes →
        ∃ key,
          (start settings now).Ended es ⟨n, key⟩ outcome.result)
    ?_ ?_ events
  · intro hOutcome
    cases hOutcome
  · intro es e y ih hMove hOutcome
    have hEarlier :
        (caller, outcome) ∈
            ((start settings now).run es).outcomes →
          ∃ key,
            (start settings now).Ended (es ++ [e]) ⟨n, key⟩
              outcome.result := by
      intro hOld
      rcases ih hOld with ⟨key, hEnded⟩
      exact ⟨key, hEnded.append [e]⟩
    cases hMove with
    | faulty _ =>
        rcases List.mem_cons.mp hOutcome with hNew | hOld
        · cases hNew
          cases hFetch
        · exact hEarlier hOld
    | @hit _ _ key entry _ hLookup _ =>
        rcases List.mem_cons.mp hOutcome with hNew | hOld
        · cases hNew
          cases hFetch
          have hEntry := KeyedList.mem_of_lookup hLookup
          exact ⟨key, (entry_ended hEntry).append [_]⟩
        · exact hEarlier hOld
    | joined _ _ _ _ => exact hEarlier hOutcome
    | late _ _ _ hResult =>
        rcases List.mem_cons.mp hOutcome with hNew | hOld
        · cases hNew
          cases hFetch
          rcases result_ended hResult with ⟨key, hEnded⟩
          exact ⟨key, hEnded.append [_]⟩
        · exact hEarlier hOld
    | started _ _ _ => exact hEarlier hOutcome
    | @left _ d _ =>
        rcases List.mem_cons.mp hOutcome with hNew | hOld
        · cases hNew
          cases d <;> cases hFetch
        · exact hEarlier hOld
    | absent _ => exact hEarlier hOutcome
    | answered _ _ => exact hEarlier hOutcome
    | stray _ => exact hEarlier hOutcome
    | finished hLanded _ =>
        rcases mem_outcomes_complete.mp hOutcome with
          ⟨_, hNew⟩ | hOld
        · change outcome = _ at hNew
          subst hNew
          cases hFetch
          rcases result_ended hLanded.2 with ⟨key, hEnded⟩
          exact ⟨key, hEnded.append [_]⟩
        · exact hEarlier hOld
    | unfinished _ => exact hEarlier hOutcome
    | configured _ _ => exact hEarlier hOutcome
    | notConfigured _ => exact hEarlier hOutcome
    | invalidated _ => exact hEarlier hOutcome
    | notInvalidated _ => exact hEarlier hOutcome
    | cleared => exact hEarlier hOutcome
    | clockSet => exact hEarlier hOutcome

end Start

end Exchange

end KeyAssertion
