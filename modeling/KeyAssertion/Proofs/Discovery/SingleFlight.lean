import Mathlib.Data.List.Nodup
import KeyAssertion.Proofs.Discovery.Callers
import KeyAssertion.Proofs.Discovery.Requests

/-
  One fetch at a time for each authority: in every run there is
  at most one unanswered request for an authority, requests are
  sent only when they are needed, and the callers of the same
  fetch come to the same outcome, whether they wait for it or
  come when it has landed and its callback is still to be called.

  Key definitions include:
    * `Exchange.SingleFlight`

  Key theorems include:
    * `Exchange.unanswered_unique`
    * `Exchange.request_needed`
    * `Exchange.Consistent.finished`
    * `Exchange.Consistent.told_late`
    * `Exchange.waiting_share`
    * `Exchange.run_singleFlight`
-/

namespace KeyAssertion

namespace Exchange

/-
  What one fetch at a time means for a run.  The cache lists a
  fetch from the call that starts it until its callback.  A
  caller of a fetch that neither leaves nor still waits after
  some later events has come to the result that all callers of
  the fetch have come to.
-/
structure SingleFlight
    (x : Exchange)
    (events : List Event) : Prop where
  oneUnanswered :
    ∀ r r',
      x.Unanswered events r → x.Unanswered events r' →
        r.authority = r'.authority → r = r'
  unanswered :
    ∀ r,
      x.Unanswered events r →
        (x.run events).Pending ⟨r.fetch, r.authority⟩
  sentOnce :
    ((x.run events).requests.map SentRequest.fetch).Nodup
  sentIfNeeded :
    ∀ e r,
      r ∈ ((x.run events).step e).1.requests →
        r ∉ (x.run events).requests →
          ∃ caller authority,
            e = .get caller authority ∧
              Authority.normalize authority = .ok r.authority ∧
              (∀ entry,
                (x.run events).cache.entries.lookup r.authority =
                    some entry →
                  ¬ (x.run events).now <
                    entry.document.expiresAt) ∧
              (x.run events).cache.inFlight.lookup
                r.authority = none ∧
              ∀ f ∈ (x.run events).running,
                f.authority ≠ r.authority
  listAgrees :
    ∀ key n,
      (x.run events).cache.inFlight.lookup key = some n ↔
        ⟨n, key⟩ ∈ (x.run events).running
  awaited :
    ∀ w ∈ (x.run events).waiting,
      ∃ f ∈ (x.run events).running, f.number = w.2
  finished :
    ∀ f result,
      (x.run events).Landed f result →
        (x.run (events ++ [.finish f.number])).cache.inFlight.lookup
            f.authority = none ∧
          ∀ caller,
            (caller, f.number) ∉
              (x.run (events ++ [.finish f.number])).waiting
  told :
    ∀ f result caller,
      (x.run events).Landed f result →
        (caller, f.number) ∈ (x.run events).waiting →
          (x.run (events ++ [.finish f.number])).outcome? caller =
            some ⟨some f.number, result⟩
  late :
    ∀ f result caller authority,
      (x.run events).Landed f result →
        Authority.normalize authority = .ok f.authority →
          (x.run events).cache.fresh? (x.run events).now
              f.authority = none →
            ((x.run events).step (.get caller authority)).1 =
              (x.run events).settle caller ⟨some f.number, result⟩
  shared :
    ∀ later n,
      DistinctCallers (events ++ later) →
        (∀ caller,
          (caller, n) ∈ (x.run events).waiting →
            (∀ d, .leave caller d ∉ later) →
              (caller, n) ∈ (x.run (events ++ later)).waiting) ∨
        ∃ result, ∀ caller,
          (caller, n) ∈ (x.run events).waiting →
            (∀ d, .leave caller d ∉ later) →
              (x.run (events ++ later)).outcome? caller =
                some ⟨some n, result⟩
  sameOutcome :
    ∀ caller caller' o o' n,
      (caller, o) ∈ (x.run events).outcomes →
        (caller', o') ∈ (x.run events).outcomes →
          o.fetch = some n → o'.fetch = some n → o = o'

variable {settings : DiscoverySettings} {now : Moment}
variable {events : List Event}

/- Two unanswered requests for an authority are the same one. -/
theorem unanswered_unique
    {r r' : SentRequest}
    (h : (start settings now).Unanswered events r)
    (h' : (start settings now).Unanswered events r')
    (hAuthority : r.authority = r'.authority) :
    r = r' := by
  have hSame :=
    (run_consistent settings now events).eq_of_authority_eq
      (unanswered_pending h).1 (unanswered_pending h').1 hAuthority
  exact
    List.inj_on_of_nodup_map requests_nodup h.1 h'.1
      (congrArg Fetch.number hSame)

/- A new request is for an authority that has nothing to offer. -/
theorem request_needed
    {e : Event}
    {r : SentRequest}
    (hNew :
      r ∈ (((start settings now).run events).step e).1.requests)
    (hOld : r ∉ ((start settings now).run events).requests) :
    ∃ caller authority,
      e = .get caller authority ∧
        Authority.normalize authority = .ok r.authority ∧
        ((start settings now).run events).cache.fresh?
          ((start settings now).run events).now r.authority =
            none ∧
        ((start settings now).run events).cache.inFlight.lookup
          r.authority = none := by
  have hMove := step_move ((start settings now).run events) e
  generalize
    (((start settings now).run events).step e).1 = y at hNew hMove
  rcases hMove.fetches_cases with
    hSame | ⟨caller, authority, key, hEvent, hKey, hFresh, hFree,
      rfl⟩ | ⟨_, _, _, _, rfl⟩ | ⟨_, _, _, _, rfl⟩
  · rw [hSame.requests] at hNew
    exact absurd hNew hOld
  · rcases List.mem_append.mp hNew with hMem | hRequest
    · exact absurd hMem hOld
    · rcases (mem_requestOf_iff _ _ _).mp hRequest with ⟨_, _, rfl⟩
      exact ⟨caller, authority, hEvent, hKey, hFresh, hFree⟩
  · exact absurd hNew hOld
  · exact absurd hNew hOld

section Landed

variable {x : Exchange} {f : Fetch}
variable {result : Except CacheError DiscoveryDocument}

/- Its callback takes a fetch that has landed off the list. -/
theorem Consistent.finished
    (h : x.Consistent)
    (hLanded : x.Landed f result) :
    (x.step (.finish f.number)).1.cache.inFlight.lookup f.authority =
        none ∧
      ∀ caller,
        (caller, f.number) ∉ (x.step (.finish f.number)).1.waiting := by
  rw [h.eq_complete hLanded (step_move x _)]
  constructor
  · rw [h.lookup_inFlight_complete hLanded.1, if_pos rfl]
  · intro caller hWaits
    exact (mem_waiting_complete.mp hWaits).2 rfl

/- Until then calls that are not served an entry are told its result. -/
theorem Consistent.told_late
    (h : x.Consistent)
    (hLanded : x.Landed f result)
    {authority : Option String}
    (hKey : Authority.normalize authority = .ok f.authority)
    (hNoEntry : x.cache.fresh? x.now f.authority = none)
    (caller : Nat) :
    (x.step (.get caller authority)).1 =
      x.settle caller ⟨some f.number, result⟩ :=
  get_of_landed hKey hNoEntry (h.listed f hLanded.1) hLanded.2 caller

end Landed

/- A caller that waits goes on so or has the result of its fetch. -/
theorem waiting_or_ended
    {later : List Event}
    (hDistinct : DistinctCallers (events ++ later))
    {caller n : Nat}
    (hWaits :
      (caller, n) ∈ ((start settings now).run events).waiting)
    (hStays : ∀ d, .leave caller d ∉ later) :
    ((start settings now).run (events ++ later)).Awaits caller n ∨
      ∃ key result,
        (start settings now).Ended (events ++ later) ⟨n, key⟩
            result ∧
          ((start settings now).run (events ++ later)).Retired n ∧
          ((start settings now).run (events ++ later)).Settled
            caller ⟨some n, result⟩ := by
  have hConsistent := run_consistent settings now events
  have hAwaits := run_awaits hDistinct.of_append hWaits
  have hQuiet := quiet_of_waits hDistinct ⟨n, hWaits⟩
  rw [run_append]
  rcases hAwaits.run hConsistent hQuiet with
    hStill | ⟨d, hLeft, _⟩ |
      ⟨f, result, rfl, hComes, hRetired, hSettled⟩
  · exact Or.inl hStill
  · exact absurd hLeft (hStays d)
  · refine Or.inr
      ⟨f.authority, result, ?_, hRetired, hSettled⟩
    rcases hComes with hLanded | hEnded
    · exact (landed_ended hLanded).append later
    · exact hEnded.of_run

/-
  The callers that wait for a fetch all go on to wait, as long
  as they do not leave, or all come to its one result.
-/
theorem waiting_share
    {later : List Event}
    (hDistinct : DistinctCallers (events ++ later))
    (n : Nat) :
    (∀ caller,
      (caller, n) ∈ ((start settings now).run events).waiting →
        (∀ d, .leave caller d ∉ later) →
          ((start settings now).run (events ++ later)).Awaits
            caller n) ∨
    ∃ result, ∀ caller,
      (caller, n) ∈ ((start settings now).run events).waiting →
        (∀ d, .leave caller d ∉ later) →
          ((start settings now).run (events ++ later)).Settled
            caller ⟨some n, result⟩ := by
  have hStart := Consistent.of_start settings now
  by_cases hOver :
      ∃ key result,
        (start settings now).Ended (events ++ later) ⟨n, key⟩ result ∧
          ((start settings now).run (events ++ later)).Retired n
  · rcases hOver with ⟨key, result, hEnded, hRetired⟩
    refine Or.inr ⟨result, ?_⟩
    intro caller hWaits hStays
    rcases waiting_or_ended hDistinct hWaits hStays with
      hStill | ⟨key', result', hEnded', _, hSettled⟩
    · -- The fetch of a caller that still waits is not over.
      have hWaiting := (hStill.waits n).mpr rfl
      rcases (run_consistent _ _ _).awaited _ hWaiting with
        ⟨f, hRuns, hNumber⟩
      exact absurd hNumber (hRetired.2 f hRuns)
    · rw [(hStart.ended_unique hEnded hEnded' rfl).2]
      exact hSettled
  · refine Or.inl ?_
    intro caller hWaits hStays
    rcases waiting_or_ended hDistinct hWaits hStays with
      hStill | ⟨key, result, hEnded, hRetired, _⟩
    · exact hStill
    · exact absurd ⟨key, result, hEnded, hRetired⟩ hOver

/- Every run keeps to one fetch at a time. -/
theorem run_singleFlight
    (settings : DiscoverySettings)
    (now : Moment)
    (events : List Event) :
    SingleFlight (start settings now) events := by
  have hConsistent := run_consistent settings now events
  refine
    ⟨?_, fun _ => unanswered_pending, requests_nodup, ?_,
      hConsistent.listed_iff, hConsistent.awaited, ?_, ?_, ?_, ?_, ?_⟩
  · intro r r' h h' hAuthority
    exact unanswered_unique h h' hAuthority
  · intro e r hNew hOld
    rcases request_needed hNew hOld with
      ⟨caller, authority, hEvent, hKey, hFresh, hFree⟩
    exact
      ⟨caller, authority, hEvent, hKey,
        (DiscoveryCache.fresh?_eq_none_iff _ _ _).mp hFresh, hFree,
        (hConsistent.free_iff _).mp hFree⟩
  · intro f result hLanded
    rw [run_concat]
    exact hConsistent.finished hLanded
  · intro f result caller hLanded hWaits
    rw [hConsistent.eq_complete hLanded (run_move _ _ _)]
    exact outcome?_complete hWaits result
  · intro f result caller authority hLanded hKey hNoEntry
    exact hConsistent.told_late hLanded hKey hNoEntry caller
  · intro later n hDistinct
    rcases waiting_share hDistinct n with hAll | ⟨result, hAll⟩
    · refine Or.inl ?_
      intro caller hWaits hStays
      exact ((hAll caller hWaits hStays).waits n).mpr rfl
    · refine Or.inr ⟨result, ?_⟩
      intro caller hWaits hStays
      exact (hAll caller hWaits hStays).outcome?_eq
  · intro caller caller' o o' n hOutcome hOutcome' hFetch hFetch'
    rcases outcome_ended hOutcome hFetch with ⟨key, hEnded⟩
    rcases outcome_ended hOutcome' hFetch' with ⟨key', hEnded'⟩
    have hResult :=
      ((Consistent.of_start settings now).ended_unique hEnded
        hEnded' rfl).2
    rcases o with ⟨fetch, result⟩
    rcases o' with ⟨fetch', result'⟩
    cases hFetch
    cases hFetch'
    cases hResult
    rfl

end Exchange

end KeyAssertion
