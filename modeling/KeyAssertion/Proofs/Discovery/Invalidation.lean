import KeyAssertion.Proofs.Discovery.Freshness
import KeyAssertion.Proofs.Discovery.Requests

/-
  What it does to forget an entry: a later call is served no
  document that was asked for before, unless a fetch is under
  way at that moment, which later calls join, even if it has
  landed and only its callback is still to be called.

  Key definitions include:
    * `Exchange.Forgets`
    * `Exchange.TakesEffect`

  Key theorems include:
    * `Exchange.Consistent.entry_absent`
    * `Exchange.Consistent.joins`
    * `Exchange.served_old_brought`
    * `Exchange.takesEffect_of_free`
    * `Exchange.brought_served`
    * `Exchange.takesEffect_iff`
-/

namespace KeyAssertion

namespace Exchange

------------------------------------------------------------
-- Forgetting
------------------------------------------------------------

/- An event makes the cache forget the document of a key. -/
def Forgets (key : String) : Event → Prop
  | .invalidate authority => Authority.normalize authority = .ok key
  | .clear => True
  | _ => False

/-
  After an event, no call for a key is served a document whose
  request was sent before the event.
-/
def TakesEffect
    (x : Exchange)
    (before : List Event)
    (e : Event)
    (key : String) : Prop :=
  ∀ middle caller authority after fetch document,
    Authority.normalize authority = .ok key →
      Quiet (before ++ e :: middle ++ after) caller →
        (x.run
          (before ++ e :: middle ++
            .get caller authority :: after)).outcome? caller =
              some ⟨fetch, .ok document⟩ →
          ∀ r ∈ (x.run before).requests, fetch ≠ some r.fetch

variable {x y : Exchange} {e : Event} {key : String}

/- To forget a document changes no fetch. -/
theorem Move.sameFetches_of_forgets
    (hMove : Move x e y)
    (hForgets : Forgets key e) :
    SameFetches x y := by
  rcases hMove.fetches_cases with
    hSame | ⟨_, _, _, rfl, _⟩ | ⟨_, _, _, rfl, _⟩ | ⟨_, _, _, rfl, _⟩
  · exact hSame
  · exact hForgets.elim
  · exact hForgets.elim
  · exact hForgets.elim

/- A document that is forgotten is not there. -/
theorem Move.not_mem_of_forgets
    (hMove : Move x e y)
    (hForgets : Forgets key e)
    (entry : CachedDocument) :
    (key, entry) ∉ y.cache.entries := by
  intro hEntry
  cases hMove with
  | @invalidated authority other hOther =>
      have hSame : other = key := by
        have hKeys := hOther.symm.trans hForgets
        exact Except.ok.inj hKeys
      have hKept := (KeyedList.mem_drop_iff _ _ _).mp hEntry
      exact hKept.2 hSame.symm
  | notInvalidated hFault =>
      have hKeys := hFault.symm.trans hForgets
      cases hKeys
  | cleared => cases hEntry
  | _ => exact hForgets.elim

------------------------------------------------------------
-- While a Fetch Is Pending
------------------------------------------------------------

variable {later : List Event} {f : Fetch}

/-
  A key without an entry stays without one for as long as a
  fetch for it is pending.
-/
theorem Consistent.entry_absent
    (h : x.Consistent)
    (hNone : ∀ entry, (f.authority, entry) ∉ x.cache.entries)
    (hRuns : f ∈ x.running)
    (hPending : (x.run later).Pending f)
    (entry : CachedDocument) :
    (f.authority, entry) ∉ (x.run later).cache.entries := by
  intro hEntry
  rcases x.run_entry hEntry with hOld | hEnded
  · exact hNone entry hOld
  · have hDecided := h.ended_decided hEnded
    rcases hEnded with
      ⟨first, e, last, rfl, _, _, hOpen, _⟩
    -- Both fetches were pending when the other one ended.
    have hThere : (x.run first).Pending f := by
      have hBack :=
        ((x.run first).run_numbers (e :: last)).2 f
      rw [← run_append] at hBack
      refine (hBack ?_).2 hPending
      exact Nat.lt_of_lt_of_le (h.begun f hRuns)
        (x.run_numbers first).1
    have hSame :=
      (h.run first).eq_of_authority_eq hThere.1 hOpen.1 rfl
    exact hDecided.2 f hPending (congrArg Fetch.number hSame)

/- For as long, calls for the key join the fetch. -/
theorem Consistent.joins
    (h : x.Consistent)
    (hNone : ∀ entry, (f.authority, entry) ∉ x.cache.entries)
    (hRuns : f ∈ x.running)
    (hPending : (x.run later).Pending f)
    {authority : Option String}
    (hKey : Authority.normalize authority = .ok f.authority)
    (caller : Nat) :
    ((x.run later).step (.get caller authority)).1 =
      (x.run later).wait caller f.number := by
  have hListed := (h.run later).listed f hPending.1
  have hNoEntry :=
    KeyedList.lookup_eq_none_of_not_mem
      (h.entry_absent hNone hRuns hPending)
  exact
    get_of_pending hKey
      (DiscoveryCache.fresh?_eq_none_of_lookup hNoEntry _) hListed
      hPending.2 caller

------------------------------------------------------------
-- When Forgetting Takes Effect
------------------------------------------------------------

section Start

variable {settings : DiscoverySettings} {now : Moment}
variable {before : List Event}

/-
  An old document that is served after an event that forgets
  the key comes from a fetch that is under way at the event.
-/
theorem served_old_brought
    (hForgets : Forgets key e)
    {middle after : List Event}
    {caller n : Nat}
    {authority : Option String}
    {document : DiscoveryDocument}
    (hKey : Authority.normalize authority = .ok key)
    (hQuiet : Quiet (before ++ e :: middle ++ after) caller)
    (hServed :
      ((start settings now).run
        (before ++ e :: middle ++
          .get caller authority :: after)).outcome? caller =
            some ⟨some n, .ok document⟩)
    (hOld : n < ((start settings now).run before).cache.nextFetch) :
    ∃ later,
      ((start settings now).run (before ++ [e])).Brings later key
        n document := by
  have hMove := run_move (start settings now) before e
  have hConsistent := run_consistent settings now (before ++ [e])
  rcases call_served hQuiet hServed with
    ⟨other, m, hOther, hFetch, hCases⟩
  cases hKey.symm.trans hOther
  cases hFetch
  rw [List.append_assoc, List.cons_append,
    run_append_cons _ before e middle,
    run_append_cons _ before e (middle ++ [_])] at hCases
  rw [← (hMove.sameFetches_of_forgets hForgets).nextFetch] at hOld
  have hAbsent := hMove.not_mem_of_forgets hForgets
  generalize
    (start settings now).run (before ++ [e]) = x
      at hCases hOld hAbsent hConsistent ⊢
  rcases hCases with hOffers | hLanded | ⟨hPending, hEnded⟩
  · have hEntry := KeyedList.mem_of_lookup hOffers.1
    rcases x.run_entry hEntry with hThere | hEnded
    · exact absurd hThere (hAbsent _)
    · exact ⟨middle, (hEnded.pending hOld).1, Or.inr hEnded⟩
  · have hRuns := ((x.run_numbers middle).2 _ hOld).1 hLanded.1
    exact ⟨middle, hRuns, hConsistent.comesTo_of_landed hLanded⟩
  · have hOpen := ((x.run_numbers _).2 _ hOld).2 hPending
    refine
      ⟨middle ++ [.get caller authority] ++ after, hOpen.1,
        Or.inr ?_⟩
    exact hEnded.of_run

/- It takes effect where the cache lists no fetch for the key. -/
theorem takesEffect_of_free
    (hForgets : Forgets key e)
    (hFree :
      ((start settings now).run before).cache.inFlight.lookup key =
        none) :
    (start settings now).TakesEffect before e key := by
  intro middle caller authority after fetch document hKey hQuiet
    hServed r hSent hFetch
  subst hFetch
  rcases served_old_brought hForgets hKey hQuiet hServed
      (request_numbered hSent) with
    ⟨later, hRuns, _⟩
  have hMove := run_move (start settings now) before e
  rw [(hMove.sameFetches_of_forgets hForgets).running] at hRuns
  have hConsistent := run_consistent settings now before
  exact (hConsistent.free_iff key).mp hFree _ hRuns rfl

/-
  If a fetch that is under way at an event that forgets the key
  brings a document, a call after the event may be served it.
-/
theorem brought_served
    (hForgets : Forgets key e)
    {n : Nat}
    {document : DiscoveryDocument}
    (hBrings :
      ((start settings now).run (before ++ [e])).Brings later key
        n document) :
    ∃ middle caller authority after,
      Authority.normalize authority = .ok key ∧
        Quiet (before ++ e :: middle ++ after) caller ∧
        ((start settings now).run
          (before ++ e :: middle ++
            .get caller authority :: after)).outcome? caller =
              some ⟨some n, .ok document⟩ := by
  have hMove := run_move (start settings now) before e
  have hConsistent := run_consistent settings now (before ++ [e])
  have hAbsent := hMove.not_mem_of_forgets hForgets
  rcases hBrings with ⟨hRuns, hLanded | hEnded⟩
  · -- A call right after the event joins a fetch that has landed.
    rcases running_called hRuns with ⟨_, authority, _, hKey⟩
    rcases exists_quiet (before ++ [e]) with ⟨caller, hQuiet⟩
    refine ⟨[], caller, authority, [], hKey, ?_, ?_⟩
    · rw [List.append_nil]
      exact hQuiet
    · have hUnseen := run_unseen settings now hQuiet
      have hNoEntry := KeyedList.lookup_eq_none_of_not_mem hAbsent
      have hLate :=
        get_of_landed hKey
          (DiscoveryCache.fresh?_eq_none_of_lookup hNoEntry _)
          (hConsistent.listed _ hRuns) hLanded.2 caller
      rw [run_concat]
      change
        (((start settings now).run (before ++ [e])).get caller
          authority).outcome? caller = _
      rw [hLate]
      exact (hUnseen.settle _).outcome?_eq
  · rcases hEnded with
      ⟨middle, _, rest, rfl, reply, rfl, hPending, hResult⟩
    rcases running_called hRuns with ⟨_, authority, _, hKey⟩
    rcases exists_quiet (before ++ e :: middle) with
      ⟨caller, hQuiet⟩
    refine
      ⟨middle, caller, authority, [.answer n reply, .finish n], hKey,
        ?_, ?_⟩
    · refine quiet_append_iff.mpr ⟨hQuiet, ?_⟩
      simp [Quiet, Event.caller?]
    · have hUnseen := run_unseen settings now hQuiet
      rw [run_append_cons] at hUnseen
      rw [List.append_assoc, List.cons_append, run_append_cons,
        run_append, run_cons,
        hConsistent.joins hAbsent hRuns hPending hKey caller, hResult]
      have hLater := hConsistent.run middle
      have hJoined :=
        hLater.wait (hLater.listed _ hPending.1) caller
      exact
        hJoined.outcome?_answered hPending
          (((hUnseen.wait n).waits n).mpr rfl) reply

/-
  It takes effect to forget a key if and only if no fetch for
  it that is under way then has or comes to a document.
-/
theorem takesEffect_iff
    (settings : DiscoverySettings)
    (now : Moment)
    (before : List Event)
    {e : Event}
    {key : String}
    (hForgets : Forgets key e) :
    (start settings now).TakesEffect before e key ↔
      ∀ later n document,
        ¬ ((start settings now).run (before ++ [e])).Brings later
          key n document := by
  constructor
  · intro hEffect later n document hBrings
    have hMove := run_move (start settings now) before e
    have hSame := hMove.sameFetches_of_forgets hForgets
    rcases brought_served hForgets hBrings with
      ⟨middle, caller, authority, after, hKey, hQuiet, hServed⟩
    have hEnded :
        (start settings now).Ended (before ++ [e] ++ later) ⟨n, key⟩
          (.ok document) := by
      rcases hBrings.2 with hLanded | hEnded
      · exact (landed_ended hLanded).append later
      · exact hEnded.of_run
    rcases hEnded with ⟨_, _, _, _, reply, _, _, hResult⟩
    rcases (resultOf_eq_ok_iff _ _ _ _).mp hResult.symm with
      ⟨m, hFetch, _⟩
    rcases (Discovery.fetch_eq_ok_iff _ _ _).mp hFetch with
      ⟨u, _, _, hRequest, _⟩
    -- The request of this fetch had been sent at the event.
    have hRuns := hBrings.1
    rw [hSame.running] at hRuns
    have hSent :=
      running_requested hRuns
        ((mem_requestOf_iff _ _ _).mpr ⟨u, hRequest, rfl⟩)
    exact
      hEffect middle caller authority after (some n) document hKey
        hQuiet hServed _ hSent rfl
  · intro hNone middle caller authority after fetch document hKey
      hQuiet hServed r hSent hFetch
    subst hFetch
    rcases served_old_brought hForgets hKey hQuiet hServed
        (request_numbered hSent) with
      ⟨later, hBrings⟩
    exact hNone later r.fetch document hBrings

end Start

/- To forget a key does not stop the fetch that a call began. -/
theorem not_takesEffect_of_running :
    ¬ (start {} .epoch).TakesEffect [.get 1 (some "http://a")]
      (.invalidate (some "http://a/")) "http://a" := by
  have hForgets :
      Forgets "http://a" (.invalidate (some "http://a/")) := by
    unfold Forgets
    decide +kernel
  have hIff :=
    takesEffect_iff {} .epoch [.get 1 (some "http://a")] hForgets
  intro hEffect
  refine
    hIff.mp hEffect [.answer 0 sampleReply] 0 sample ⟨?_, ?_⟩
  · decide +kernel
  · refine Or.inr ⟨[], _, [], rfl, sampleReply, rfl, ?_, ?_⟩
    · decide +kernel
    · decide +kernel

end Exchange

end KeyAssertion
