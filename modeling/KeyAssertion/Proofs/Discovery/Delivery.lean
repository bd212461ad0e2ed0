import KeyAssertion.Proofs.Discovery.Entries
import KeyAssertion.Proofs.Discovery.Freshness

/-
  How a caller comes to a document: by one event, its call or
  the reply to its fetch, after which the document is the entry
  for its authority.  Who calls for the authority while it is
  still there and may be served gets it without a request.

  Key definitions include:
    * `Exchange.Brought`

  Key theorems include:
    * `Exchange.outcome?_append`
    * `Exchange.Move.document_cases`
    * `Exchange.Ended.brought`
    * `Exchange.document_delivered`
    * `Exchange.document_kept`
    * `Exchange.document_authority`
-/

namespace KeyAssertion

namespace Exchange

variable {x y : Exchange} {e : Event}
variable {caller : Nat} {fetch : Option Nat}
variable {document : DiscoveryDocument}

------------------------------------------------------------
-- Single Events
------------------------------------------------------------

/- A caller without an outcome on record is told none. -/
theorem outcome?_eq_none
    (hUnserved : ∀ o, (caller, o) ∉ x.outcomes) :
    x.outcome? caller = none :=
  KeyedList.lookup_eq_none_of_not_mem hUnserved

/-
  A document that a caller has after an event it had before, or
  it is the entry that serves its call, or a fetch has landed
  with it.
-/
theorem Move.document_cases
    (hMove : Move x e y)
    (hOutcome : (caller, ⟨fetch, .ok document⟩) ∈ y.outcomes) :
    (caller, ⟨fetch, .ok document⟩) ∈ x.outcomes ∨
      (∃ key entry authority,
        x.cache.entries.lookup key = some entry ∧
          e = .get caller authority ∧ y.cache = x.cache ∧
          fetch = some entry.fetch ∧ document = entry.document) ∨
      ∃ n, x.result? n = some (.ok document) ∧ fetch = some n := by
  cases hMove with
  | faulty _ =>
      rcases List.mem_cons.mp hOutcome with hNew | hOld
      · cases hNew
      · exact Or.inl hOld
  | hit _ hEntry _ =>
      rcases List.mem_cons.mp hOutcome with hNew | hOld
      · cases hNew
        exact Or.inr (Or.inl ⟨_, _, _, hEntry, rfl, rfl, rfl, rfl⟩)
      · exact Or.inl hOld
  | late _ _ _ hResult =>
      rcases List.mem_cons.mp hOutcome with hNew | hOld
      · cases hNew
        exact Or.inr (Or.inr ⟨_, hResult, rfl⟩)
      · exact Or.inl hOld
  | @left _ d _ =>
      rcases List.mem_cons.mp hOutcome with hNew | hOld
      · cases d <;> cases hNew
      · exact Or.inl hOld
  | finished hLanded _ =>
      rcases mem_outcomes_complete.mp hOutcome with
        ⟨_, hNew⟩ | hOld
      · injection hNew with hFetch hResult
        subst hResult
        exact Or.inr (Or.inr ⟨_, hLanded.2, hFetch⟩)
      · exact Or.inl hOld
  | _ => exact Or.inl hOutcome

/-
  An event by which a document is the entry for its authority
  and is to come to a caller that has none yet: its own call,
  which is served the entry, or the reply to its fetch.
-/
structure Brought
    (x : Exchange)
    (e : Event)
    (caller n : Nat)
    (document : DiscoveryDocument) : Prop where
  untold : x.outcome? caller = none
  cause :
    (∃ authority, e = .get caller authority) ∨
      ∃ reply, e = .answer n reply
  entry :
    (x.step e).1.cache.entries.lookup document.authority =
      some ⟨n, document⟩

------------------------------------------------------------
-- Runs
------------------------------------------------------------

section Start

variable {settings : DiscoverySettings} {now : Moment}
variable {events later : List Event}

/- A caller that is told an outcome has come to it. -/
theorem settled_of_outcome?
    (hDistinct : DistinctCallers events)
    {o : Outcome}
    (hTold :
      ((start settings now).run events).outcome? caller = some o) :
    ((start settings now).run events).Settled caller o := by
  have hMem := mem_of_outcome? hTold
  rcases run_caller_cases settings now hDistinct caller with
    hUnseen | ⟨n, hAwaits⟩ | ⟨o', hSettled⟩
  · exact absurd hMem (hUnseen.unserved o)
  · exact absurd hMem (hAwaits.unserved o)
  · rw [(hSettled.served o).mp hMem]
    exact hSettled

/- What a caller is told it is told ever after. -/
theorem outcome?_append
    (hDistinct : DistinctCallers (events ++ later))
    {o : Outcome}
    (hTold :
      ((start settings now).run events).outcome? caller = some o) :
    ((start settings now).run (events ++ later)).outcome? caller =
      some o := by
  have hSettled := settled_of_outcome? hDistinct.of_append hTold
  have hQuiet : Quiet later caller := by
    apply quiet_of_seen hDistinct
    intro hUnseen
    exact hUnseen.unserved o (mem_of_outcome? hTold)
  rw [run_append]
  exact (hSettled.run hQuiet).outcome?_eq

/- The reply by which a fetch ended with a document stored it. -/
theorem Ended.brought
    {f : Fetch}
    (hEnded : (start settings now).Ended events f (.ok document))
    (hUnserved :
      ∀ o, (caller, o) ∉ ((start settings now).run events).outcomes) :
    (start settings now).Happened events fun z e =>
      z.Brought e caller f.number document := by
  have hAuthority := hEnded.dated.1
  rcases hEnded with
    ⟨before, _, after, rfl, reply, rfl, hPending, hResult⟩
  have hConsistent := run_consistent settings now before
  refine ⟨before, _, after, rfl, ?_, Or.inr ⟨reply, rfl⟩, ?_⟩
  · -- An outcome then would still be on record.
    apply outcome?_eq_none
    intro o hMem
    rw [run_append] at hUnserved
    exact hUnserved o (run_mem_outcomes _ hMem)
  · rw [hConsistent.eq_conclude hPending (step_move _ _), hAuthority]
    exact lookup_entries_conclude_of_ok hResult.symm

/-
  The document that a caller is told was the entry for its
  authority after the call, or after the reply to its fetch.
-/
theorem document_delivered
    (hDistinct : DistinctCallers events)
    (hTold :
      ((start settings now).run events).outcome? caller =
        some ⟨fetch, .ok document⟩) :
    ∃ n,
      fetch = some n ∧
        (start settings now).Happened events fun z e =>
          z.Brought e caller n document := by
  induction events using List.reverseRecOn with
  | nil => cases hTold
  | append_singleton es e ih =>
      -- Without an outcome before, the last event brings this one.
      have hLast :
          (∀ o, (caller, o) ∉ ((start settings now).run es).outcomes) →
            ∃ n,
              fetch = some n ∧
                (start settings now).Happened (es ++ [e]) fun z e =>
                  z.Brought e caller n document := by
        intro hUnserved
        have hMove := step_move ((start settings now).run es) e
        rw [run_concat] at hTold
        rcases hMove.document_cases (mem_of_outcome? hTold) with
          hOld | ⟨key, entry, authority, hEntry, rfl, hCache, rfl, rfl⟩ |
            ⟨n, hResult, rfl⟩
        · exact absurd hOld (hUnserved _)
        · refine ⟨entry.fetch, rfl, (happened_concat_iff es _).mpr ?_⟩
          have hKeyed :=
            (entry_ended (KeyedList.mem_of_lookup hEntry)).dated.1
          refine Or.inr
            ⟨outcome?_eq_none hUnserved, Or.inl ⟨authority, rfl⟩, ?_⟩
          rw [hCache, hKeyed]
          exact hEntry
        · rcases result_ended hResult with ⟨key, hEnded⟩
          exact ⟨n, rfl, (hEnded.brought hUnserved).append [e]⟩
      rcases run_caller_cases settings now hDistinct.of_append caller with
        hUnseen | ⟨n, hAwaits⟩ | ⟨o, hSettled⟩
      · exact hLast hUnseen.unserved
      · exact hLast hAwaits.unserved
      · have hBefore := hSettled.outcome?_eq
        have hSame := outcome?_append hDistinct hBefore
        rw [hTold] at hSame
        rw [← hSame] at hBefore
        rcases ih hDistinct.of_append hBefore with
          ⟨n, hFetch, hBrought⟩
        exact ⟨n, hFetch, hBrought.append [e]⟩

/-
  From the event that brought a caller its document, as long as
  no other event touches the entry for its authority and the
  document may be served, who calls for the authority is served
  the document; no request is sent and no fetch starts.
-/
theorem document_kept
    (hDistinct : DistinctCallers events)
    (hTold :
      ((start settings now).run events).outcome? caller =
        some ⟨fetch, .ok document⟩) :
    ∃ first e second n,
      events = first ++ e :: second ∧
        fetch = some n ∧
        ((start settings now).run first).Brought e caller n document ∧
        ((¬ ((start settings now).run (first ++ [e])).Happened second
            fun z e => z.Touches document.authority e) →
          ((start settings now).run events).now < document.expiresAt →
            ∀ other authority,
              Authority.normalize authority = .ok document.authority →
                ((start settings now).run events).get other authority =
                  ((start settings now).run events).settle other
                    ⟨fetch, .ok document⟩) := by
  rcases document_delivered hDistinct hTold with
    ⟨n, rfl, first, e, second, rfl, hBrought⟩
  refine ⟨first, e, second, n, rfl, rfl, hBrought, ?_⟩
  intro hAway hFresh other authority hKey
  have hEntry := hBrought.entry
  rw [← run_concat] at hEntry
  have hKept :
      ((start settings now).run
          (first ++ e :: second)).cache.entries.lookup
            document.authority =
        some ⟨n, document⟩ := by
    rw [run_append_cons, run_entries_kept _ hAway, hEntry]
  have hServed :=
    (DiscoveryCache.fresh?_eq_some_iff _ _ _ _).mpr ⟨hKept, hFresh⟩
  exact get_of_fresh hKey hServed other

/- The document of a call is for the normal form of its authority. -/
theorem document_authority
    {before after : List Event}
    {authority : Option String}
    (hDistinct :
      DistinctCallers (before ++ .get caller authority :: after))
    (hTold :
      ((start settings now).run
        (before ++ .get caller authority :: after)).outcome? caller =
          some ⟨fetch, .ok document⟩) :
    Authority.normalize authority = .ok document.authority := by
  have hQuiet : Quiet (before ++ after) caller :=
    quiet_append_iff.mpr hDistinct.split
  rcases call_served hQuiet hTold with
    ⟨key, n, hKey, _, hOffers | hLanded | hPending⟩
  · rw [hKey, (entry_ended (KeyedList.mem_of_lookup hOffers.1)).dated.1]
  · rw [hKey, (landed_ended hLanded).dated.1]
  · rw [hKey, hPending.2.dated.1]

end Start

end Exchange

end KeyAssertion
