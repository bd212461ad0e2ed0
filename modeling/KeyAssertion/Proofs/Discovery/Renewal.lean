import KeyAssertion.Proofs.Discovery.Failure
import KeyAssertion.Proofs.Discovery.Invalidation
import KeyAssertion.Proofs.Discovery.SingleFlight

/-
  A document is not asked for again before its time: from one
  request for an authority to the next, all calls are served
  the document of the first, unless it is forgotten in between,
  and the next is sent when this document is at its end.

  Key definitions include:
    * `Exchange.latestRequest?`
    * `Exchange.Sends`
    * `Exchange.Held`
    * `Exchange.Needed`
    * `Exchange.Reused`

  Key theorems include:
    * `Exchange.Held.called`
    * `Exchange.run_held`
    * `Exchange.run_needed`
    * `Exchange.request_due`
-/

namespace KeyAssertion

namespace Exchange

------------------------------------------------------------
-- Requests in a Row
------------------------------------------------------------

/- The latest request for an authority. -/
def latestRequest?
    (x : Exchange)
    (key : String) : Option SentRequest :=
  (x.requests.filter fun r => r.authority == key).getLast?

/- An event sends a request. -/
def Sends
    (x : Exchange)
    (e : Event)
    (r : SentRequest) : Prop :=
  r ∉ x.requests ∧ r ∈ (x.step e).1.requests

variable {x y : Exchange} {e : Event} {key : String}

/- Requests are sent one after the other. -/
theorem Move.requests_extend
    (hMove : Move x e y) :
    x.requests <+: y.requests := by
  rcases hMove.fetches_cases with
    hSame | ⟨_, _, _, _, _, _, _, rfl⟩ | ⟨_, _, _, _, rfl⟩ |
      ⟨_, _, _, _, rfl⟩
  · exact ⟨[], by rw [List.append_nil, hSame.requests]⟩
  · exact List.prefix_append _ _
  · exact List.prefix_rfl
  · exact List.prefix_rfl

/- Those of a run come first in every run that goes on from it. -/
theorem run_requests_extend
    (x : Exchange)
    (later : List Event) :
    x.requests <+: (x.run later).requests :=
  run_induction (P := fun _ y => x.requests <+: y.requests)
    List.prefix_rfl
    (fun _ _ _ hBefore hMove =>
      hBefore.trans hMove.requests_extend) later

/- What was sent stays sent. -/
theorem mem_run_requests
    {events : List Event}
    (later : List Event)
    {r : SentRequest}
    (hSent : r ∈ (x.run events).requests) :
    r ∈ (x.run (events ++ later)).requests := by
  rw [run_append]
  exact ((x.run events).run_requests_extend later).subset hSent

/- The latest request for an authority is one for it. -/
theorem mem_of_latestRequest?
    {r : SentRequest}
    (h : x.latestRequest? key = some r) :
    r ∈ x.requests ∧ r.authority = key := by
  have hMem := List.mem_of_getLast? h
  rcases List.mem_filter.mp hMem with ⟨hSent, hKey⟩
  exact ⟨hSent, by simpa using hKey⟩

section Start

variable {settings : DiscoverySettings} {now : Moment}
variable {events later : List Event}

/- The request of a fetch is sent with the URL of its authority. -/
theorem request_url
    {r : SentRequest}
    (hSent : r ∈ ((start settings now).run events).requests) :
    ∃ u,
      Discovery.request r.authority = .ok u ∧
        r.url = u.toText := by
  revert hSent
  refine run_induction
    (P := fun _ y =>
      r ∈ y.requests →
        ∃ u,
          Discovery.request r.authority = .ok u ∧
            r.url = u.toText)
    ?_ ?_ events
  · intro hSent
    cases hSent
  · intro es e y ih hMove hSent
    rcases hMove.fetches_cases with
      hSame | ⟨_, _, key, _, _, _, _, rfl⟩ | ⟨_, _, _, _, rfl⟩ |
        ⟨_, _, _, _, rfl⟩
    · rw [hSame.requests] at hSent
      exact ih hSent
    · rcases List.mem_append.mp hSent with hOld | hNew
      · exact ih hOld
      · rcases (mem_requestOf_iff _ _ _).mp hNew with
          ⟨u, hRequest, rfl⟩
        exact ⟨u, hRequest, rfl⟩
    · exact ih hSent
    · exact ih hSent

/- No request for its authority follows the latest one. -/
theorem sent_before_latest
    {r r' : SentRequest}
    (hSent : r ∈ ((start settings now).run events).requests)
    (hLatest :
      ((start settings now).run (events ++ later)).latestRequest?
        r.authority = some r)
    (hSame : r'.authority = r.authority)
    (hMem :
      r' ∈ ((start settings now).run (events ++ later)).requests) :
    r' ∈ ((start settings now).run events).requests := by
  rcases ((start settings now).run events).run_requests_extend later
    with ⟨more, hMore⟩
  rw [← run_append] at hMore
  have hNodup :
      ((start settings now).run (events ++ later)).requests.Nodup :=
    List.Nodup.of_map _ requests_nodup
  rw [← hMore] at hMem hNodup
  rcases List.mem_append.mp hMem with hOld | hNew
  · exact hOld
  · -- The latest request would be among those sent later.
    unfold latestRequest? at hLatest
    rw [← hMore, List.filter_append, List.getLast?_append] at hLatest
    have hLater : r' ∈ more.filter fun s => s.authority == r.authority :=
      List.mem_filter.mpr ⟨hNew, by simpa using hSame⟩
    rw [List.getLast?_eq_some_getLast (List.ne_nil_of_mem hLater)]
      at hLatest
    have hLast := List.getLast_mem (List.ne_nil_of_mem hLater)
    rw [Option.some.inj hLatest] at hLast
    exact
      absurd rfl
        ((List.nodup_append.mp hNodup).2.2 r hSent r
          (List.mem_filter.mp hLast).1)

------------------------------------------------------------
-- Entries That Are Held
------------------------------------------------------------

end Start

/-
  A key has an entry, and the only fetch for it that may be
  listed is the one that has brought this entry.
-/
structure Held
    (x : Exchange)
    (key : String)
    (entry : CachedDocument) : Prop where
  there : x.cache.entries.lookup key = some entry
  landed :
    ∀ n,
      x.cache.inFlight.lookup key = some n →
        n = entry.fetch ∧ x.result? n = some (.ok entry.document)

variable {entry : CachedDocument} {authority : Option String}

/-
  A call for such a key is served the document, from the entry
  or by the fetch that is still listed, or it starts a fetch.
-/
theorem Held.called
    (h : x.Held key entry)
    (hKey : Authority.normalize authority = .ok key)
    (caller : Nat) :
    (x.step (.get caller authority)).1 =
        x.settle caller ⟨some entry.fetch, .ok entry.document⟩ ∨
      (x.step (.get caller authority)).1 =
        (x.launch (x.cache.start key) key x.cache.nextFetch).wait
          caller x.cache.nextFetch := by
  cases hFresh : x.cache.fresh? x.now key with
  | some found =>
      have hFound :=
        ((x.cache.fresh?_eq_some_iff _ _ _).mp hFresh).1
      rw [h.there] at hFound
      cases hFound
      exact Or.inl (get_of_fresh hKey hFresh caller)
  | none =>
      cases hListed : x.cache.inFlight.lookup key with
      | some n =>
          rcases h.landed n hListed with ⟨rfl, hResult⟩
          exact Or.inl (get_of_landed hKey hFresh hListed hResult caller)
      | none => exact Or.inr (get_of_free hKey hFresh hListed caller)

/- No fetch for such a key is pending. -/
theorem Held.not_pending
    (h : x.Held key entry)
    (hConsistent : x.Consistent)
    {f : Fetch}
    (hPending : x.Pending f) :
    f.authority ≠ key := by
  rintro rfl
  have hResult := (h.landed _ (hConsistent.listed f hPending.1)).2
  rw [hPending.2] at hResult
  cases hResult

/- What is not forgotten stays there as long as no fetch starts. -/
theorem Held.move
    (h : x.Held key entry)
    (hConsistent : x.Consistent)
    (hMove : Move x e y)
    (hKept : ¬ Forgets key e) :
    y.Held key entry ∨
      ∃ caller,
        y = (x.launch (x.cache.start key) key
          x.cache.nextFetch).wait caller x.cache.nextFetch := by
  have hThere : y.cache.entries.lookup key = some entry := by
    rw [hMove.entries_kept ?_]
    · exact h.there
    · -- Only a reply to a pending fetch for the key could touch it.
      intro hTouches
      cases e with
      | answer n reply =>
          exact h.not_pending hConsistent hTouches rfl
      | invalidate authority => exact hKept hTouches
      | clear => exact hKept trivial
      | _ => exact hTouches
  rcases hMove.fetches_cases with
    hSame | ⟨caller, _, other, _, _, _, _, rfl⟩ |
      ⟨f, reply, hPending, _, rfl⟩ | ⟨f, result, hLanded, _, rfl⟩
  · refine Or.inl ⟨hThere, ?_⟩
    unfold result?
    rw [hSame.inFlight, hSame.results]
    exact h.landed
  · by_cases hOther : key = other
    · subst hOther
      exact Or.inr ⟨caller, rfl⟩
    · refine Or.inl ⟨hThere, ?_⟩
      intro n hListed
      change (KeyedList.put other _ _).lookup key = some n at hListed
      rw [KeyedList.lookup_put_of_ne _ _ _ _ hOther] at hListed
      exact h.landed n hListed
  · refine Or.inl ⟨hThere, ?_⟩
    intro n hListed
    rw [inFlight_conclude] at hListed
    have hNe := (h.not_pending hConsistent hPending).symm
    have hNumber :=
      hConsistent.number_ne_of_listed hListed hPending.1 hNe
    rw [result?_conclude_of_ne x f reply hNumber]
    exact h.landed n hListed
  · refine Or.inl ⟨hThere, ?_⟩
    intro n hListed
    rw [hConsistent.lookup_inFlight_complete hLanded.1] at hListed
    split at hListed
    · cases hListed
    · next hNe =>
        have hNumber :=
          hConsistent.number_ne_of_listed hListed hLanded.1 hNe
        rw [result?_complete_of_ne x f result hNumber]
        exact h.landed n hListed

section Start

variable {settings : DiscoverySettings} {now : Moment}
variable {events later : List Event}

/- A fetch that starts sends a request that was not there before. -/
theorem sends_of_started
    {u : Url}
    (hRequest : Discovery.request key = .ok u)
    {caller : Nat}
    (hStarted :
      (((start settings now).run events).step e).1 =
        (((start settings now).run events).launch
          (((start settings now).run events).cache.start key) key
          ((start settings now).run events).cache.nextFetch).wait
            caller
            ((start settings now).run events).cache.nextFetch) :
    ((start settings now).run events).Sends e
      ⟨((start settings now).run events).cache.nextFetch, key,
        u.toText⟩ := by
  constructor
  · intro hOld
    exact absurd (request_numbered hOld) (Nat.lt_irrefl _)
  · rw [hStarted]
    refine List.mem_append_right _ ?_
    exact (mem_requestOf_iff _ _ _).mpr ⟨u, hRequest, rfl⟩

/-
  An entry is held until it is forgotten or a request for its
  authority is sent.
-/
theorem run_held
    {u : Url}
    (hRequest : Discovery.request key = .ok u)
    (hHeld : ((start settings now).run events).Held key entry)
    (hKept : ∀ e ∈ later, ¬ Forgets key e)
    (hUnsent :
      ∀ r ∈ ((start settings now).run (events ++ later)).requests,
        r.authority = key →
          r ∈ ((start settings now).run events).requests) :
    ((start settings now).run (events ++ later)).Held key entry := by
  revert hKept hUnsent
  induction later using List.reverseRecOn with
  | nil =>
      intro _ _
      rw [List.append_nil]
      exact hHeld
  | append_singleton later e ih =>
      intro hKept hUnsent
      rw [← List.append_assoc] at hUnsent ⊢
      have hMove := run_move (start settings now) (events ++ later) e
      have hBefore := ih
        (fun e' he' => hKept e' (List.mem_append_left _ he'))
        (fun r hSent hKey =>
          hUnsent r (hMove.mem_requests hSent) hKey)
      rcases hBefore.move (run_consistent _ _ _) hMove
          (hKept e (by simp)) with
        hStill | ⟨caller, hStarted⟩
      · exact hStill
      · rw [run_concat] at hStarted hUnsent
        have hSends := sends_of_started hRequest hStarted
        have hOld := hUnsent _ hSends.2 rfl
        exact absurd (mem_run_requests later hOld) hSends.1

end Start

------------------------------------------------------------
-- While a Fetch Runs
------------------------------------------------------------

/- No fetch is pending for a key whose entry may be served. -/
def Needed (x : Exchange) : Prop :=
  ∀ f, x.Pending f → ∀ old,
    x.cache.entries.lookup f.authority = some old →
      ¬ x.now < old.document.expiresAt

/- Neither time that goes on nor the end of a fetch changes this. -/
theorem Needed.move
    (h : x.Needed)
    (hConsistent : x.Consistent)
    (hMove : Move x e y)
    (hForward : x.now ≤ y.now) :
    y.Needed := by
  intro f hPending old hThere hFresh
  have hBefore : x.now < old.document.expiresAt :=
    Int.lt_of_le_of_lt hForward hFresh
  rcases hMove.lookup_entries_cases hThere with
    hOld | ⟨g, reply, hOpen, hAuthority, rfl⟩
  · rcases hMove.pending_cases hPending with hStill | hNumber
    · exact h f hStill old hOld hBefore
    · -- A fetch that has just started did so for want of an entry.
      have hNew : f ∉ x.running := by
        intro hRan
        exact Nat.ne_of_lt (hConsistent.begun f hRan) hNumber
      have hRuns := hPending.1
      rcases hMove.fetches_cases with
        hSame | ⟨_, _, key, _, _, hNoEntry, _, rfl⟩ |
          ⟨_, _, _, _, rfl⟩ | ⟨_, _, _, _, rfl⟩
      · rw [hSame.running] at hRuns
        exact hNew hRuns
      · rcases List.mem_append.mp hRuns with hRan | hLast
        · exact hNew hRan
        · rw [List.mem_singleton.mp hLast] at hOld
          exact
            (DiscoveryCache.fresh?_eq_none_iff _ _ _).mp hNoEntry old
              hOld hBefore
      · exact hNew hRuns
      · exact hNew (mem_running_complete.mp hRuns).1
  · -- The fetch that is answered was the only one for this key.
    have hSame :=
      hConsistent.eq_of_authority_eq hPending.1 hOpen.1
        hAuthority.symm
    have hNone := hPending.2
    rw [hSame, result?_conclude_self] at hNone
    cases hNone

/- A call for the key of such a fetch joins it. -/
theorem Needed.joined
    (h : x.Needed)
    (hConsistent : x.Consistent)
    {f : Fetch}
    (hPending : x.Pending f)
    (hKey : Authority.normalize authority = .ok f.authority)
    (caller : Nat) :
    (x.step (.get caller authority)).1 = x.wait caller f.number := by
  have hListed := hConsistent.listed f hPending.1
  have hNoEntry : x.cache.fresh? x.now f.authority = none :=
    (DiscoveryCache.fresh?_eq_none_iff _ _ _).mpr (h f hPending)
  exact get_of_pending hKey hNoEntry hListed hPending.2 caller

section Start

variable {settings : DiscoverySettings} {now : Moment}
variable {events later : List Event}

/- When the clock is never set back, only needed fetches run. -/
theorem run_needed
    (hForward : (start settings now).ClockForward events) :
    ((start settings now).run events).Needed := by
  induction events using List.reverseRecOn with
  | nil =>
      intro f hPending
      cases hPending.1
  | append_singleton events e ih =>
      rcases clockForward_append_iff.mp hForward with
        ⟨hBefore, hLast⟩
      refine
        (ih hBefore).move (run_consistent settings now events)
          (run_move _ _ _) ?_
      rw [run_concat]
      exact hLast.1

end Start

------------------------------------------------------------
-- From One Request to the Next
------------------------------------------------------------

/-
  What calls for the authority of a request come to between the
  request and the next one, when its fetch is answered with a
  document after the first events and other events follow, one
  of which is the callback of the fetch: calls before the reply
  wait for the fetch and, unless they leave, are served its
  document by the callback; calls after the reply are served it
  at once.
-/
structure Reused
    (x : Exchange)
    (r : SentRequest)
    (d : DiscoveryDocument)
    (first : List Event)
    (reply : HttpReply)
    (middle : List Event) : Prop where
  finished : .finish r.fetch ∈ middle
  joined :
    ∀ front caller authority back,
      first = front ++ .get caller authority :: back →
        Authority.normalize authority = .ok r.authority →
          r ∈ (x.run front).requests →
            ((x.run front).step (.get caller authority)).1 =
              (x.run front).wait caller r.fetch
  told :
    ∀ front caller authority back rest after,
      first = front ++ .get caller authority :: back →
        Authority.normalize authority = .ok r.authority →
          r ∈ (x.run front).requests →
            middle = rest ++ .finish r.fetch :: after →
              .finish r.fetch ∉ rest →
                (∀ departure,
                  .leave caller departure ∉ back ++ rest) →
                  (x.run
                    (first ++ .answer r.fetch reply :: rest ++
                      [.finish r.fetch])).outcome? caller =
                    some ⟨some r.fetch, .ok d⟩
  served :
    ∀ front caller authority back,
      middle = front ++ .get caller authority :: back →
        Authority.normalize authority = .ok r.authority →
          ((x.run (first ++ .answer r.fetch reply :: front)).step
              (.get caller authority)).1 =
            (x.run (first ++ .answer r.fetch reply :: front)).settle
              caller ⟨some r.fetch, .ok d⟩

section Start

variable {settings : DiscoverySettings} {now : Moment}
variable {first middle : List Event}
variable {r : SentRequest} {reply : HttpReply}
variable {d : DiscoveryDocument}

/- A fetch whose reply brings a document has landed with it. -/
theorem landed_of_result
    {f : Fetch}
    (hPending : ((start settings now).run first).Pending f)
    (hResult :
      ((start settings now).run first).resultOf f reply = .ok d) :
    ((start settings now).run
      (first ++ [.answer f.number reply])).Landed f (.ok d) := by
  rw [(run_consistent settings now first).eq_conclude hPending
    (run_move (start settings now) first _)]
  refine ⟨hPending.1, ?_⟩
  rw [result?_conclude_self, hResult]

/- The document is held. -/
theorem held_of_result
    {f : Fetch}
    (hPending : ((start settings now).run first).Pending f)
    (hResult :
      ((start settings now).run first).resultOf f reply = .ok d) :
    ((start settings now).run
      (first ++ [.answer f.number reply])).Held f.authority
        ⟨f.number, d⟩ := by
  have hLanded := landed_of_result hPending hResult
  have hListed := (run_consistent settings now _).listed f hLanded.1
  constructor
  · rw [(run_consistent settings now first).eq_conclude hPending
      (run_move (start settings now) first _)]
    exact lookup_entries_conclude_of_ok hResult
  · intro n hAlso
    rw [hListed] at hAlso
    cases hAlso
    exact ⟨rfl, hLanded.2⟩

/- It is held until the next request, unless it is forgotten. -/
theorem held_until_next
    {events front rest : List Event}
    {entry : CachedDocument}
    (hHeld :
      ((start settings now).run events).Held r.authority entry)
    (hSent : r ∈ ((start settings now).run events).requests)
    (hKept : ∀ e ∈ front ++ rest, ¬ Forgets r.authority e)
    (hLatest :
      ((start settings now).run
        (events ++ (front ++ rest))).latestRequest? r.authority =
          some r) :
    ((start settings now).run (events ++ front)).Held r.authority
      entry := by
  rcases request_url hSent with ⟨u, hRequest, _⟩
  refine run_held hRequest hHeld ?_ ?_
  · intro e he
    exact hKept e (List.mem_append_left _ he)
  · intro r' hMem hSame
    refine sent_before_latest hSent hLatest hSame ?_
    rw [← List.append_assoc]
    exact mem_run_requests rest hMem

/- Before the next request no event sends one. -/
theorem not_sends_of_latest
    {events front rest : List Event}
    {e : Event}
    (hSent : r ∈ ((start settings now).run events).requests)
    (hLatest :
      ((start settings now).run
        (events ++ (front ++ e :: rest))).latestRequest?
          r.authority = some r)
    {r' : SentRequest}
    (hSame : r'.authority = r.authority) :
    ¬ ((start settings now).run (events ++ front)).Sends e r' := by
  rintro ⟨hBefore, hAfter⟩
  rw [← run_concat] at hAfter
  have hMem := mem_run_requests rest hAfter
  rw [List.append_assoc, List.append_assoc] at hMem
  have hOld := sent_before_latest hSent hLatest hSame hMem
  exact hBefore (mem_run_requests front hOld)

/- A call before the reply joins the fetch. -/
theorem joined_of_pending
    (hForward : (start settings now).ClockForward first)
    (hPending :
      ((start settings now).run first).Pending
        ⟨r.fetch, r.authority⟩)
    {front back : List Event}
    {caller : Nat}
    {authority : Option String}
    (hFirst : first = front ++ .get caller authority :: back)
    (hKey : Authority.normalize authority = .ok r.authority)
    (hSent : r ∈ ((start settings now).run front).requests) :
    (((start settings now).run front).step
        (.get caller authority)).1 =
      ((start settings now).run front).wait caller r.fetch := by
  subst hFirst
  have hOpen :
      ((start settings now).run front).Pending
        ⟨r.fetch, r.authority⟩ := by
    rw [run_append] at hPending
    exact
      ((run_numbers _ _).2 _ (request_numbered hSent)).2 hPending
  have hNeeded := run_needed (clockForward_append_iff.mp hForward).1
  exact hNeeded.joined (run_consistent _ _ _) hOpen hKey caller

/- A caller that has joined it and stays is told its document. -/
theorem told_of_result
    (hPending :
      ((start settings now).run first).Pending
        ⟨r.fetch, r.authority⟩)
    (hResult :
      ((start settings now).run first).resultOf
        ⟨r.fetch, r.authority⟩ reply = .ok d)
    {front back rest : List Event}
    {caller : Nat}
    (hFirst : first = front ++ back)
    (hWaits :
      (caller, r.fetch) ∈ ((start settings now).run front).waiting)
    (hOpen : .finish r.fetch ∉ rest)
    (hStays :
      ∀ departure, .leave caller departure ∉ back ++ rest) :
    ((start settings now).run
      (first ++ .answer r.fetch reply :: rest ++
        [.finish r.fetch])).outcome? caller =
      some ⟨some r.fetch, .ok d⟩ := by
  have hConsistent :=
    run_consistent settings now (first ++ .answer r.fetch reply :: rest)
  have hLanded :
      ((start settings now).run
        (first ++ .answer r.fetch reply :: rest)).Landed
          ⟨r.fetch, r.authority⟩ (.ok d) := by
    rw [run_append_cons]
    exact
      (landed_of_result hPending hResult).run
        (run_consistent settings now _) hOpen
  have hStill :
      (caller, r.fetch) ∈
        ((start settings now).run
          (first ++ .answer r.fetch reply :: rest)).waiting := by
    rw [hFirst, List.append_assoc, run_append]
    refine
      (run_consistent settings now front).run_waiting
        (f := ⟨r.fetch, r.authority⟩) ?_ hWaits ?_
    · rw [← run_append, ← List.append_assoc, ← hFirst]
      exact hLanded.1
    · intro departure hLeft
      apply hStays departure
      rcases List.mem_append.mp hLeft with hBefore | hAfter
      · exact List.mem_append_left _ hBefore
      · rcases List.mem_cons.mp hAfter with hReply | hLater
        · cases hReply
        · exact List.mem_append_right _ hLater
  rw [hConsistent.eq_complete hLanded (run_move _ _ _)]
  exact outcome?_complete hStill _

/-
  A document that is stored is not asked for again before its
  end, unless it is forgotten; until then it is served.
-/
theorem request_due
    (settings : DiscoverySettings)
    (now : Moment)
    {first middle : List Event}
    {reply : HttpReply}
    {e : Event}
    {r r' : SentRequest}
    {d : DiscoveryDocument}
    (hForward :
      (start settings now).ClockForward
        (first ++ .answer r.fetch reply :: middle))
    (hPending :
      ((start settings now).run first).Pending
        ⟨r.fetch, r.authority⟩)
    (hResult :
      ((start settings now).run first).resultOf
        ⟨r.fetch, r.authority⟩ reply = .ok d)
    (hKept : ∀ e ∈ middle, ¬ Forgets r.authority e)
    (hLatest :
      ((start settings now).run
        (first ++ .answer r.fetch reply :: middle)).latestRequest?
          r.authority = some r)
    (hSends :
      ((start settings now).run
        (first ++ .answer r.fetch reply :: middle)).Sends e r')
    (hSame : r'.authority = r.authority) :
    d.expiresAt ≤
        ((start settings now).run
          (first ++ .answer r.fetch reply :: middle)).now ∧
      (start settings now).Reused r d first reply middle := by
  rcases request_url (mem_of_latestRequest? hLatest).1 with
    ⟨u, hRequest, hUrl⟩
  have hThere : r ∈ ((start settings now).run first).requests := by
    have hEq : r = ⟨r.fetch, r.authority, u.toText⟩ := by
      rw [← hUrl]
    rw [hEq]
    exact
      running_requested hPending.1
        ((mem_requestOf_iff _ _ _).mpr ⟨u, hRequest, rfl⟩)
  have hSent :=
    mem_run_requests [.answer r.fetch reply] hThere
  have hStored := held_of_result hPending hResult
  rcases request_needed hSends.2 hSends.1 with
    ⟨_, _, _, _, hNoEntry, hFree⟩
  rw [hSame] at hNoEntry hFree
  have hBefore := (clockForward_append_iff.mp hForward).1
  rw [List.append_cons] at hLatest hNoEntry hFree ⊢
  constructor
  · have hHeld :
        ((start settings now).run
          (first ++ [.answer r.fetch reply] ++ middle)).Held
            r.authority ⟨r.fetch, d⟩ := by
      rw [← List.append_nil middle] at hKept hLatest
      exact held_until_next hStored hSent hKept hLatest
    exact
      Int.not_lt.mp
        ((DiscoveryCache.fresh?_eq_none_iff _ _ _).mp hNoEntry _
          hHeld.there)
  · constructor
    · -- Without the callback the fetch would still be listed.
      by_contra hOpen
      have hLanded :=
        (landed_of_result hPending hResult).run
          (run_consistent settings now _) hOpen
      rw [← run_append] at hLanded
      have hListed :=
        (run_consistent settings now _).listed _ hLanded.1
      rw [hFree] at hListed
      cases hListed
    · intro front caller authority back hFirst hKey hEarlier
      exact
        joined_of_pending hBefore hPending hFirst hKey hEarlier
    · intro front caller authority back rest after hFirst hKey
        hEarlier _ hOpen hStays
      have hJoined :=
        joined_of_pending hBefore hPending hFirst hKey hEarlier
      rw [List.append_cons] at hFirst
      refine told_of_result hPending hResult hFirst ?_ hOpen hStays
      rw [run_concat, hJoined]
      exact List.mem_append_right _ (List.mem_singleton.mpr rfl)
    · rintro front caller authority back rfl hKey
      rw [List.append_cons]
      have hHeld := held_until_next hStored hSent hKept hLatest
      rcases hHeld.called hKey caller with hServed | hStarted
      · exact hServed
      · exact
          absurd (sends_of_started hRequest hStarted)
            (not_sends_of_latest hSent hLatest rfl)

end Start

/- The document of the first call is asked for again at its end. -/
theorem request_due_of_expired :
    sample.expiresAt ≤
        ((start {} .epoch).run
          ([.get 1 (some "http://a"), .get 2 (some "http://a/")] ++
            .answer 0 sampleReply ::
              [.finish 0, .get 3 (some "http://a"),
                .setClock sample.expiresAt])).now ∧
      (start {} .epoch).Reused
        ⟨0, "http://a", "http://a/.well-known/openid-configuration"⟩
        sample
        [.get 1 (some "http://a"), .get 2 (some "http://a/")]
        sampleReply
        [.finish 0, .get 3 (some "http://a"),
          .setClock sample.expiresAt] := by
  have hSends :
      ((start {} .epoch).run
        ([.get 1 (some "http://a"), .get 2 (some "http://a/")] ++
          .answer 0 sampleReply ::
            [.finish 0, .get 3 (some "http://a"),
              .setClock sample.expiresAt])).Sends
        (.get 4 (some "http://a"))
        ⟨1, "http://a",
          "http://a/.well-known/openid-configuration"⟩ := by
    unfold Sends
    decide +kernel
  refine
    request_due {} .epoch
      (r := ⟨0, "http://a",
        "http://a/.well-known/openid-configuration"⟩)
      ?_ ?_ ?_ ?_ ?_ hSends rfl
  · decide +kernel
  · decide +kernel
  · decide +kernel
  · simp [Forgets]
  · decide +kernel

end Exchange

end KeyAssertion
