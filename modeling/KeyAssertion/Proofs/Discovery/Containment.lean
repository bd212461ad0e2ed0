import KeyAssertion.Proofs.Discovery.Failure

/-
  Which errors pass through the cache: a caller comes to a
  document, an error of discovery or its own departure, and a
  fetch without a document leaves no entry, in all runs but
  those in which one of a few faults occurs.

  Key definitions include:
    * `Discovery.Escapes`
    * `Exchange.Leaks`
    * `Exchange.Spills`
    * `Exchange.Spilled`
    * `Exchange.Contained`

  Key theorems include:
    * `Discovery.escapes_iff`
    * `Exchange.leaks_iff`
    * `Exchange.contained_iff`
-/

namespace KeyAssertion

/-
  Whether a reply is one that a fetch has to cope with: any
  response, or a failure of the protocol or of a value.
-/
def HttpReply.isForeseen : HttpReply → Bool
  | .failure (.other _ _) => false
  | _ => true

/-
  Whether a caller that comes to an outcome has a document, an
  error of discovery or its own departure.
-/
def Outcome.isForeseen (o : Outcome) : Bool :=
  match o.result with
  | .ok _ => true
  | .error .timedOut => true
  | .error .cancelled => true
  | .error e => e.isDiscovery

------------------------------------------------------------
-- Fetches
------------------------------------------------------------

namespace Discovery

section Foreign

variable {α β : Type}

/- An attempt ends in an error that is not one of discovery. -/
def Foreign (r : Except FetchError α) : Prop :=
  ∃ error, r = .error error ∧ error.isDiscovery = false

/- An attempt that comes to a value is not one of these. -/
@[simp] theorem not_foreign_ok (a : α) :
    ¬ Foreign (.ok a : Except FetchError α) := by
  rintro ⟨_, hError, _⟩
  cases hError

/- An attempt that fails is one of these by its error. -/
@[simp] theorem foreign_error_iff (error : FetchError) :
    Foreign (.error error : Except FetchError α) ↔
      error.isDiscovery = false := by
  simp [Foreign]

/- An attempt that fails by discovery is not one of these. -/
@[simp] theorem not_foreign_mapError
    (r : Except DiscoveryError α) :
    ¬ Foreign (r.mapError FetchError.discovery) := by
  rintro ⟨_, hError, hForeign⟩
  rcases (Attempt.mapError_eq_error_iff _ _ _).mp hError with
    ⟨_, _, rfl⟩
  cases hForeign

/- Two attempts in a row are one of these by the one or the other. -/
theorem foreign_bind_iff
    (r : Except FetchError α)
    (f : α → Except FetchError β) :
    Foreign (r >>= f) ↔
      Foreign r ∨ ∃ a, r = .ok a ∧ Foreign (f a) := by
  cases r with
  | error e => simp [bind, Except.bind]
  | ok a => simp [bind, Except.bind]

end Foreign

/- The location of a response is no matter of discovery alone. -/
theorem foreign_checkLocation_iff
    (authority location : String)
    (u : Url) :
    Foreign (checkLocation authority u location) ↔
      ∃ fault,
        Location.check u location = .error (.incomplete fault) := by
  unfold checkLocation
  cases Location.check u location with
  | ok _ => simp
  | error fault => cases fault <;> simp [FetchError.isDiscovery]

/- The status of a response is a matter of discovery. -/
theorem not_foreign_checkStatus
    (authority : String)
    (u : Url)
    (r : HttpResponse) :
    ¬ Foreign (checkStatus authority u r) := by
  unfold checkStatus
  split <;> simp [FetchError.isDiscovery]

/- A body is none only if it is nested too deeply. -/
theorem foreign_readBody_iff
    (authority : String)
    (r : HttpResponse) :
    Foreign (readBody authority r) ↔
      Body.read r.body = .error .tooDeep := by
  unfold readBody
  cases Body.read r.body with
  | ok _ => simp
  | error fault => cases fault <;> simp [FetchError.isDiscovery]

/-
  A response is read to an error that is not one of discovery
  by the location that it tells or by the body of a success.
-/
theorem foreign_readResponse_iff
    {authority : String}
    {u : Url}
    (hAbsolute : u.isAbsolute = true)
    (r : HttpResponse) :
    Foreign (readResponse authority u r) ↔
      (∃ location fault,
        r.location? = some location ∧
          Location.check u location = .error (.incomplete fault)) ∨
      (HttpStatus.isSuccess r.status = true ∧
        Body.read r.body = .error .tooDeep) := by
  unfold readResponse
  by_cases hSuccess : HttpStatus.isSuccess r.status = true
  · have hStatus : checkStatus authority u r = .ok () := by
      rw [checkStatus, if_pos hSuccess]
    simp [hAbsolute, location?_of_isSuccess hSuccess, hSuccess,
      hStatus, foreign_bind_iff, foreign_readBody_iff]
  · have hStatus : ∀ a, checkStatus authority u r ≠ .ok a := by
      intro a
      simp [checkStatus, hSuccess]
    cases hTold : r.location? with
    | none =>
        simp [hAbsolute, hSuccess, hStatus, foreign_bind_iff,
          not_foreign_checkStatus]
    | some location =>
        simp [hAbsolute, hSuccess, hStatus, foreign_bind_iff,
          not_foreign_checkStatus, foreign_checkLocation_iff]

/-
  What makes a fetch end in an error that is not one of
  discovery: its request is too long, the location that a
  response tells to go to cannot be completed, or its body is
  nested too deeply.
-/
inductive Escapes (authority : String) : HttpReply → Prop
  | tooLong
      {reply : HttpReply}
      (hLong :
        Url.longest <
          (authority ++ Authority.wellKnownPath).toList.length) :
      Escapes authority reply
  | location
      {u : Url} {r : HttpResponse}
      {location : String} {fault : Url.Fault}
      (hRequest : request authority = .ok u)
      (hTold : r.location? = some location)
      (hIncomplete :
        Location.check u location = .error (.incomplete fault)) :
      Escapes authority (.response r)
  | tooDeep
      {r : HttpResponse}
      (hSuccess : HttpStatus.isSuccess r.status = true)
      (hDeep : Body.read r.body = .error .tooDeep) :
      Escapes authority (.response r)

/-
  For an authority in normal form and a reply that is foreseen,
  there is nothing else.
-/
theorem escapes_iff
    {raw : Option String}
    {authority : String}
    (hKey : Authority.normalize raw = .ok authority)
    {reply : HttpReply}
    (hForeseen : reply.isForeseen = true) :
    Foreign (fetch authority reply) ↔ Escapes authority reply := by
  rcases request_of_normalize hKey with
    ⟨hShort, u, hRequest, hAbsolute⟩ | ⟨hLong, hRequest⟩
  · have hRead : fetch authority reply = read authority u reply := by
      rw [fetch, hRequest]
      rfl
    rw [hRead]
    constructor
    · intro hForeign
      cases reply with
      | response r =>
          rcases (foreign_readResponse_iff hAbsolute r).mp
              hForeign with
            ⟨location, fault, hTold, hIncomplete⟩ |
              ⟨hSuccess, hDeep⟩
          · exact Escapes.location hRequest hTold hIncomplete
          · exact Escapes.tooDeep hSuccess hDeep
      | failure f =>
          cases f with
          | protocol _ => simp [read, FetchError.isDiscovery] at hForeign
          | value _ => simp [read, FetchError.isDiscovery] at hForeign
          | other _ _ => cases hForeseen
    · intro hEscapes
      cases hEscapes with
      | tooLong hLong =>
          exact absurd hLong (Nat.not_lt.mpr hShort)
      | location hSame hTold hIncomplete =>
          cases hRequest.symm.trans hSame
          exact
            (foreign_readResponse_iff hAbsolute _).mpr
              (Or.inl ⟨_, _, hTold, hIncomplete⟩)
      | tooDeep hSuccess hDeep =>
          exact
            (foreign_readResponse_iff hAbsolute _).mpr
              (Or.inr ⟨hSuccess, hDeep⟩)
  · have hFetch :
        fetch authority reply = .error (.url .tooLong) := by
      rw [fetch, hRequest]
      rfl
    rw [hFetch, foreign_error_iff]
    exact ⟨fun _ => Escapes.tooLong hLong, fun _ => rfl⟩

end Discovery

namespace Exchange

variable {x y : Exchange} {e : Event}
variable {f : Fetch} {reply : HttpReply}

------------------------------------------------------------
-- Results
------------------------------------------------------------

/-
  What makes a fetch for an authority end in an error that is
  not one of discovery, now and with a reply: such an error of
  its own, or metadata that cannot be dated.
-/
inductive Leaks
    (x : Exchange)
    (f : Fetch)
    (reply : HttpReply) : Prop
  | fetch
      (hEscapes : Discovery.Escapes f.authority reply)
  | undated
      {m : DiscoveryMetadata} {error : CacheError}
      (hFetch : Discovery.fetch f.authority reply = .ok m)
      (hDate :
        x.cache.document x.now f.authority m = .error error)
      (hForeign : error.isDiscovery = false)

/- Nothing else makes it so. -/
theorem leaks_iff
    {raw : Option String}
    (hKey : Authority.normalize raw = .ok f.authority)
    (hForeseen : reply.isForeseen = true) :
    (∃ error,
      x.resultOf f reply = .error error ∧
        error.isDiscovery = false) ↔
    x.Leaks f reply := by
  have hEscapes := Discovery.escapes_iff hKey hForeseen
  constructor
  · rintro ⟨error, hResult, hForeign⟩
    rcases DiscoveryCache.store_error_cases hResult with
      ⟨cause, hFetch, rfl, _⟩ | ⟨m, hFetch, hDate, _⟩
    · exact Leaks.fetch (hEscapes.mp ⟨cause, hFetch, hForeign⟩)
    · exact Leaks.undated hFetch hDate hForeign
  · intro hLeaks
    unfold resultOf DiscoveryCache.store
    cases hLeaks with
    | fetch h =>
        rcases hEscapes.mpr h with ⟨cause, hFetch, hForeign⟩
        rw [hFetch]
        exact ⟨.fetch cause, rfl, hForeign⟩
    | undated hFetch hDate hForeign =>
        simp only [hFetch, hDate]
        exact ⟨_, rfl, hForeign⟩

/- A fetch that ends so leaves all entries. -/
theorem entries_conclude_of_foreign
    {error : CacheError}
    (hResult : x.resultOf f reply = .error error)
    (hForeign : error.isDiscovery = false) :
    (x.conclude f reply).cache.entries = x.cache.entries := by
  rcases DiscoveryCache.store_error_cases hResult with
    ⟨cause, _, rfl, hEntries⟩ | ⟨_, _, _, hEntries⟩
  · rw [DiscoveryCache.fail_of_not_isDiscovery hForeign] at hEntries
    exact hEntries
  · exact hEntries

------------------------------------------------------------
-- Outcomes
------------------------------------------------------------

/- The result of a fetch is no departure. -/
theorem isForeseen_resultOf_iff
    {n : Option Nat} :
    (⟨n, x.resultOf f reply⟩ : Outcome).isForeseen = false ↔
      ∃ error,
        x.resultOf f reply = .error error ∧
          error.isDiscovery = false := by
  cases hResult : x.resultOf f reply with
  | ok d => simp [Outcome.isForeseen]
  | error error =>
      rcases DiscoveryCache.store_error_cases hResult with
        ⟨cause, _, rfl, _⟩ | ⟨m, _, hDate, _⟩
      · simp [Outcome.isForeseen]
      · rcases DiscoveryCache.document_error_cases hDate with
          ⟨fault, _, rfl⟩ | ⟨date, rfl⟩
        · simp [Outcome.isForeseen]
        · simp [Outcome.isForeseen]

------------------------------------------------------------
-- Runs
------------------------------------------------------------

/- Whether an event is a reply that is foreseen, or no reply. -/
def Event.isForeseen : Event → Bool
  | .answer _ reply => reply.isForeseen
  | _ => true

/- A fetch was answered in a run with what makes it leak. -/
def Leaked
    (x : Exchange)
    (events : List Event)
    (f : Fetch) : Prop :=
  x.Happened events fun y e =>
    ∃ reply,
      e = .answer f.number reply ∧ y.Pending f ∧ y.Leaks f reply

/-
  What makes an event after a run give a caller an error that is
  not one of discovery or leave an entry that should be gone: a
  call for a host whose coding cannot be undone, the callback of
  a fetch that leaked, for which callers wait, a call before
  this callback that is served no entry, or the reply by which a
  fetch leaks whose authority has an entry.
-/
inductive Spills
    (x : Exchange)
    (before : List Event) : Event → Prop
  | host
      {caller : Nat} {authority : Option String}
      {fault : Domain.Fault}
      (hFault :
        Authority.normalize authority = .error (.host fault)) :
      Spills x before (.get caller authority)
  | told
      {f : Fetch} {caller : Nat}
      (hLeaked : x.Leaked before f)
      (hRuns : f ∈ (x.run before).running)
      (hWaits : (caller, f.number) ∈ (x.run before).waiting) :
      Spills x before (.finish f.number)
  | late
      {f : Fetch} {caller : Nat} {authority : Option String}
      (hLeaked : x.Leaked before f)
      (hRuns : f ∈ (x.run before).running)
      (hKey : Authority.normalize authority = .ok f.authority)
      (hNoEntry :
        (x.run before).cache.fresh? (x.run before).now
          f.authority = none) :
      Spills x before (.get caller authority)
  | kept
      {f : Fetch} {reply : HttpReply} {entry : CachedDocument}
      (hPending : (x.run before).Pending f)
      (hLeaks : (x.run before).Leaks f reply)
      (hEntry :
        (x.run before).cache.entries.lookup f.authority =
          some entry) :
      Spills x before (.answer f.number reply)

/- Such an event happens in a run. -/
def Spilled
    (x : Exchange)
    (events : List Event) : Prop :=
  ∃ before e after,
    events = before ++ e :: after ∧ x.Spills before e

/- What is spilled stays so. -/
theorem Spilled.append
    {es : List Event}
    (h : x.Spilled es)
    (fs : List Event) :
    x.Spilled (es ++ fs) := by
  rcases h with ⟨before, e, after, rfl, hSpills⟩
  exact ⟨before, e, after ++ fs, by simp, hSpills⟩

/- A fetch comes to a result without a document and leaves an entry. -/
def LeavesEntry
    (x : Exchange)
    (e : Event) : Prop :=
  ∃ f reply error entry,
    e = .answer f.number reply ∧ x.Pending f ∧
      x.resultOf f reply = .error error ∧
      (x.step e).1.cache.entries.lookup f.authority = some entry

/-
  Every caller that has come to something has a document, an
  error of discovery or its own departure, and no fetch without
  a document left an entry for its authority.
-/
structure Contained
    (x : Exchange)
    (events : List Event) : Prop where
  foreseen :
    ∀ caller outcome,
      (caller, outcome) ∈ (x.run events).outcomes →
        outcome.isForeseen = true
  dropped : ¬ x.Happened events LeavesEntry

section Start

variable {settings : DiscoverySettings} {now : Moment}
variable {events : List Event}

/- The result of a fetch in a run is foreign if and only if it leaks. -/
theorem running_leaks_iff
    (hRuns : f ∈ ((start settings now).run events).running)
    (hForeseen : reply.isForeseen = true) :
    (∃ error,
      ((start settings now).run events).resultOf f reply =
          .error error ∧
        error.isDiscovery = false) ↔
    ((start settings now).run events).Leaks f reply := by
  rcases running_called hRuns with ⟨_, _, _, hKey⟩
  exact leaks_iff hKey hForeseen

/- The result of a fetch that has landed is no departure. -/
theorem isForeseen_landed_iff
    {n : Option Nat}
    {result : Except CacheError DiscoveryDocument}
    (hLanded : ((start settings now).run events).Landed f result) :
    (⟨n, result⟩ : Outcome).isForeseen = false ↔
      ∃ error, result = .error error ∧ error.isDiscovery = false := by
  rcases landed_ended hLanded with ⟨_, _, _, _, _, _, _, rfl⟩
  exact isForeseen_resultOf_iff

/- It is foreign if and only if the fetch leaked. -/
theorem landed_leaked_iff
    (hReplies : ∀ e ∈ events, e.isForeseen = true)
    {result : Except CacheError DiscoveryDocument}
    (hLanded : ((start settings now).run events).Landed f result) :
    (∃ error, result = .error error ∧ error.isDiscovery = false) ↔
      (start settings now).Leaked events f := by
  have hStart := Consistent.of_start settings now
  have hEnded := landed_ended hLanded
  constructor
  · rintro ⟨error, rfl, hForeign⟩
    rcases hEnded with
      ⟨before, e, after, rfl, reply, rfl, hPending, hResult⟩
    have hReply := hReplies (.answer f.number reply) (by simp)
    refine ⟨before, _, after, rfl, reply, rfl, hPending, ?_⟩
    exact (running_leaks_iff hPending.1 hReply).mp
      ⟨error, hResult.symm, hForeign⟩
  · rintro ⟨before, e, after, rfl, reply, rfl, hPending, hLeaks⟩
    have hReply := hReplies (.answer f.number reply) (by simp)
    rcases (running_leaks_iff hPending.1 hReply).mpr hLeaks with
      ⟨error, hResult, hForeign⟩
    have hAlso :
        (start settings now).Ended
          (before ++ .answer f.number reply :: after) f
          (.error error) :=
      ⟨before, _, after, rfl, reply, rfl, hPending, hResult.symm⟩
    exact
      ⟨error, (hStart.ended_unique hEnded hAlso rfl).2, hForeign⟩

/- A fetch that leaked and still runs has landed with such an error. -/
theorem Leaked.landed
    (hReplies : ∀ e ∈ events, e.isForeseen = true)
    (hLeaked : (start settings now).Leaked events f)
    (hRuns : f ∈ ((start settings now).run events).running) :
    ∃ error,
      ((start settings now).run events).Landed f (.error error) ∧
        error.isDiscovery = false := by
  rcases id hLeaked with ⟨before, _, after, hEvents, reply, rfl, hOpen, _⟩
  have hEnded :
      (start settings now).Ended events f
        (((start settings now).run before).resultOf f reply) :=
    ⟨before, _, after, hEvents, reply, rfl, hOpen, rfl⟩
  have hLanded := landed_of_ended hEnded hRuns
  rcases (landed_leaked_iff hReplies hLanded).mpr hLeaked with
    ⟨error, hResult, hForeign⟩
  rw [hResult] at hLanded
  exact ⟨error, hLanded, hForeign⟩

/- A new outcome that is not foreseen is the work of its event. -/
theorem spills_of_outcome
    {caller : Nat}
    {outcome : Outcome}
    (hReplies : ∀ e ∈ events, e.isForeseen = true)
    (hMove : Move ((start settings now).run events) e y)
    (hNew : (caller, outcome) ∈ y.outcomes)
    (hOld :
      (caller, outcome) ∉
        ((start settings now).run events).outcomes)
    (hForeign : outcome.isForeseen = false) :
    (start settings now).Spills events e := by
  have hConsistent := run_consistent settings now events
  cases hMove with
  | @faulty _ _ fault hFault =>
      rcases List.mem_cons.mp hNew with hSelf | hMem
      · cases hSelf
        cases fault with
        | host _ => exact Spills.host hFault
        | _ => cases hForeign
      · exact absurd hMem hOld
  | hit _ _ _ =>
      rcases List.mem_cons.mp hNew with hSelf | hMem
      · cases hSelf
        cases hForeign
      · exact absurd hMem hOld
  | late hKey hNoEntry hListed hResult =>
      rcases List.mem_cons.mp hNew with hSelf | hMem
      · cases hSelf
        have hLanded := hConsistent.landed_of_listed hListed hResult
        rw [isForeseen_landed_iff hLanded,
          landed_leaked_iff hReplies hLanded] at hForeign
        exact Spills.late hForeign hLanded.1 hKey hNoEntry
      · exact absurd hMem hOld
  | @left _ d _ =>
      rcases List.mem_cons.mp hNew with hSelf | hMem
      · cases hSelf
        cases d <;> cases hForeign
      · exact absurd hMem hOld
  | finished hLanded hNumber =>
      rcases mem_outcomes_complete.mp hNew with
        ⟨hWaits, hSelf⟩ | hMem
      · change outcome = _ at hSelf
        rw [hSelf, isForeseen_landed_iff hLanded,
          landed_leaked_iff hReplies hLanded] at hForeign
        rw [← hNumber]
        exact Spills.told hForeign hLanded.1 hWaits
      · exact absurd hMem hOld
  | _ => exact absurd hNew hOld

/- An entry that a fetch without a document leaves is, too. -/
theorem spills_of_leavesEntry
    (hReply : e.isForeseen = true)
    (hLeaves : ((start settings now).run events).LeavesEntry e) :
    (start settings now).Spills events e := by
  have hConsistent := run_consistent settings now events
  rcases hLeaves with
    ⟨f, reply, error, entry, rfl, hPending, hResult, hEntry⟩
  rw [hConsistent.eq_conclude hPending (step_move _ _)] at hEntry
  cases hDiscovery : error.isDiscovery with
  | true =>
      rw [lookup_conclude_of_isDiscovery hResult hDiscovery] at hEntry
      cases hEntry
  | false =>
      rw [entries_conclude_of_foreign hResult hDiscovery] at hEntry
      have hLeaks :=
        (running_leaks_iff hPending.1 hReply).mp
          ⟨error, hResult, hDiscovery⟩
      exact Spills.kept hPending hLeaks hEntry

/- What a caller comes to at some event of a contained run. -/
theorem Contained.foreseen_at
    {rest : List Event}
    (h : x.Contained (events ++ e :: rest))
    {caller : Nat}
    {outcome : Outcome}
    (hOutcome :
      (caller, outcome) ∈ (x.run (events ++ [e])).outcomes) :
    outcome.isForeseen = true := by
  apply h.foreseen caller
  rw [run_append_cons]
  exact run_mem_outcomes _ hOutcome

/- No event of this kind happens in a contained run. -/
theorem Contained.not_spills
    {rest : List Event}
    (h : (start settings now).Contained (events ++ e :: rest))
    (hReplies : ∀ e' ∈ events ++ e :: rest, e'.isForeseen = true) :
    ¬ (start settings now).Spills events e := by
  have hConsistent := run_consistent settings now events
  have hMove := run_move (start settings now) events e
  have hEarlier : ∀ e' ∈ events, e'.isForeseen = true :=
    fun e' hMem => hReplies e' (List.mem_append_left _ hMem)
  -- No caller is told at this event that a fetch leaked.
  have hTold :
      ∀ (f : Fetch) (caller : Nat),
        (start settings now).Leaked events f →
          f ∈ ((start settings now).run events).running →
            (∀ error,
              ((start settings now).run events).Landed f
                  (.error error) →
                (caller,
                    (⟨some f.number, .error error⟩ : Outcome)) ∈
                  ((start settings now).run
                    (events ++ [e])).outcomes) →
              False := by
    intro f caller hLeaked hRuns hGiven
    rcases hLeaked.landed hEarlier hRuns with
      ⟨error, hLanded, hForeign⟩
    have hForeseen := h.foreseen_at (hGiven error hLanded)
    have hUnforeseen :=
      (isForeseen_landed_iff (n := some f.number) hLanded).mpr
        ⟨error, rfl, hForeign⟩
    rw [hUnforeseen] at hForeseen
    cases hForeseen
  intro hSpills
  cases hSpills with
  | @host caller authority fault hFault =>
      have hOutcome :
          (caller, (⟨none, .error (.authority (.host fault))⟩ :
              Outcome)) ∈
            ((start settings now).run
              (events ++ [.get caller authority])).outcomes := by
        rw [run_concat]
        simp [step, get, hFault, settle]
      cases h.foreseen_at hOutcome
  | @told f caller hLeaked hRuns hWaits =>
      refine hTold f caller hLeaked hRuns fun error hLanded => ?_
      rw [hConsistent.eq_complete hLanded hMove]
      exact mem_outcomes_complete.mpr (Or.inl ⟨hWaits, rfl⟩)
  | @late f caller authority hLeaked hRuns hKey hNoEntry =>
      refine hTold f caller hLeaked hRuns fun error hLanded => ?_
      have hListed := hConsistent.listed f hRuns
      rw [run_concat]
      change _ ∈ (((start settings now).run events).get caller
        authority).outcomes
      rw [get_of_landed hKey hNoEntry hListed hLanded.2 caller]
      exact List.mem_cons_self
  | @kept f reply entry hPending hLeaks hEntry =>
      have hReply := hReplies (.answer f.number reply) (by simp)
      rcases (running_leaks_iff hPending.1 hReply).mpr hLeaks with
        ⟨error, hResult, hForeign⟩
      have hAfter :
          (((start settings now).run events).step
            (.answer f.number reply)).1.cache.entries.lookup
              f.authority = some entry := by
        rw [hConsistent.eq_conclude hPending (step_move _ _),
          entries_conclude_of_foreign hResult hForeign]
        exact hEntry
      exact
        h.dropped
          ⟨events, _, rest, rfl, f, reply, error, entry, rfl, hPending,
            hResult, hAfter⟩

/-
  Where all replies are foreseen, a run is contained if and only
  if no such event happens in it.
-/
theorem contained_iff
    (settings : DiscoverySettings)
    (now : Moment)
    (events : List Event)
    (hReplies : ∀ e ∈ events, e.isForeseen = true) :
    (start settings now).Contained events ↔
      ¬ (start settings now).Spilled events := by
  constructor
  · rintro hContained ⟨before, e, after, rfl, hSpills⟩
    exact hContained.not_spills hReplies hSpills
  · intro hNone
    constructor
    · revert hReplies hNone
      refine run_induction
        (P := fun es y =>
          (∀ e ∈ es, e.isForeseen = true) →
            ¬ (start settings now).Spilled es →
              ∀ caller outcome,
                (caller, outcome) ∈ y.outcomes →
                  outcome.isForeseen = true)
        ?_ ?_ events
      · intro _ _ caller outcome hOutcome
        cases hOutcome
      · intro es e y ih hMove hReplies hNone caller outcome hOutcome
        have hEarlier : ∀ e' ∈ es, e'.isForeseen = true :=
          fun e' hMem => hReplies e' (List.mem_append_left _ hMem)
        by_cases hOld :
            (caller, outcome) ∈
              ((start settings now).run es).outcomes
        · have hBefore : ¬ (start settings now).Spilled es :=
            fun hSpilled => hNone (hSpilled.append [e])
          exact ih hEarlier hBefore caller outcome hOld
        · cases hForeseen : outcome.isForeseen with
          | true => rfl
          | false =>
              have hSpills :=
                spills_of_outcome hEarlier hMove hOutcome hOld
                  hForeseen
              exact absurd ⟨es, e, [], rfl, hSpills⟩ hNone
    · rintro ⟨before, e, after, rfl, hLeaves⟩
      have hSpills :=
        spills_of_leavesEntry (hReplies e (by simp)) hLeaves
      exact hNone ⟨before, e, after, rfl, hSpills⟩

end Start

/- A response that tells to go to a location that has no host. -/
def strayReply : HttpReply :=
  .response { status := 302, headers := [("location", "http:b")] }

/- Where the document of the sample is requested. -/
def sampleUrl : Url where
  scheme := "http"
  userinfo := ""
  host := "a"
  port := none
  path := "/.well-known/openid-configuration"
  query := none
  fragment := none

/- The error of such a response passes, and the old entry stays. -/
theorem not_contained_of_location :
    ¬ (start {} .epoch).Contained
      [.get 1 (some "http://a"), .answer 0 sampleReply, .finish 0,
        .setClock sample.expiresAt, .get 2 (some "http://a/"),
        .answer 1 strayReply] := by
  have hIff :=
    contained_iff {} .epoch
      [.get 1 (some "http://a"), .answer 0 sampleReply, .finish 0,
        .setClock sample.expiresAt, .get 2 (some "http://a/"),
        .answer 1 strayReply]
      (by decide)
  have hRequest : Discovery.request "http://a" = .ok sampleUrl := by
    decide +kernel
  have hIncomplete :
      Location.check sampleUrl "http:b" =
        .error (.incomplete .pathAfterHost) := by
    decide +kernel
  have hEscapes : Discovery.Escapes "http://a" strayReply :=
    Discovery.Escapes.location hRequest (by decide +kernel) hIncomplete
  have hPending :
      ((start {} .epoch).run
        [.get 1 (some "http://a"), .answer 0 sampleReply, .finish 0,
          .setClock sample.expiresAt,
          .get 2 (some "http://a/")]).Pending ⟨1, "http://a"⟩ := by
    decide +kernel
  have hEntry :
      ((start {} .epoch).run
        [.get 1 (some "http://a"), .answer 0 sampleReply, .finish 0,
          .setClock sample.expiresAt,
          .get 2 (some "http://a/")]).cache.entries.lookup
            "http://a" = some ⟨0, sample⟩ := by
    decide +kernel
  have hSpills := Spills.kept hPending (Leaks.fetch hEscapes) hEntry
  intro hContained
  exact hIff.mp hContained ⟨_, _, [], rfl, hSpills⟩

end Exchange

end KeyAssertion
