import KeyAssertion.Proofs.Discovery.Callers
import KeyAssertion.Proofs.Discovery.Failure

/-
  This file defines the run that is left when everything that
  names one authority is left out, what of an exchange concerns
  one authority, and shows that events which name neither leave
  that alone.

  Key definitions include:
    * `Exchange.callersFor`
    * `Exchange.names`
    * `Exchange.carry`
    * `Exchange.without`
    * `Exchange.resultFor?`
    * `Exchange.DatedBy`
    * `Exchange.Alike`
    * `Exchange.Elsewhere`

  Key theorems include:
    * `Exchange.Alike.result`
    * `Exchange.Alike.entry_conclude`
    * `Exchange.Attends.move`
    * `Exchange.alike_launch`
    * `Exchange.Consistent.alike_conclude`
    * `Exchange.Consistent.alike_complete`
    * `Exchange.alike_of_elsewhere`
-/

namespace KeyAssertion

/- A duration depends on the settings and on one entry of its list. -/
theorem DiscoveryCache.durationOf_congr
    {c c' : DiscoveryCache}
    {authority : Option String}
    (hSettings : c.settings = c'.settings)
    (hDurations :
      ∀ key,
        Authority.normalize authority = .ok key →
          c.durations.lookup key = c'.durations.lookup key) :
    c.durationOf authority = c'.durationOf authority := by
  unfold durationOf
  cases hKey : Authority.normalize authority with
  | error fault => rfl
  | ok key =>
      simp only [Except.mapError, bind, Except.bind,
        hDurations key hKey, hSettings]

namespace Exchange

------------------------------------------------------------
-- Leaving Out an Authority
------------------------------------------------------------

/- The callers that ask for an authority in a run. -/
def callersFor
    (key : String)
    (events : List Event) : List Nat :=
  events.filterMap fun e =>
    match e with
    | .get caller authority =>
        if Authority.normalize authority = .ok key then
          some caller
        else
          none
    | _ => none

/-
  Whether an event names an authority: in words, by a caller
  that asks for it, or by the fetch that a reply or a callback
  is to.
-/
def names
    (x : Exchange)
    (key : String)
    (callers : List Nat) : Event → Bool
  | .get _ authority => Authority.normalize authority = .ok key
  | .leave caller _ => callers.contains caller
  | .answer n _ => x.running.contains ⟨n, key⟩
  | .finish n => x.running.contains ⟨n, key⟩
  | .configure authority _ => Authority.normalize authority = .ok key
  | .invalidate authority => Authority.normalize authority = .ok key
  | .clear => false
  | .setClock _ => false

/- The authority of a fetch that runs. -/
def authorityOf?
    (x : Exchange)
    (n : Nat) : Option String :=
  (x.running.find? fun f => f.number == n).map Fetch.authority

/-
  The number of the fetch that is under way for an authority.
  If there is none it is a number that no fetch has yet.
-/
def numberFor
    (x : Exchange)
    (key? : Option String) : Nat :=
  (key?.bind fun key => x.cache.inFlight.lookup key).getD
    x.cache.nextFetch

/-
  The event that stands in one exchange for an event in
  another.  A reply goes to the fetch for the same authority,
  whatever number this fetch has, and so does a callback.
-/
def carry
    (x y : Exchange) : Event → Event
  | .answer n reply => .answer (y.numberFor (x.authorityOf? n)) reply
  | .finish n => .finish (y.numberFor (x.authorityOf? n))
  | e => e

/-
  The events of a run that do not name an authority, as they
  stand in the run that they make up on their own.
-/
def leaveOut
    (key : String)
    (callers : List Nat)
    (x y : Exchange) : List Event → List Event
  | [] => []
  | e :: es =>
      if x.names key callers e then
        leaveOut key callers (x.step e).1 y es
      else
        x.carry y e ::
          leaveOut key callers (x.step e).1
            (y.step (x.carry y e)).1 es

/- The events of a run without everything that names an authority. -/
def without
    (x : Exchange)
    (key : String)
    (events : List Event) : List Event :=
  leaveOut key (callersFor key events) x x events

------------------------------------------------------------
-- What Concerns an Authority
------------------------------------------------------------

/- The requests sent for an authority, in their order. -/
def requestsFor
    (x : Exchange)
    (key : String) : List String :=
  (x.requests.filter fun r => r.authority == key).map SentRequest.url

/- What the fetch that is listed for an authority has come to. -/
def resultFor?
    (x : Exchange)
    (key : String) : Option (Except CacheError DiscoveryDocument) :=
  (x.cache.inFlight.lookup key).bind x.result?

/- It is the result of the fetch with the number that is listed. -/
theorem resultFor?_of_listed
    {x : Exchange}
    {key : String}
    {n : Nat}
    (hListed : x.cache.inFlight.lookup key = some n) :
    x.resultFor? key = x.result? n := by
  simp [resultFor?, hListed]

/- It depends on which fetch is listed and on what this one has come to. -/
theorem resultFor?_congr
    {x y : Exchange}
    {key : String}
    (hList :
      x.cache.inFlight.lookup key = y.cache.inFlight.lookup key)
    (hResult :
      ∀ n,
        x.cache.inFlight.lookup key = some n →
          x.result? n = y.result? n) :
    x.resultFor? key = y.resultFor? key := by
  unfold resultFor?
  rw [← hList]
  cases hListed : x.cache.inFlight.lookup key with
  | none => rfl
  | some n => exact hResult n hListed

/-
  The documents of an authority last as long as those of an
  authority should: a request can be sent for the one, and its
  normal form, read again, is the other.
-/
def DatedBy (key other : String) : Prop :=
  (∃ u, Discovery.request key = .ok u) ∧
    Authority.normalize (some key) = .ok other

/-
  Two exchanges are alike for an authority and the callers that
  ask for it: they agree on the clock and the settings, on the
  durations of the authority and of the one that its documents
  are dated by, on its entry, on whether a fetch is under way
  for it and what this one has come to, on the requests sent for
  it, and on which of the callers wait and what they have come
  to.
-/
structure Alike
    (key : String)
    (callers : List Nat)
    (x y : Exchange) : Prop where
  now : x.now = y.now
  settings : x.cache.settings = y.cache.settings
  duration :
    x.cache.durations.lookup key = y.cache.durations.lookup key
  dated :
    ∀ k,
      DatedBy key k →
        x.cache.durations.lookup k = y.cache.durations.lookup k
  entry :
    (x.cache.entries.lookup key).map CachedDocument.document =
      (y.cache.entries.lookup key).map CachedDocument.document
  underWay :
    (x.cache.inFlight.lookup key).isSome =
      (y.cache.inFlight.lookup key).isSome
  landed : x.resultFor? key = y.resultFor? key
  requests : x.requestsFor key = y.requestsFor key
  waits : ∀ c ∈ callers, x.Waits c ↔ y.Waits c
  told :
    ∀ c ∈ callers,
      (x.outcome? c).map Outcome.result =
        (y.outcome? c).map Outcome.result

namespace Alike

variable {key : String} {callers : List Nat} {x y z : Exchange}

/- An exchange is like itself. -/
theorem refl
    (key : String)
    (callers : List Nat)
    (x : Exchange) :
    Alike key callers x x where
  now := rfl
  settings := rfl
  duration := rfl
  dated := fun _ _ => rfl
  entry := rfl
  underWay := rfl
  landed := rfl
  requests := rfl
  waits := fun _ _ => Iff.rfl
  told := fun _ _ => rfl

/- What is like another is so the other way round. -/
theorem symm
    (h : Alike key callers x y) :
    Alike key callers y x where
  now := h.now.symm
  settings := h.settings.symm
  duration := h.duration.symm
  dated := fun k hk => (h.dated k hk).symm
  entry := h.entry.symm
  underWay := h.underWay.symm
  landed := h.landed.symm
  requests := h.requests.symm
  waits := fun c hc => (h.waits c hc).symm
  told := fun c hc => (h.told c hc).symm

/- What is like a second that is like a third is like the third. -/
theorem trans
    (h : Alike key callers x y)
    (h' : Alike key callers y z) :
    Alike key callers x z where
  now := h.now.trans h'.now
  settings := h.settings.trans h'.settings
  duration := h.duration.trans h'.duration
  dated := fun k hk => (h.dated k hk).trans (h'.dated k hk)
  entry := h.entry.trans h'.entry
  underWay := h.underWay.trans h'.underWay
  landed := h.landed.trans h'.landed
  requests := h.requests.trans h'.requests
  waits := fun c hc => (h.waits c hc).trans (h'.waits c hc)
  told := fun c hc => (h.told c hc).trans (h'.told c hc)

/- What may be served is the same document. -/
theorem fresh
    (h : Alike key callers x y) :
    (x.cache.fresh? x.now key).map CachedDocument.document =
      (y.cache.fresh? y.now key).map CachedDocument.document := by
  have hServe :
      ∀ (c : DiscoveryCache) (now : Moment),
        (c.fresh? now key).map CachedDocument.document =
          ((c.entries.lookup key).map
            CachedDocument.document).filter fun d =>
              d.isFresh now := by
    intro c now
    rw [Option.filter_map]
    rfl
  rw [hServe, hServe, h.entry, h.now]

/- The authority has the same duration. -/
theorem durationOf
    (h : Alike key callers x y)
    {authority : Option String}
    (hKey : Authority.normalize authority = .ok key) :
    x.cache.durationOf authority = y.cache.durationOf authority := by
  apply DiscoveryCache.durationOf_congr h.settings
  intro k hk
  rw [hKey] at hk
  cases hk
  exact h.duration

/- Metadata that have been fetched become the same document. -/
theorem document
    (h : Alike key callers x y)
    {m : DiscoveryMetadata}
    {reply : HttpReply}
    (hFetch : Discovery.fetch key reply = .ok m) :
    x.cache.document x.now key m = y.cache.document y.now key m := by
  rcases (Discovery.fetch_eq_ok_iff _ _ _).mp hFetch with
    ⟨u, _, _, hRequest, _⟩
  have hDuration :
      x.cache.durationOf (some key) =
        y.cache.durationOf (some key) :=
    DiscoveryCache.durationOf_congr h.settings fun k hk =>
      h.dated k ⟨⟨u, hRequest⟩, hk⟩
  simp only [DiscoveryCache.document, hDuration, h.now]

/- A fetch for the authority comes to the same result. -/
theorem result
    (h : Alike key callers x y)
    (n m : Nat)
    (reply : HttpReply) :
    x.resultOf ⟨n, key⟩ reply = y.resultOf ⟨m, key⟩ reply := by
  change (x.cache.store x.now key n _).2 = (y.cache.store y.now key m _).2
  cases hFetch : Discovery.fetch key reply with
  | error e => simp [DiscoveryCache.store]
  | ok metadata =>
      simp only [DiscoveryCache.store, h.document hFetch]
      cases y.cache.document y.now key metadata with
      | error e => rfl
      | ok d => rfl

/- It leaves the same entry. -/
theorem entry_conclude
    (h : Alike key callers x y)
    (n m : Nat)
    (reply : HttpReply) :
    ((x.conclude ⟨n, key⟩ reply).cache.entries.lookup key).map
        CachedDocument.document =
      ((y.conclude ⟨m, key⟩ reply).cache.entries.lookup key).map
        CachedDocument.document := by
  change
    ((x.cache.store x.now key n _).1.entries.lookup key).map _ =
      ((y.cache.store y.now key m _).1.entries.lookup key).map _
  cases hFetch : Discovery.fetch key reply with
  | error e =>
      cases e with
      | discovery _ =>
          simp [DiscoveryCache.store, DiscoveryCache.fail,
            KeyedList.lookup_drop_self]
      | url _ => exact h.entry
      | tooDeep => exact h.entry
      | transport _ _ => exact h.entry
  | ok metadata =>
      simp only [DiscoveryCache.store, h.document hFetch]
      cases y.cache.document y.now key metadata with
      | error e => exact h.entry
      | ok d => simp [KeyedList.lookup_put_self]

end Alike

------------------------------------------------------------
-- The Callers of an Authority
------------------------------------------------------------

/-
  The callers that ask for an authority are those that wait for
  the fetch for it.
-/
def Attends
    (x : Exchange)
    (key : String)
    (callers : List Nat) : Prop :=
  ∀ w ∈ x.waiting,
    w.1 ∈ callers ↔ x.cache.inFlight.lookup key = some w.2

/- A call is one of the callers if and only if it asks for the authority. -/
def Event.Fits
    (key : String)
    (callers : List Nat)
    (e : Event) : Prop :=
  ∀ c authority,
    e = .get c authority →
      (c ∈ callers ↔ Authority.normalize authority = .ok key)

variable {x y : Exchange} {e : Event}
variable {key : String} {callers : List Nat}

/- A caller that attends waits for the fetch of the authority. -/
theorem Attends.waits_iff
    (h : x.Attends key callers)
    {c n : Nat}
    (hListed : x.cache.inFlight.lookup key = some n)
    (hCaller : c ∈ callers) :
    x.Waits c ↔ (c, n) ∈ x.waiting := by
  constructor
  · rintro ⟨m, hMem⟩
    have hSame := (h _ hMem).mp hCaller
    rw [hListed] at hSame
    rw [Option.some.inj hSame]
    exact hMem
  · intro hMem
    exact ⟨n, hMem⟩

/- Callers keep to their authority whatever happens. -/
theorem Attends.move
    (h : x.Attends key callers)
    (hConsistent : x.Consistent)
    (hMove : Move x e y)
    (hFits : e.Fits key callers) :
    y.Attends key callers := by
  cases hMove with
  | faulty _ => exact h
  | hit _ _ _ => exact h
  | late _ _ _ _ => exact h
  | @joined c authority k n hKey _ hListed _ =>
      intro w hw
      rcases List.mem_append.mp hw with hOld | hNew
      · exact h w hOld
      · rw [List.mem_singleton.mp hNew]
        change c ∈ callers ↔ x.cache.inFlight.lookup key = some n
        rw [hFits c authority rfl, hKey]
        constructor
        · intro hSame
          rw [← Except.ok.inj hSame]
          exact hListed
        · intro hAlso
          have hEq :=
            hConsistent.distinct _ (hConsistent.runs _ _ hListed) _
              (hConsistent.runs _ _ hAlso) rfl
          exact congrArg Except.ok (congrArg Fetch.authority hEq)
  | @started c authority k hKey _ hFree =>
      intro w hw
      change w.1 ∈ callers ↔ (KeyedList.put k _ _).lookup key = _
      rcases List.mem_append.mp hw with hOld | hNew
      · rw [h w hOld]
        by_cases hSame : key = k
        · subst hSame
          rcases hConsistent.awaited w hOld with ⟨f, hf, hNumber⟩
          have hBegun := hConsistent.begun f hf
          rw [hFree, KeyedList.lookup_put_self]
          constructor
          · intro hNone
            cases hNone
          · intro hLatest
            rw [hNumber, ← Option.some.inj hLatest] at hBegun
            exact absurd hBegun (Nat.lt_irrefl _)
        · rw [KeyedList.lookup_put_of_ne _ _ _ _ hSame]
      · rw [List.mem_singleton.mp hNew]
        change c ∈ callers ↔ _ = some x.cache.nextFetch
        rw [hFits c authority rfl, hKey]
        by_cases hSame : key = k
        · subst hSame
          rw [KeyedList.lookup_put_self]
          simp
        · rw [KeyedList.lookup_put_of_ne _ _ _ _ hSame]
          constructor
          · intro hEq
            exact absurd (Except.ok.inj hEq).symm hSame
          · intro hListed
            have hBegun := hConsistent.begun _ (hConsistent.runs _ _ hListed)
            exact absurd hBegun (Nat.lt_irrefl _)
  | left _ =>
      intro w hw
      exact h w (List.mem_filter.mp hw).1
  | absent _ => exact h
  | answered _ _ =>
      intro w hw
      rw [inFlight_conclude]
      exact h w hw
  | stray _ => exact h
  | @finished _ f result hLanded _ =>
      intro w hw
      rcases mem_waiting_complete.mp hw with ⟨hOld, hNumber⟩
      rw [h w hOld,
        hConsistent.lookup_inFlight_complete hLanded.1 result key]
      split
      · next hSame =>
          constructor
          · intro hListed
            rw [hSame, hConsistent.listed f hLanded.1] at hListed
            exact absurd (Option.some.inj hListed).symm hNumber
          · intro hNone
            cases hNone
      · exact Iff.rfl
  | unfinished _ => exact h
  | configured _ _ => exact h
  | notConfigured _ => exact h
  | invalidated _ => exact h
  | notInvalidated _ => exact h
  | cleared => exact h
  | clockSet => exact h

------------------------------------------------------------
-- Events Elsewhere
------------------------------------------------------------

/-
  An event does not concern an authority.  A duration that is
  set concerns also the authorities whose documents it dates.
-/
def Elsewhere
    (x : Exchange)
    (key : String)
    (callers : List Nat) : Event → Prop
  | .get c authority =>
      c ∉ callers ∧ Authority.normalize authority ≠ .ok key
  | .leave c _ => c ∉ callers
  | .answer n _ => ⟨n, key⟩ ∉ x.running
  | .finish n => ⟨n, key⟩ ∉ x.running
  | .configure authority _ =>
      Authority.normalize authority ≠ .ok key ∧
        ∀ k,
          DatedBy key k → Authority.normalize authority ≠ .ok k
  | .invalidate authority => Authority.normalize authority ≠ .ok key
  | .clear => False
  | .setClock _ => False

/- What one caller is told is nothing to the others. -/
theorem outcome?_settle_of_ne
    (x : Exchange)
    {c other : Nat}
    (hOther : other ≠ c)
    (o : Outcome) :
    (x.settle c o).outcome? other = x.outcome? other := by
  have hKey : (other == c) = false := by
    simpa using hOther
  simp only [outcome?, settle, List.lookup_cons, hKey]

/- A caller that does not wait for a fetch is told nothing at its end. -/
theorem outcome?_complete_of_not_waiting
    (x : Exchange)
    {f : Fetch}
    {c : Nat}
    (hAway : (c, f.number) ∉ x.waiting)
    (result : Except CacheError DiscoveryDocument) :
    (x.complete f result).outcome? c = x.outcome? c := by
  have hNone :
      ((x.waiting.filter fun w => w.2 == f.number).map fun w =>
        (w.1, (⟨some f.number, result⟩ : Outcome))).lookup c =
          none := by
    rw [List.lookup_eq_none_iff]
    intro p hp
    rcases List.mem_map.mp hp with ⟨w, hw, rfl⟩
    rcases List.mem_filter.mp hw with ⟨hMem, hNumber⟩
    have hSame : w.2 = f.number := by
      simpa using hNumber
    have hNe : c ≠ w.1 := by
      rintro rfl
      rw [← hSame] at hAway
      exact hAway hMem
    simpa using hNe
  unfold outcome? complete
  rw [List.partition_eq_filter_filter, List.lookup_append, hNone]
  rfl

/- A caller waits for another fetch or waits on. -/
theorem waits_wait_iff
    (x : Exchange)
    {c other : Nat}
    (hOther : other ≠ c)
    (n : Nat) :
    (x.wait c n).Waits other ↔ x.Waits other := by
  constructor
  · rintro ⟨m, hMem⟩
    rcases List.mem_append.mp hMem with hOld | hNew
    · exact ⟨m, hOld⟩
    · exact absurd (Prod.mk.inj (List.mem_singleton.mp hNew)).1 hOther
  · rintro ⟨m, hMem⟩
    exact ⟨m, List.mem_append_left _ hMem⟩

/- A request for another authority is none for this one. -/
theorem requestsFor_launch_of_ne
    (x : Exchange)
    {k : String}
    (hNe : key ≠ k)
    (cache : DiscoveryCache)
    (n : Nat) :
    (x.launch cache k n).requestsFor key = x.requestsFor key := by
  have hNone :
      (requestOf k n).filter (fun r => r.authority == key) = [] := by
    apply List.filter_eq_nil_iff.mpr
    intro r hr
    rcases (mem_requestOf_iff k n r).mp hr with ⟨u, _, rfl⟩
    simpa using hNe.symm
  simp [requestsFor, launch, hNone]

/- What somebody else comes to leaves alone what concerns an authority. -/
theorem alike_settle
    (x : Exchange)
    {c : Nat}
    (hOther : c ∉ callers)
    (o : Outcome) :
    Alike key callers x (x.settle c o) := by
  refine { Alike.refl key callers x with told := fun c' hc' => ?_ }
  rw [outcome?_settle_of_ne x (ne_of_mem_of_not_mem hc' hOther)]

/- So does what somebody else waits for. -/
theorem alike_wait
    (x : Exchange)
    {c : Nat}
    (hOther : c ∉ callers)
    (n : Nat) :
    Alike key callers x (x.wait c n) :=
  { Alike.refl key callers x with
    waits := fun _ hc' =>
      (waits_wait_iff x (ne_of_mem_of_not_mem hc' hOther) n).symm }

/- So does a departure of somebody else. -/
theorem alike_depart
    (x : Exchange)
    {c : Nat}
    (hOther : c ∉ callers)
    (d : Departure) :
    Alike key callers x (x.depart c d) := by
  refine
    { Alike.refl key callers x with
      waits := fun c' hc' => ?_
      told := fun c' hc' => ?_ }
  · have hNe := ne_of_mem_of_not_mem hc' hOther
    simp [Waits, depart, settle, hNe]
  · rw [depart,
      outcome?_settle_of_ne _ (ne_of_mem_of_not_mem hc' hOther)]
    rfl

/- So does a fetch that starts for another authority, -/
theorem alike_launch
    (x : Exchange)
    {k : String}
    (hNe : key ≠ k) :
    Alike key callers x
      (x.launch (x.cache.start k) k x.cache.nextFetch) := by
  have hList :
      x.cache.inFlight.lookup key =
        (KeyedList.put k x.cache.nextFetch
          x.cache.inFlight).lookup key :=
    (KeyedList.lookup_put_of_ne _ _ _ _ hNe).symm
  exact
    { Alike.refl key callers x with
      underWay := congrArg Option.isSome hList
      landed := resultFor?_congr hList fun _ _ => rfl
      requests :=
        (requestsFor_launch_of_ne x hNe (x.cache.start k)
          x.cache.nextFetch).symm }

/- one that comes to its result -/
theorem Consistent.alike_conclude
    (h : x.Consistent)
    {f : Fetch}
    (hRuns : f ∈ x.running)
    (hNe : key ≠ f.authority)
    (reply : HttpReply) :
    Alike key callers x (x.conclude f reply) := by
  have hList :
      x.cache.inFlight.lookup key =
        (x.conclude f reply).cache.inFlight.lookup key := by
    rw [inFlight_conclude]
  refine
    { Alike.refl key callers x with
      duration := by rw [durations_conclude]
      dated := fun k _ => by rw [durations_conclude]
      settings := by rw [settings_conclude]
      entry := by rw [lookup_entries_conclude_of_ne x reply hNe]
      underWay := congrArg Option.isSome hList
      landed := resultFor?_congr hList fun m hListed => ?_ }
  have hOther := h.number_ne_of_listed hListed hRuns hNe
  exact (result?_conclude_of_ne x f reply hOther).symm

/- and one whose callback is called. -/
theorem Consistent.alike_complete
    (h : x.Consistent)
    (hAttends : x.Attends key callers)
    {f : Fetch}
    (hRuns : f ∈ x.running)
    (hNe : key ≠ f.authority)
    (result : Except CacheError DiscoveryDocument) :
    Alike key callers x (x.complete f result) := by
  have hAway : ∀ c ∈ callers, (c, f.number) ∉ x.waiting := by
    intro c hc hMem
    have hListed := (hAttends _ hMem).mp hc
    exact h.number_ne_of_listed hListed hRuns hNe rfl
  have hList :
      x.cache.inFlight.lookup key =
        (x.complete f result).cache.inFlight.lookup key := by
    rw [h.lookup_inFlight_complete hRuns, if_neg hNe]
  refine
    { Alike.refl key callers x with
      duration := by rw [durations_complete]
      dated := fun k _ => by rw [durations_complete]
      settings := by rw [settings_complete]
      entry := by rw [entries_complete]
      underWay := congrArg Option.isSome hList
      landed := resultFor?_congr hList fun m hListed => ?_
      waits := fun c hc => ?_
      told := fun c hc => ?_ }
  · have hOther := h.number_ne_of_listed hListed hRuns hNe
    exact (result?_complete_of_ne x f result hOther).symm
  · constructor
    · rintro ⟨m, hMem⟩
      refine ⟨m, mem_waiting_complete.mpr ⟨hMem, ?_⟩⟩
      rintro rfl
      exact hAway c hc hMem
    · rintro ⟨m, hMem⟩
      exact ⟨m, (mem_waiting_complete.mp hMem).1⟩
  · rw [outcome?_complete_of_not_waiting x (hAway c hc)]

/- An event elsewhere leaves alone what concerns an authority. -/
theorem alike_of_elsewhere
    (hConsistent : x.Consistent)
    (hAttends : x.Attends key callers)
    (hElsewhere : x.Elsewhere key callers e) :
    Alike key callers x (x.step e).1 := by
  have hMove := step_move x e
  generalize (x.step e).1 = y at hMove
  cases hMove with
  | faulty _ => exact alike_settle x hElsewhere.1 _
  | hit _ _ _ => exact alike_settle x hElsewhere.1 _
  | joined _ _ _ _ => exact alike_wait x hElsewhere.1 _
  | late _ _ _ _ => exact alike_settle x hElsewhere.1 _
  | @started c authority k hKey _ _ =>
      have hNe : key ≠ k := by
        rintro rfl
        exact hElsewhere.2 hKey
      exact (alike_launch x hNe).trans (alike_wait _ hElsewhere.1 _)
  | left _ => exact alike_depart x hElsewhere _
  | absent _ => exact Alike.refl key callers x
  | answered hPending hNumber =>
      subst hNumber
      refine hConsistent.alike_conclude hPending.1 ?_ _
      rintro rfl
      exact hElsewhere hPending.1
  | stray _ => exact Alike.refl key callers x
  | finished hLanded hNumber =>
      subst hNumber
      refine hConsistent.alike_complete hAttends hLanded.1 ?_ _
      rintro rfl
      exact hElsewhere hLanded.1
  | unfinished _ => exact Alike.refl key callers x
  | @configured authority d k _ hKey =>
      have hNe : ∀ k', k' ≠ k →
          x.cache.durations.lookup k' =
            (KeyedList.put k d x.cache.durations).lookup k' := by
        intro k' hk'
        rw [KeyedList.lookup_put_of_ne _ _ _ _ hk']
      refine
        { Alike.refl key callers x with
          duration := hNe key ?_
          dated := fun k' hk' => hNe k' ?_ }
      · rintro rfl
        exact hElsewhere.1 hKey
      · rintro rfl
        exact hElsewhere.2 _ hk' hKey
  | notConfigured _ => exact Alike.refl key callers x
  | @invalidated authority k hKey =>
      have hNe : key ≠ k := by
        rintro rfl
        exact hElsewhere hKey
      refine
        { Alike.refl key callers x with
          entry := ?_ }
      change _ = ((KeyedList.drop k _).lookup key).map _
      rw [KeyedList.lookup_drop_of_ne _ _ _ hNe]
  | notInvalidated _ => exact Alike.refl key callers x
  | cleared => exact absurd hElsewhere id
  | clockSet => exact absurd hElsewhere id

end Exchange

end KeyAssertion
