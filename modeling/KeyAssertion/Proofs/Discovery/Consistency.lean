import KeyAssertion.Proofs.Discovery.Move

/-
  The list of fetches that the cache keeps agrees with the
  fetches that run, whatever happens in whatever order.

  Key definitions include:
    * `Exchange.Consistent`

  Key theorems include:
    * `Exchange.Consistent.listed_iff`
    * `Exchange.Consistent.move`
    * `Exchange.Consistent.eq_conclude`
    * `Exchange.Consistent.eq_complete`
    * `Exchange.Consistent.run`
    * `Exchange.run_consistent`
-/

namespace KeyAssertion

namespace Exchange

/-
  The cache lists exactly the fetches that run, which have
  numbers of their own; results are of such fetches only, and
  callers wait for such fetches only.
-/
structure Consistent (x : Exchange) : Prop where
  listed :
    ∀ f ∈ x.running,
      x.cache.inFlight.lookup f.authority = some f.number
  runs :
    ∀ key n,
      x.cache.inFlight.lookup key = some n →
        ⟨n, key⟩ ∈ x.running
  distinct :
    ∀ f ∈ x.running, ∀ g ∈ x.running,
      f.number = g.number → f = g
  begun :
    ∀ f ∈ x.running, f.number < x.cache.nextFetch
  landed :
    ∀ n result,
      x.result? n = some result → ∃ f ∈ x.running, f.number = n
  awaited :
    ∀ w ∈ x.waiting, ∃ f ∈ x.running, f.number = w.2

namespace Consistent

variable {x : Exchange}

/- Nothing is under way before anything has happened. -/
theorem of_start
    (settings : DiscoverySettings)
    (now : Moment) :
    (start settings now).Consistent where
  listed := by
    intro f hf
    cases hf
  runs := by
    intro key n hListed
    cases hListed
  distinct := by
    intro f hf
    cases hf
  begun := by
    intro f hf
    cases hf
  landed := by
    intro n result hResult
    cases hResult
  awaited := by
    intro w hw
    cases hw

/- The cache lists a fetch for a key if and only if it runs. -/
theorem listed_iff
    (h : x.Consistent)
    (key : String)
    (n : Nat) :
    x.cache.inFlight.lookup key = some n ↔
      ⟨n, key⟩ ∈ x.running :=
  ⟨h.runs key n, fun hRuns => h.listed ⟨n, key⟩ hRuns⟩

/- A key without a listed fetch has no fetch that runs. -/
theorem free_iff
    (h : x.Consistent)
    (key : String) :
    x.cache.inFlight.lookup key = none ↔
      ∀ f ∈ x.running, f.authority ≠ key := by
  constructor
  · intro hFree f hRuns hKey
    have hListed := h.listed f hRuns
    rw [hKey, hFree] at hListed
    cases hListed
  · intro hNone
    cases hListed : x.cache.inFlight.lookup key with
    | none => rfl
    | some n => exact absurd rfl (hNone _ (h.runs key n hListed))

/- Two fetches that run are not for the same authority. -/
theorem eq_of_authority_eq
    (h : x.Consistent)
    {f g : Fetch}
    (hf : f ∈ x.running)
    (hg : g ∈ x.running)
    (hAuthority : f.authority = g.authority) :
    f = g := by
  apply h.distinct f hf g hg
  have hListed := h.listed f hf
  rw [hAuthority, h.listed g hg] at hListed
  exact (Option.some.inj hListed).symm

/- A fetch for another key has another number than the listed one. -/
theorem number_ne_of_listed
    (h : x.Consistent)
    {key : String}
    {n : Nat}
    (hListed : x.cache.inFlight.lookup key = some n)
    {f : Fetch}
    (hRuns : f ∈ x.running)
    (hNe : key ≠ f.authority) :
    n ≠ f.number := by
  intro hNumber
  have hSame := h.distinct _ (h.runs _ _ hListed) f hRuns hNumber
  exact hNe (congrArg Fetch.authority hSame)

/- A listed fetch with a result has landed. -/
theorem landed_of_listed
    (h : x.Consistent)
    {key : String}
    {n : Nat}
    {result : Except CacheError DiscoveryDocument}
    (hListed : x.cache.inFlight.lookup key = some n)
    (hResult : x.result? n = some result) :
    x.Landed ⟨n, key⟩ result :=
  ⟨h.runs key n hListed, hResult⟩

/- A number that is still to be given has no result. -/
theorem result?_eq_none_of_le
    (h : x.Consistent)
    {n : Nat}
    (hLater : x.cache.nextFetch ≤ n) :
    x.result? n = none := by
  cases hResult : x.result? n with
  | none => rfl
  | some result =>
      rcases h.landed n result hResult with ⟨f, hf, hNumber⟩
      have hBound := h.begun f hf
      rw [hNumber] at hBound
      exact absurd hBound (Nat.not_lt.mpr hLater)

/- A fetch that starts for a free key runs beside the others. -/
theorem launch
    (h : x.Consistent)
    {key : String}
    (hFree : x.cache.inFlight.lookup key = none)
    (caller : Nat) :
    ((x.launch (x.cache.start key) key x.cache.nextFetch).wait
      caller x.cache.nextFetch).Consistent := by
  have hOthers := (h.free_iff key).mp hFree
  have hRunning :
      ∀ f,
        f ∈ x.running ++ [⟨x.cache.nextFetch, key⟩] ↔
          f ∈ x.running ∨ f = ⟨x.cache.nextFetch, key⟩ := by
    intro f
    rw [List.mem_append, List.mem_singleton]
  refine ⟨?_, ?_, ?_, ?_, ?_, ?_⟩
  · intro f hf
    rcases (hRunning f).mp hf with hOld | hNew
    · change (KeyedList.put key _ _).lookup f.authority = _
      rw [KeyedList.lookup_put_of_ne key _ _ _ (hOthers f hOld)]
      exact h.listed f hOld
    · subst hNew
      exact KeyedList.lookup_put_self key _ _
  · intro other n hListed
    change (KeyedList.put key _ _).lookup other = some n at hListed
    apply (hRunning _).mpr
    by_cases hOther : other = key
    · subst hOther
      rw [KeyedList.lookup_put_self] at hListed
      exact Or.inr (by rw [Option.some.inj hListed])
    · rw [KeyedList.lookup_put_of_ne _ _ _ _ hOther] at hListed
      exact Or.inl (h.runs other n hListed)
  · intro f hf g hg hNumber
    rcases (hRunning f).mp hf with hOldF | hNewF <;>
      rcases (hRunning g).mp hg with hOldG | hNewG
    · exact h.distinct f hOldF g hOldG hNumber
    · have hBound := h.begun f hOldF
      rw [hNumber, hNewG] at hBound
      exact absurd hBound (Nat.lt_irrefl _)
    · have hBound := h.begun g hOldG
      rw [← hNumber, hNewF] at hBound
      exact absurd hBound (Nat.lt_irrefl _)
    · rw [hNewF, hNewG]
  · intro f hf
    change f.number < x.cache.nextFetch + 1
    rcases (hRunning f).mp hf with hOld | hNew
    · exact Nat.lt_succ_of_lt (h.begun f hOld)
    · rw [hNew]
      exact Nat.lt_succ_self _
  · intro n result hResult
    rcases h.landed n result hResult with ⟨f, hf, hNumber⟩
    exact ⟨f, (hRunning f).mpr (Or.inl hf), hNumber⟩
  · intro w hw
    rcases List.mem_append.mp hw with hOld | hNew
    · rcases h.awaited w hOld with ⟨f, hf, hNumber⟩
      exact ⟨f, (hRunning f).mpr (Or.inl hf), hNumber⟩
    · rw [List.mem_singleton.mp hNew]
      exact ⟨_, (hRunning _).mpr (Or.inr rfl), rfl⟩

/- A caller that joins a fetch waits for one that runs. -/
theorem wait
    (h : x.Consistent)
    {key : String}
    {n : Nat}
    (hListed : x.cache.inFlight.lookup key = some n)
    (caller : Nat) :
    (x.wait caller n).Consistent := by
  refine ⟨h.listed, h.runs, h.distinct, h.begun, h.landed, ?_⟩
  intro w hw
  rcases List.mem_append.mp hw with hOld | hNew
  · exact h.awaited w hOld
  · rw [List.mem_singleton.mp hNew]
    exact ⟨_, h.runs key n hListed, rfl⟩

/- Callers that leave take nothing with them. -/
theorem depart
    (h : x.Consistent)
    (caller : Nat)
    (d : Departure) :
    (x.depart caller d).Consistent := by
  refine ⟨h.listed, h.runs, h.distinct, h.begun, h.landed, ?_⟩
  intro w hw
  exact h.awaited w (List.mem_filter.mp hw).1

/- A fetch that comes to a result runs on and stays listed. -/
theorem conclude
    (h : x.Consistent)
    {f : Fetch}
    (hRuns : f ∈ x.running)
    (reply : HttpReply) :
    (x.conclude f reply).Consistent := by
  refine ⟨?_, ?_, h.distinct, ?_, ?_, h.awaited⟩
  · rw [inFlight_conclude]
    exact h.listed
  · rw [inFlight_conclude]
    exact h.runs
  · rw [nextFetch_conclude]
    exact h.begun
  · intro n result hResult
    by_cases hSame : n = f.number
    · exact ⟨f, hRuns, hSame.symm⟩
    · rw [result?_conclude_of_ne x f reply hSame] at hResult
      exact h.landed n result hResult

/- A fetch whose callback is called is off the list. -/
theorem lookup_inFlight_complete
    (h : x.Consistent)
    {f : Fetch}
    (hRuns : f ∈ x.running)
    (result : Except CacheError DiscoveryDocument)
    (key : String) :
    (x.complete f result).cache.inFlight.lookup key =
      if key = f.authority then none
      else x.cache.inFlight.lookup key :=
  x.cache.lookup_inFlight_release f.authority f.number
    (h.listed f hRuns) key

/- Nobody waits for it, and the others run on. -/
theorem complete
    (h : x.Consistent)
    {f : Fetch}
    (hRuns : f ∈ x.running)
    (result : Except CacheError DiscoveryDocument) :
    (x.complete f result).Consistent := by
  have hLookup := h.lookup_inFlight_complete hRuns result
  refine ⟨?_, ?_, ?_, ?_, ?_, ?_⟩
  · intro g hg
    rcases mem_running_complete.mp hg with ⟨hOld, hNumber⟩
    have hOther : g.authority ≠ f.authority := by
      intro hAuthority
      exact hNumber
        (congrArg Fetch.number
          (h.eq_of_authority_eq hOld hRuns hAuthority))
    rw [hLookup, if_neg hOther]
    exact h.listed g hOld
  · intro key n hListed
    rw [hLookup] at hListed
    split at hListed
    · cases hListed
    · next hOther =>
        have hOld := h.runs key n hListed
        refine mem_running_complete.mpr ⟨hOld, ?_⟩
        intro hNumber
        exact hOther
          (congrArg Fetch.authority
            (h.distinct _ hOld f hRuns hNumber))
  · intro g hg k hk
    exact h.distinct g (mem_running_complete.mp hg).1 k
      (mem_running_complete.mp hk).1
  · intro g hg
    rw [nextFetch_complete]
    exact h.begun g (mem_running_complete.mp hg).1
  · intro n r hResult
    have hOther : n ≠ f.number := by
      rintro rfl
      have hNone :
          (x.complete f result).result? f.number = none :=
        KeyedList.lookup_filter_self f.number x.results
      rw [hNone] at hResult
      cases hResult
    rw [result?_complete_of_ne x f result hOther] at hResult
    rcases h.landed n r hResult with ⟨g, hg, hNumber⟩
    refine ⟨g, mem_running_complete.mpr ⟨hg, ?_⟩, hNumber⟩
    rw [hNumber]
    exact hOther
  · intro w hw
    rcases mem_waiting_complete.mp hw with ⟨hOld, hNumber⟩
    rcases h.awaited w hOld with ⟨g, hg, hAwaited⟩
    refine ⟨g, mem_running_complete.mpr ⟨hg, ?_⟩, hAwaited⟩
    rw [hAwaited]
    exact hNumber

/- Every move keeps the list and the fetches in agreement. -/
theorem move
    (h : x.Consistent)
    {e : Event}
    {y : Exchange}
    (hMove : Move x e y) :
    y.Consistent := by
  cases hMove with
  | faulty _ =>
      exact
        ⟨h.listed, h.runs, h.distinct, h.begun, h.landed, h.awaited⟩
  | hit _ _ _ =>
      exact
        ⟨h.listed, h.runs, h.distinct, h.begun, h.landed, h.awaited⟩
  | joined _ _ hListed _ => exact h.wait hListed _
  | late _ _ _ _ =>
      exact
        ⟨h.listed, h.runs, h.distinct, h.begun, h.landed, h.awaited⟩
  | started _ _ hFree => exact h.launch hFree _
  | left _ => exact h.depart _ _
  | absent _ => exact h
  | answered hPending _ => exact h.conclude hPending.1 _
  | stray _ => exact h
  | finished hLanded _ => exact h.complete hLanded.1 _
  | unfinished _ => exact h
  | configured _ _ =>
      exact
        ⟨h.listed, h.runs, h.distinct, h.begun, h.landed, h.awaited⟩
  | notConfigured _ => exact h
  | invalidated _ =>
      exact
        ⟨h.listed, h.runs, h.distinct, h.begun, h.landed, h.awaited⟩
  | notInvalidated _ => exact h
  | cleared =>
      exact
        ⟨h.listed, h.runs, h.distinct, h.begun, h.landed, h.awaited⟩
  | clockSet =>
      exact
        ⟨h.listed, h.runs, h.distinct, h.begun, h.landed, h.awaited⟩

/- The reply to a pending fetch gives it its result. -/
theorem eq_conclude
    (h : x.Consistent)
    {f : Fetch}
    (hPending : x.Pending f)
    {reply : HttpReply}
    {y : Exchange}
    (hMove : Move x (.answer f.number reply) y) :
    y = x.conclude f reply := by
  cases hMove with
  | answered hOther hNumber =>
      rw [h.distinct _ hOther.1 f hPending.1 hNumber]
  | stray hOver => exact absurd rfl (hOver f hPending)

/- The callback of a fetch that has landed ends it. -/
theorem eq_complete
    (h : x.Consistent)
    {f : Fetch}
    {result : Except CacheError DiscoveryDocument}
    (hLanded : x.Landed f result)
    {y : Exchange}
    (hMove : Move x (.finish f.number) y) :
    y = x.complete f result := by
  cases hMove with
  | finished hOther hNumber =>
      have hSame := h.distinct _ hOther.1 f hLanded.1 hNumber
      subst hSame
      have hResults := hOther.2.symm.trans hLanded.2
      rw [Option.some.inj hResults]
  | unfinished hOpen => exact absurd rfl (hOpen f result hLanded)

/- The list and the fetches stay in agreement. -/
theorem run
    (h : x.Consistent)
    (events : List Event) :
    (x.run events).Consistent :=
  run_induction (P := fun _ y => y.Consistent) h
    (fun _ _ _ hBefore hMove => hBefore.move hMove) events

end Consistent

/- The list and the fetches agree after every run. -/
theorem run_consistent
    (settings : DiscoverySettings)
    (now : Moment)
    (events : List Event) :
    ((start settings now).run events).Consistent :=
  (Consistent.of_start settings now).run events

end Exchange

end KeyAssertion
