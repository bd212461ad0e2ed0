import KeyAssertion.Proofs.Discovery.Address
import KeyAssertion.Proofs.Discovery.Freshness
import KeyAssertion.Proofs.Discovery.Removal

/-
  Authorities do not concern each other: what is asked, set and
  forgotten for one changes nothing for another, unless the
  documents of the other are dated by the first one.

  Key definitions include:
    * `Exchange.AgreeOn`
    * `Exchange.Isolated`
    * `Exchange.Refuses`

  Key theorems include:
    * `Exchange.Alike.step`
    * `Exchange.Alike.run_leaveOut`
    * `Exchange.isolated_of_not_datedBy`
    * `Exchange.not_isolated_of_datedBy`
    * `Exchange.isolated_iff`
-/

namespace KeyAssertion

namespace Exchange

------------------------------------------------------------
-- Refusals
------------------------------------------------------------

section Refusals

variable (x : Exchange) {authority : Option String}
variable {d : Duration} {fault : Authority.Fault} {key : String}

/- A duration below zero is refused. -/
theorem step_configure_of_negative
    (hNegative : d.micros < 0) :
    x.step (.configure authority d) = (x, some .negativeDuration) := by
  have hRefused :
      x.cache.configure authority d = .error .negativeDuration := by
    unfold DiscoveryCache.configure
    rw [if_pos hNegative]
    rfl
  simp only [step, change, hRefused]

/- So is a duration for what is no authority. -/
theorem step_configure_of_fault
    (hLength : 0 ≤ d.micros)
    (hFault : Authority.normalize authority = .error fault) :
    x.step (.configure authority d) =
      (x, some (.authority fault)) := by
  have hRefused :
      x.cache.configure authority d = .error (.authority fault) := by
    unfold DiscoveryCache.configure
    rw [if_neg (Int.not_lt.mpr hLength), hFault]
    rfl
  simp only [step, change, hRefused]

/- Any other duration is set. -/
theorem step_configure_of_ok
    (hLength : 0 ≤ d.micros)
    (hKey : Authority.normalize authority = .ok key) :
    x.step (.configure authority d) =
      ({ x with cache :=
        { x.cache with
          durations := KeyedList.put key d x.cache.durations } },
        none) := by
  have hSet :
      x.cache.configure authority d =
        .ok { x.cache with
          durations := KeyedList.put key d x.cache.durations } := by
    unfold DiscoveryCache.configure
    rw [if_neg (Int.not_lt.mpr hLength), hKey]
    rfl
  simp only [step, change, hSet]

/- What is no authority has no entry to be forgotten. -/
theorem step_invalidate_of_fault
    (hFault : Authority.normalize authority = .error fault) :
    x.step (.invalidate authority) = (x, some (.authority fault)) := by
  have hRefused :
      x.cache.invalidate authority = .error (.authority fault) := by
    unfold DiscoveryCache.invalidate
    rw [hFault]
    rfl
  simp only [step, change, hRefused]

/- The entry of an authority is forgotten. -/
theorem step_invalidate_of_ok
    (hKey : Authority.normalize authority = .ok key) :
    x.step (.invalidate authority) =
      ({ x with cache :=
        { x.cache with
          entries := KeyedList.drop key x.cache.entries } },
        none) := by
  have hForgotten :
      x.cache.invalidate authority =
        .ok { x.cache with
          entries := KeyedList.drop key x.cache.entries } := by
    unfold DiscoveryCache.invalidate
    rw [hKey]
    rfl
  simp only [step, change, hForgotten]

/- A call for what is no authority comes to its fault. -/
theorem step_get_of_fault
    (hFault : Authority.normalize authority = .error fault)
    (caller : Nat) :
    x.step (.get caller authority) =
      (x.settle caller ⟨none, .error (.authority fault)⟩, none) := by
  simp only [step, get, hFault]

/- Whether an event is refused does not depend on the state. -/
theorem refused_eq
    (x y : Exchange)
    (e : Event) :
    (x.step e).2 = (y.step e).2 := by
  cases e with
  | configure authority d =>
      by_cases hNegative : d.micros < 0
      · rw [step_configure_of_negative x hNegative,
          step_configure_of_negative y hNegative]
      · have hLength := Int.not_lt.mp hNegative
        cases hKey : Authority.normalize authority with
        | error fault =>
            rw [step_configure_of_fault x hLength hKey,
              step_configure_of_fault y hLength hKey]
        | ok key =>
            rw [step_configure_of_ok x hLength hKey,
              step_configure_of_ok y hLength hKey]
  | invalidate authority =>
      cases hKey : Authority.normalize authority with
      | error fault =>
          rw [step_invalidate_of_fault x hKey,
            step_invalidate_of_fault y hKey]
      | ok key =>
          rw [step_invalidate_of_ok x hKey,
            step_invalidate_of_ok y hKey]
  | _ => rfl

end Refusals

------------------------------------------------------------
-- Numbers
------------------------------------------------------------

section Numbers

variable {x y : Exchange} {key : String}

/- A fetch that runs is found by its number. -/
theorem Consistent.authorityOf?_of_running
    (hx : x.Consistent)
    {f : Fetch}
    (hRuns : f ∈ x.running) :
    x.authorityOf? f.number = some f.authority := by
  cases hFind : x.running.find? fun g => g.number == f.number with
  | none =>
      have hNot := List.find?_eq_none.mp hFind f hRuns
      simp at hNot
  | some g =>
      have hSame :=
        hx.distinct g (List.mem_of_find?_eq_some hFind) f hRuns
          (by simpa using List.find?_some hFind)
      simp [authorityOf?, hFind, hSame]

/- The number that stands for it is the one of its authority. -/
theorem Consistent.numberFor_authorityOf?
    (hx : x.Consistent)
    (hy : y.Consistent)
    {n m : Nat}
    (hn : ⟨n, key⟩ ∈ x.running)
    (hm : ⟨m, key⟩ ∈ y.running) :
    y.numberFor (x.authorityOf? n) = m := by
  rw [hx.authorityOf?_of_running hn]
  simp [numberFor, hy.listed _ hm]

/- A number that stands for the fetch of another authority. -/
theorem Consistent.numberFor_not_running
    (hy : y.Consistent)
    {k : String}
    (hOther : k ≠ key) :
    ⟨y.numberFor (some k), key⟩ ∉ y.running := by
  intro hRuns
  cases hListed : y.cache.inFlight.lookup k with
  | none =>
      have hNumber : y.numberFor (some k) = y.cache.nextFetch := by
        simp [numberFor, hListed]
      rw [hNumber] at hRuns
      exact absurd (hy.begun _ hRuns) (Nat.lt_irrefl _)
  | some m =>
      have hNumber : y.numberFor (some k) = m := by
        simp [numberFor, hListed]
      rw [hNumber] at hRuns
      have hSame := hy.distinct _ (hy.runs k m hListed) _ hRuns rfl
      exact hOther (congrArg Fetch.authority hSame)

end Numbers

------------------------------------------------------------
-- Single Changes
------------------------------------------------------------

namespace Alike

variable {key : String} {callers : List Nat} {x y : Exchange}
variable {e : Event}

/- A caller comes to the same. -/
theorem settle
    (h : Alike key callers x y)
    (c : Nat)
    {o o' : Outcome}
    (hSame : o.result = o'.result) :
    Alike key callers (x.settle c o) (y.settle c o') := by
  refine { h with told := fun c' hc' => ?_ }
  by_cases hOther : c' = c
  · subst hOther
    simp [Exchange.outcome?, Exchange.settle, hSame]
  · rw [outcome?_settle_of_ne x hOther, outcome?_settle_of_ne y hOther]
    exact h.told c' hc'

/- A caller waits, for whatever number of a fetch. -/
theorem wait
    (h : Alike key callers x y)
    (c n m : Nat) :
    Alike key callers (x.wait c n) (y.wait c m) := by
  refine { h with waits := fun c' hc' => ?_ }
  by_cases hOther : c' = c
  · subst hOther
    constructor
    · intro _
      exact ⟨m, List.mem_append_right _ List.mem_cons_self⟩
    · intro _
      exact ⟨n, List.mem_append_right _ List.mem_cons_self⟩
  · rw [waits_wait_iff x hOther, waits_wait_iff y hOther]
    exact h.waits c' hc'

/- The fetches that are listed for it have come to the same. -/
theorem result?_eq
    (h : Alike key callers x y)
    {n m : Nat}
    (hx : x.cache.inFlight.lookup key = some n)
    (hy : y.cache.inFlight.lookup key = some m) :
    x.result? n = y.result? m := by
  rw [← resultFor?_of_listed hx, ← resultFor?_of_listed hy]
  exact h.landed

/- A fetch for the authority starts and sends the same request. -/
theorem launch
    (h : Alike key callers x y)
    (hx : x.Consistent)
    (hy : y.Consistent) :
    Alike key callers
      (x.launch (x.cache.start key) key x.cache.nextFetch)
      (y.launch (y.cache.start key) key y.cache.nextFetch) := by
  have hUrls :
      ∀ n,
        ((requestOf key n).filter fun r => r.authority == key).map
            SentRequest.url =
          (requestOf key 0).map SentRequest.url := by
    intro n
    unfold requestOf
    cases Discovery.request key with
    | ok u => simp
    | error e => rfl
  have hListed :
      ∀ z : Exchange,
        (z.launch (z.cache.start key) key
          z.cache.nextFetch).cache.inFlight.lookup key =
            some z.cache.nextFetch :=
    fun _ => KeyedList.lookup_put_self _ _ _
  refine { h with underWay := ?_, landed := ?_, requests := ?_ }
  · rw [hListed, hListed]
    rfl
  · -- A fetch that has just started has no result yet.
    have hNone :
        ∀ z : Exchange,
          z.Consistent →
            (z.launch (z.cache.start key) key
              z.cache.nextFetch).resultFor? key = none := by
      intro z hz
      rw [resultFor?_of_listed (hListed z)]
      exact hz.result?_eq_none_of_le (Nat.le_refl _)
    rw [hNone x hx, hNone y hy]
  · have hBefore := h.requests
    unfold requestsFor at hBefore ⊢
    simp only [Exchange.launch, List.filter_append, List.map_append,
      hBefore, hUrls]

/- A caller leaves. -/
theorem depart
    (h : Alike key callers x y)
    (c : Nat)
    (d : Departure) :
    Alike key callers (x.depart c d) (y.depart c d) := by
  have hAway :
      ∀ z : Exchange, ∀ c',
        (z.depart c d).Waits c' ↔ z.Waits c' ∧ c' ≠ c := by
    intro z c'
    simp [Waits, Exchange.depart, Exchange.settle]
  have hLeft :
      Alike key callers
        { x with waiting := x.waiting.filter fun w => w.1 != c }
        { y with waiting := y.waiting.filter fun w => w.1 != c } := by
    refine { h with waits := fun c' hc' => ?_ }
    have hBoth := and_congr_left' (c := c' ≠ c) (h.waits c' hc')
    rw [← hAway x, ← hAway y] at hBoth
    exact hBoth
  exact hLeft.settle c rfl

/- The fetch for the authority comes to its result. -/
theorem conclude
    (h : Alike key callers x y)
    (hx : x.Consistent)
    (hy : y.Consistent)
    {n m : Nat}
    (hn : ⟨n, key⟩ ∈ x.running)
    (hm : ⟨m, key⟩ ∈ y.running)
    (reply : HttpReply) :
    Alike key callers (x.conclude ⟨n, key⟩ reply)
      (y.conclude ⟨m, key⟩ reply) := by
  have hResult :
      ∀ (z : Exchange) (k : Nat),
        z.cache.inFlight.lookup key = some k →
          (z.conclude ⟨k, key⟩ reply).resultFor? key =
            some (z.resultOf ⟨k, key⟩ reply) := by
    intro z k hListed
    rw [← inFlight_conclude z ⟨k, key⟩ reply] at hListed
    rw [resultFor?_of_listed hListed]
    exact result?_conclude_self z ⟨k, key⟩ reply
  refine
    { now := h.now
      settings := ?_
      duration := ?_
      dated := fun k hk => ?_
      entry := h.entry_conclude n m reply
      underWay := ?_
      landed := ?_
      requests := h.requests
      waits := h.waits
      told := h.told }
  · rw [settings_conclude, settings_conclude]
    exact h.settings
  · rw [durations_conclude, durations_conclude]
    exact h.duration
  · rw [durations_conclude, durations_conclude]
    exact h.dated k hk
  · rw [inFlight_conclude, inFlight_conclude]
    exact h.underWay
  · rw [hResult x n (hx.listed _ hn), hResult y m (hy.listed _ hm),
      h.result n m reply]

/- The callback of the fetch for the authority is called. -/
theorem complete
    (h : Alike key callers x y)
    (hx : x.Consistent)
    (hy : y.Consistent)
    (hxAttends : x.Attends key callers)
    (hyAttends : y.Attends key callers)
    {n m : Nat}
    (hn : ⟨n, key⟩ ∈ x.running)
    (hm : ⟨m, key⟩ ∈ y.running)
    (result : Except CacheError DiscoveryDocument) :
    Alike key callers (x.complete ⟨n, key⟩ result)
      (y.complete ⟨m, key⟩ result) := by
  have hxListed := hx.listed _ hn
  have hyListed := hy.listed _ hm
  have hxFree :
      (x.complete ⟨n, key⟩ result).cache.inFlight.lookup key =
        none := by
    rw [hx.lookup_inFlight_complete hn, if_pos rfl]
  have hyFree :
      (y.complete ⟨m, key⟩ result).cache.inFlight.lookup key =
        none := by
    rw [hy.lookup_inFlight_complete hm, if_pos rfl]
  refine
    { now := h.now
      settings := ?_
      duration := ?_
      dated := fun k hk => ?_
      entry := ?_
      underWay := by rw [hxFree, hyFree]
      landed := by rw [resultFor?, resultFor?, hxFree, hyFree]; rfl
      requests := h.requests
      waits := fun c hc => ?_
      told := fun c hc => ?_ }
  · rw [settings_complete, settings_complete]
    exact h.settings
  · rw [durations_complete, durations_complete]
    exact h.duration
  · rw [durations_complete, durations_complete]
    exact h.dated k hk
  · rw [entries_complete, entries_complete]
    exact h.entry
  · -- All callers of the authority waited for this fetch.
    have hNone :
        ∀ (z : Exchange) (k : Nat),
          z.Attends key callers →
            z.cache.inFlight.lookup key = some k →
              ¬ (z.complete ⟨k, key⟩ result).Waits c := by
      rintro z k hAttends hListed ⟨l, hMem⟩
      rcases mem_waiting_complete.mp hMem with ⟨hOld, hNumber⟩
      have hSame := (hAttends _ hOld).mp hc
      rw [hListed] at hSame
      exact hNumber (Option.some.inj hSame).symm
    exact
      iff_of_false (hNone x n hxAttends hxListed)
        (hNone y m hyAttends hyListed)
  · have hWaits :
        (c, n) ∈ x.waiting ↔ (c, m) ∈ y.waiting := by
      rw [← hxAttends.waits_iff hxListed hc,
        ← hyAttends.waits_iff hyListed hc]
      exact h.waits c hc
    by_cases hMem : (c, n) ∈ x.waiting
    · rw [outcome?_complete (f := ⟨n, key⟩) hMem,
        outcome?_complete (f := ⟨m, key⟩) (hWaits.mp hMem)]
      rfl
    · rw [outcome?_complete_of_not_waiting x (f := ⟨n, key⟩) hMem,
        outcome?_complete_of_not_waiting y (f := ⟨m, key⟩)
          (mt hWaits.mpr hMem)]
      exact h.told c hc

------------------------------------------------------------
-- Events
------------------------------------------------------------

/- A call is served, joins or starts a fetch in both. -/
private theorem get
    (h : Alike key callers x y)
    (hx : x.Consistent)
    (hy : y.Consistent)
    (c : Nat)
    {authority : Option String}
    (hKey : Authority.normalize authority = .ok key) :
    Alike key callers (x.get c authority) (y.get c authority) := by
  have hFresh := h.fresh
  cases hxFresh : x.cache.fresh? x.now key with
  | some entry =>
      cases hyFresh : y.cache.fresh? y.now key with
      | none => simp [hxFresh, hyFresh] at hFresh
      | some entry' =>
          rw [get_of_fresh hKey hxFresh, get_of_fresh hKey hyFresh]
          rw [hxFresh, hyFresh] at hFresh
          exact
            h.settle c (congrArg Except.ok (Option.some.inj hFresh))
  | none =>
      have hyFresh : y.cache.fresh? y.now key = none := by
        simpa [hxFresh] using hFresh.symm
      have hUnderWay := h.underWay
      cases hxListed : x.cache.inFlight.lookup key with
      | some n =>
          cases hyListed : y.cache.inFlight.lookup key with
          | none => simp [hxListed, hyListed] at hUnderWay
          | some m =>
              have hSame := h.result?_eq hxListed hyListed
              cases hResult : x.result? n with
              | none =>
                  rw [get_of_pending hKey hxFresh hxListed hResult,
                    get_of_pending hKey hyFresh hyListed
                      (hSame.symm.trans hResult)]
                  exact h.wait c n m
              | some result =>
                  rw [get_of_landed hKey hxFresh hxListed hResult,
                    get_of_landed hKey hyFresh hyListed
                      (hSame.symm.trans hResult)]
                  exact h.settle c rfl
      | none =>
          have hyListed : y.cache.inFlight.lookup key = none := by
            simpa [hxListed] using hUnderWay.symm
          rw [get_of_free hKey hxFresh hxListed,
            get_of_free hKey hyFresh hyListed]
          exact (h.launch hx hy).wait c _ _

/- A caller of the authority leaves in both or in neither. -/
private theorem leave
    (h : Alike key callers x y)
    {c : Nat}
    (hCaller : c ∈ callers)
    (d : Departure) :
    Alike key callers (x.leave c d) (y.leave c d) := by
  have hx := step_move x (.leave c d)
  have hy := step_move y (.leave c d)
  change Move x _ (x.leave c d) at hx
  change Move y _ (y.leave c d) at hy
  generalize x.leave c d = x' at hx
  generalize y.leave c d = y' at hy
  cases hx with
  | left hWaits =>
      cases hy with
      | left _ => exact h.depart c d
      | absent hAway =>
          exact absurd ((h.waits c hCaller).mp hWaits) hAway
  | absent hAway =>
      cases hy with
      | left hWaits =>
          exact absurd ((h.waits c hCaller).mpr hWaits) hAway
      | absent _ => exact h

/- A duration is set or refused in both. -/
private theorem configure
    (h : Alike key callers x y)
    (authority : Option String)
    (d : Duration) :
    Alike key callers (x.step (.configure authority d)).1
      (y.step (.configure authority d)).1 := by
  by_cases hNegative : d.micros < 0
  · rw [step_configure_of_negative x hNegative,
      step_configure_of_negative y hNegative]
    exact h
  · have hLength := Int.not_lt.mp hNegative
    cases hKey : Authority.normalize authority with
    | error fault =>
        rw [step_configure_of_fault x hLength hKey,
          step_configure_of_fault y hLength hKey]
        exact h
    | ok k =>
        have hSet :
            ∀ k',
              x.cache.durations.lookup k' =
                  y.cache.durations.lookup k' →
                (KeyedList.put k d x.cache.durations).lookup k' =
                  (KeyedList.put k d y.cache.durations).lookup k' := by
          intro k' hBefore
          by_cases hSame : k' = k
          · subst hSame
            rw [KeyedList.lookup_put_self, KeyedList.lookup_put_self]
          · rw [KeyedList.lookup_put_of_ne _ _ _ _ hSame,
              KeyedList.lookup_put_of_ne _ _ _ _ hSame, hBefore]
        rw [step_configure_of_ok x hLength hKey,
          step_configure_of_ok y hLength hKey]
        exact
          { h with
            duration := hSet key h.duration
            dated := fun k' hk' => hSet k' (h.dated k' hk') }

/- An entry is forgotten or not in both. -/
private theorem invalidate
    (h : Alike key callers x y)
    (authority : Option String) :
    Alike key callers (x.step (.invalidate authority)).1
      (y.step (.invalidate authority)).1 := by
  cases hKey : Authority.normalize authority with
  | error fault =>
      rw [step_invalidate_of_fault x hKey,
        step_invalidate_of_fault y hKey]
      exact h
  | ok k =>
      rw [step_invalidate_of_ok x hKey, step_invalidate_of_ok y hKey]
      refine { h with entry := ?_ }
      by_cases hSame : key = k
      · subst hSame
        simp [KeyedList.lookup_drop_self]
      · simp only [KeyedList.lookup_drop_of_ne _ _ _ hSame]
        exact h.entry

/- What goes to the fetch of the authority does so in both. -/
private theorem carried_iff
    (h : Alike key callers x y)
    (hx : x.Consistent)
    (hy : y.Consistent)
    (n : Nat) :
    ⟨n, key⟩ ∈ x.running ↔
      ⟨y.numberFor (x.authorityOf? n), key⟩ ∈ y.running := by
  constructor
  · intro hRuns
    have hUnderWay := h.underWay
    cases hListed : y.cache.inFlight.lookup key with
    | none => simp [hx.listed _ hRuns, hListed] at hUnderWay
    | some m =>
        have hm := hy.runs key m hListed
        rw [hx.numberFor_authorityOf? hy hRuns hm]
        exact hm
  · intro hRuns
    cases hFind : x.running.find? fun f => f.number == n with
    | none =>
        have hNumber :
            y.numberFor (x.authorityOf? n) = y.cache.nextFetch := by
          simp [numberFor, authorityOf?, hFind]
        rw [hNumber] at hRuns
        exact absurd (hy.begun _ hRuns) (Nat.lt_irrefl _)
    | some f =>
        have hMem := List.mem_of_find?_eq_some hFind
        have hNumber : f.number = n := by
          simpa using List.find?_some hFind
        subst hNumber
        rw [hx.authorityOf?_of_running hMem] at hRuns
        by_cases hKey : f.authority = key
        · rw [← hKey]
          exact hMem
        · exact absurd hRuns (hy.numberFor_not_running hKey)

/- A reply is to the fetch for its authority in both. -/
private theorem answer
    (h : Alike key callers x y)
    (hx : x.Consistent)
    (hy : y.Consistent)
    (hxAttends : x.Attends key callers)
    (hyAttends : y.Attends key callers)
    (n : Nat)
    (reply : HttpReply) :
    Alike key callers (x.step (.answer n reply)).1
      (y.step (x.carry y (.answer n reply))).1 := by
  have hCarried := h.carried_iff hx hy n
  change
    Alike key callers _
      (y.step (.answer (y.numberFor (x.authorityOf? n)) reply)).1
  generalize y.numberFor (x.authorityOf? n) = m at hCarried ⊢
  by_cases hn : ⟨n, key⟩ ∈ x.running
  · have hm := hCarried.mp hn
    have hxMove := step_move x (.answer n reply)
    have hyMove := step_move y (.answer m reply)
    have hSame := h.result?_eq (hx.listed _ hn) (hy.listed _ hm)
    rcases pending_or_landed hn with hPending | ⟨result, hLanded⟩
    · rw [hx.eq_conclude hPending hxMove,
        hy.eq_conclude ⟨hm, hSame.symm.trans hPending.2⟩ hyMove]
      exact h.conclude hx hy hn hm reply
    · rw [hxMove.eq_of_landed hLanded,
        hyMove.eq_of_landed ⟨hm, hSame.symm.trans hLanded.2⟩]
      exact h
  · have hxSame :=
      alike_of_elsewhere hx hxAttends (e := .answer n reply) hn
    have hySame :=
      alike_of_elsewhere hy hyAttends (e := .answer m reply)
        (mt hCarried.mpr hn)
    exact (hxSame.symm.trans h).trans hySame

/- So is the call of a callback. -/
private theorem finish
    (h : Alike key callers x y)
    (hx : x.Consistent)
    (hy : y.Consistent)
    (hxAttends : x.Attends key callers)
    (hyAttends : y.Attends key callers)
    (n : Nat) :
    Alike key callers (x.step (.finish n)).1
      (y.step (x.carry y (.finish n))).1 := by
  have hCarried := h.carried_iff hx hy n
  change
    Alike key callers _
      (y.step (.finish (y.numberFor (x.authorityOf? n)))).1
  generalize y.numberFor (x.authorityOf? n) = m at hCarried ⊢
  by_cases hn : ⟨n, key⟩ ∈ x.running
  · have hm := hCarried.mp hn
    have hxMove := step_move x (.finish n)
    have hyMove := step_move y (.finish m)
    have hSame := h.result?_eq (hx.listed _ hn) (hy.listed _ hm)
    rcases pending_or_landed hn with hPending | ⟨result, hLanded⟩
    · rw [hxMove.eq_of_pending hPending,
        hyMove.eq_of_pending ⟨hm, hSame.symm.trans hPending.2⟩]
      exact h
    · rw [hx.eq_complete hLanded hxMove,
        hy.eq_complete ⟨hm, hSame.symm.trans hLanded.2⟩ hyMove]
      exact h.complete hx hy hxAttends hyAttends hn hm result
  · have hxSame :=
      alike_of_elsewhere hx hxAttends (e := .finish n) hn
    have hySame :=
      alike_of_elsewhere hy hyAttends (e := .finish m)
        (mt hCarried.mpr hn)
    exact (hxSame.symm.trans h).trans hySame

/- What is alike stays alike when the same happens in both. -/
theorem step
    (h : Alike key callers x y)
    (hx : x.Consistent)
    (hy : y.Consistent)
    (hxAttends : x.Attends key callers)
    (hyAttends : y.Attends key callers)
    (hFits : e.Fits key callers) :
    Alike key callers (x.step e).1 (y.step (x.carry y e)).1 := by
  cases e with
  | get c authority =>
      cases hKey : Authority.normalize authority with
      | error fault =>
          change
            Alike key callers (x.step (.get c authority)).1
              (y.step (.get c authority)).1
          rw [step_get_of_fault x hKey, step_get_of_fault y hKey]
          exact h.settle c rfl
      | ok k =>
          by_cases hSame : k = key
          · subst hSame
            exact h.get hx hy c hKey
          · have hOther : Authority.normalize authority ≠ .ok key := by
              rw [hKey]
              intro hEq
              exact hSame (Except.ok.inj hEq)
            have hAway := mt (hFits c authority rfl).mp hOther
            have hxSame :=
              alike_of_elsewhere hx hxAttends
                (e := .get c authority) ⟨hAway, hOther⟩
            have hySame :=
              alike_of_elsewhere hy hyAttends
                (e := .get c authority) ⟨hAway, hOther⟩
            exact (hxSame.symm.trans h).trans hySame
  | leave c d =>
      by_cases hCaller : c ∈ callers
      · exact h.leave hCaller d
      · have hxSame :=
          alike_of_elsewhere hx hxAttends (e := .leave c d) hCaller
        have hySame :=
          alike_of_elsewhere hy hyAttends (e := .leave c d) hCaller
        exact (hxSame.symm.trans h).trans hySame
  | answer n reply => exact h.answer hx hy hxAttends hyAttends n reply
  | finish n => exact h.finish hx hy hxAttends hyAttends n
  | configure authority d => exact h.configure authority d
  | invalidate authority => exact h.invalidate authority
  | clear => exact { h with entry := rfl }
  | setClock now => exact { h with now := rfl }

end Alike

------------------------------------------------------------
-- Runs
------------------------------------------------------------

variable {a b : String} {x y : Exchange} {events : List Event}

/- A caller asks once. -/
theorem DistinctCallers.eq_of_get
    (h : DistinctCallers events)
    {c : Nat}
    {authority authority' : Option String}
    (hMem : .get c authority ∈ events)
    (hMem' : .get c authority' ∈ events) :
    authority = authority' := by
  rcases List.append_of_mem hMem with ⟨before, after, rfl⟩
  rcases h.split with ⟨hBefore, hAfter⟩
  rcases List.mem_append.mp hMem' with hEarlier | hRest
  · exact absurd rfl (hBefore _ hEarlier)
  · rcases List.mem_cons.mp hRest with hSame | hLater
    · exact (Event.get.inj hSame).2.symm
    · exact absurd rfl (hAfter _ hLater)

/- The callers for an authority are those of its calls. -/
theorem mem_callersFor_iff
    {key : String}
    {c : Nat} :
    c ∈ callersFor key events ↔
      ∃ authority,
        .get c authority ∈ events ∧
          Authority.normalize authority = .ok key := by
  unfold callersFor
  rw [List.mem_filterMap]
  constructor
  · rintro ⟨e, hMem, hCaller⟩
    cases e with
    | get c' authority =>
        by_cases hKey : Authority.normalize authority = .ok key
        · have hSame : c' = c := by
            simpa [hKey] using hCaller
          subst hSame
          exact ⟨authority, hMem, hKey⟩
        · simp [hKey] at hCaller
    | _ => simp at hCaller
  · rintro ⟨authority, hMem, hKey⟩
    exact ⟨.get c authority, hMem, by simp [hKey]⟩

/- Where every call has a caller of its own, callers fit. -/
theorem DistinctCallers.fits
    (h : DistinctCallers events)
    (key : String)
    {e : Event}
    (he : e ∈ events) :
    e.Fits key (callersFor key events) := by
  rintro c authority rfl
  rw [mem_callersFor_iff]
  constructor
  · rintro ⟨authority', hMem, hKey⟩
    rw [h.eq_of_get he hMem]
    exact hKey
  · intro hKey
    exact ⟨authority, he, hKey⟩

/- What names one authority is elsewhere for another. -/
theorem elsewhere_of_names
    (hx : x.Consistent)
    {callers others : List Nat}
    (hNe : a ≠ b)
    (hNotDated : ¬ DatedBy a b)
    (hApart : ∀ c ∈ others, c ∉ callers)
    {e : Event}
    (hFits : e.Fits a callers)
    (hNames : x.names b others e = true) :
    x.Elsewhere a callers e := by
  have hOther :
      ∀ {authority},
        Authority.normalize authority = .ok b →
          Authority.normalize authority ≠ .ok a := by
    intro authority hKey hAlso
    rw [hKey] at hAlso
    exact hNe (Except.ok.inj hAlso).symm
  cases e with
  | get c authority =>
      have hKey : Authority.normalize authority = .ok b := by
        simpa [names] using hNames
      exact ⟨mt (hFits c authority rfl).mp (hOther hKey), hOther hKey⟩
  | leave c d =>
      have hMem : c ∈ others := by
        simpa [names] using hNames
      exact hApart c hMem
  | answer n reply =>
      have hRuns : ⟨n, b⟩ ∈ x.running := by
        simpa [names] using hNames
      intro hAlso
      have hSame := hx.distinct _ hAlso _ hRuns rfl
      exact hNe (congrArg Fetch.authority hSame)
  | finish n =>
      have hRuns : ⟨n, b⟩ ∈ x.running := by
        simpa [names] using hNames
      intro hAlso
      have hSame := hx.distinct _ hAlso _ hRuns rfl
      exact hNe (congrArg Fetch.authority hSame)
  | configure authority d =>
      have hKey : Authority.normalize authority = .ok b := by
        simpa [names] using hNames
      refine ⟨hOther hKey, fun k hk hAlso => ?_⟩
      rw [hKey] at hAlso
      rw [← Except.ok.inj hAlso] at hk
      exact hNotDated hk
  | invalidate authority =>
      have hKey : Authority.normalize authority = .ok b := by
        simpa [names] using hNames
      exact hOther hKey
  | clear => cases hNames
  | setClock now => cases hNames

/-
  A run and what is left of it without one authority stay alike
  for another one, whose callers are different.
-/
theorem Alike.run_leaveOut
    {callers others : List Nat}
    (hNe : a ≠ b)
    (hNotDated : ¬ DatedBy a b)
    (hApart : ∀ c ∈ others, c ∉ callers)
    (h : Alike a callers x y)
    (hx : x.Consistent)
    (hy : y.Consistent)
    (hxAttends : x.Attends a callers)
    (hyAttends : y.Attends a callers)
    (hFits : ∀ e ∈ events, e.Fits a callers) :
    Alike a callers (x.run events)
      (y.run (leaveOut b others x y events)) := by
  induction events generalizing x y with
  | nil => exact h
  | cons e es ih =>
      have hFirst := hFits e List.mem_cons_self
      have hRest := fun e' he' => hFits e' (List.mem_cons_of_mem e he')
      have hxMove := step_move x e
      have hxAfter := hx.move hxMove
      have hxAttendsAfter := hxAttends.move hx hxMove hFirst
      rw [run_cons, leaveOut]
      cases hNames : x.names b others e with
      | true =>
          have hElsewhere :=
            elsewhere_of_names hx hNe hNotDated hApart hFirst hNames
          have hSame := alike_of_elsewhere hx hxAttends hElsewhere
          exact
            ih (hSame.symm.trans h) hxAfter hy hxAttendsAfter hyAttends
              hRest
      | false =>
          have hyMove := step_move y (x.carry y e)
          have hCarried : (x.carry y e).Fits a callers := by
            intro c authority hGet
            cases e <;> cases hGet
            exact hFirst c authority rfl
          rw [if_neg (by simp), run_cons]
          exact
            ih (h.step hx hy hxAttends hyAttends hFirst) hxAfter
              (hy.move hyMove) hxAttendsAfter
              (hyAttends.move hy hyMove hCarried) hRest

------------------------------------------------------------
-- Isolation
------------------------------------------------------------

/-
  Two exchanges agree on an authority: on what its callers have
  come to and who of them waits, on the requests sent for it in
  their order, on its entry, on whether a fetch for it is under
  way, on its duration, and on what is refused.
-/
structure AgreeOn
    (key : String)
    (callers : List Nat)
    (x y : Exchange) : Prop where
  told :
    ∀ c ∈ callers,
      (x.outcome? c).map Outcome.result =
        (y.outcome? c).map Outcome.result
  waits : ∀ c ∈ callers, x.Waits c ↔ y.Waits c
  requests : x.requestsFor key = y.requestsFor key
  entry :
    (x.cache.entries.lookup key).map CachedDocument.document =
      (y.cache.entries.lookup key).map CachedDocument.document
  underWay :
    (x.cache.inFlight.lookup key).isSome =
      (y.cache.inFlight.lookup key).isSome
  duration :
    ∀ authority,
      Authority.normalize authority = .ok key →
        x.cache.durationOf authority = y.cache.durationOf authority
  refused : ∀ e, (x.step e).2 = (y.step e).2

/-
  An authority is isolated from another one: every run and the
  run without everything that names the other one agree on it.
  Every first part of a run is a run as well.
-/
def Isolated (a b : String) : Prop :=
  ∀ settings now events,
    DistinctCallers events →
      AgreeOn a (callersFor a events)
        ((start settings now).run events)
        ((start settings now).run
          ((start settings now).without b events))

/-
  What is faulty is refused: no call, no duration and no wish
  to forget an entry changes the cache, starts a fetch or sends
  a request if its text names no authority or its duration is
  below zero.
-/
structure Refuses (x : Exchange) : Prop where
  call :
    ∀ caller authority fault,
      Authority.normalize authority = .error fault →
        ∀ y, y = (x.step (.get caller authority)).1 →
          y.cache = x.cache ∧ y.running = x.running ∧
            y.requests = x.requests ∧
            y.outcome? caller =
              some ⟨none, .error (.authority fault)⟩
  duration :
    ∀ authority d fault,
      Authority.normalize authority = .error fault →
        0 ≤ d.micros →
          x.step (.configure authority d) =
            (x, some (.authority fault))
  negative :
    ∀ authority d,
      d.micros < 0 →
        x.step (.configure authority d) =
          (x, some .negativeDuration)
  forget :
    ∀ authority fault,
      Authority.normalize authority = .error fault →
        x.step (.invalidate authority) =
          (x, some (.authority fault))
  durationOf :
    ∀ authority fault,
      Authority.normalize authority = .error fault →
        x.cache.durationOf authority = .error (.authority fault)

/- Every exchange refuses what is faulty. -/
theorem refuses (x : Exchange) : x.Refuses where
  call := by
    rintro caller authority fault hFault _ rfl
    rw [step_get_of_fault x hFault]
    refine ⟨rfl, rfl, rfl, ?_⟩
    simp [outcome?, settle]
  duration := fun _ _ _ hFault hLength =>
    step_configure_of_fault x hLength hFault
  negative := fun _ _ hNegative =>
    step_configure_of_negative x hNegative
  forget := fun _ _ hFault => step_invalidate_of_fault x hFault
  durationOf := by
    intro authority fault hFault
    unfold DiscoveryCache.durationOf
    rw [hFault]
    rfl

/- What is alike for an authority agrees on it. -/
theorem Alike.agreeOn
    {callers : List Nat}
    (h : Alike a callers x y) :
    AgreeOn a callers x y where
  told := h.told
  waits := h.waits
  requests := h.requests
  entry := h.entry
  underWay := h.underWay
  duration := fun _ hKey => h.durationOf hKey
  refused := refused_eq x y

/-
  An authority is isolated from all others but the one that its
  documents are dated by.
-/
theorem isolated_of_not_datedBy
    (hNe : a ≠ b)
    (hNotDated : ¬ DatedBy a b) :
    Isolated a b := by
  intro settings now events hDistinct
  have hApart :
      ∀ c ∈ callersFor b events, c ∉ callersFor a events := by
    intro c hb ha
    rcases mem_callersFor_iff.mp hb with ⟨authority, hMem, hKey⟩
    rcases mem_callersFor_iff.mp ha with ⟨authority', hMem', hKey'⟩
    rw [hDistinct.eq_of_get hMem hMem', hKey'] at hKey
    exact hNe (Except.ok.inj hKey)
  have hNobody :
      (start settings now).Attends a (callersFor a events) := by
    intro w hw
    cases hw
  apply Alike.agreeOn
  exact
    Alike.run_leaveOut hNe hNotDated hApart (Alike.refl _ _ _)
      (Consistent.of_start settings now)
      (Consistent.of_start settings now) hNobody hNobody
      fun e he => hDistinct.fits a he

------------------------------------------------------------
-- Normal Forms Read Again
------------------------------------------------------------

/- The sample describes a server wherever it is asked for. -/
theorem fetch_sampleReply
    {key : String}
    {u : Url}
    (hRequest : Discovery.request key = .ok u)
    (hAbsolute : u.isAbsolute = true) :
    Discovery.fetch key sampleReply =
      .ok { issuer := "http://a" } := by
  have hPoints :
      Body.points? (Bytes.ofText "\x7b\"issuer\":\"http://a\"\x7d") =
        some ("\x7b\"issuer\":\"http://a\"\x7d".toList.map Char.toNat) := by
    decide +kernel
  have hBody :
      Body.read (Bytes.ofText "\x7b\"issuer\":\"http://a\"\x7d") =
        .ok (.object [(.text "issuer", Json.text "http://a")]) := by
    unfold Body.read
    rw [hPoints]
    rfl
  exact
    (Discovery.fetch_eq_ok_iff _ _ _).mpr
      ⟨u, _, _, hRequest, hAbsolute, rfl, rfl, hBody, rfl⟩

/- A fetch that starts changes no result. -/
theorem resultOf_launch
    (x : Exchange)
    (key : String)
    (caller n : Nat)
    (f : Fetch)
    (reply : HttpReply) :
    ((x.launch (x.cache.start key) key n).wait caller n).resultOf f
        reply =
      x.resultOf f reply := by
  have hDocument :
      ∀ k m,
        (x.cache.start key).document x.now k m =
          x.cache.document x.now k m :=
    fun _ _ => rfl
  change
    ((x.cache.start key).store x.now f.authority f.number _).2 =
      (x.cache.store x.now f.authority f.number _).2
  cases Discovery.fetch f.authority reply with
  | error e => rfl
  | ok m =>
      simp only [DiscoveryCache.store, hDocument]
      cases x.cache.document x.now f.authority m with
      | error e => rfl
      | ok d => rfl

/- A call that starts a fetch comes to its result. -/
theorem Consistent.called_answered
    (hx : x.Consistent)
    {raw : Option String}
    (hKey : Authority.normalize raw = .ok a)
    (hNoEntry : x.cache.fresh? x.now a = none)
    (hFree : x.cache.inFlight.lookup a = none)
    (caller : Nat)
    (reply : HttpReply) :
    (x.run
      [.get caller raw, .answer x.cache.nextFetch reply,
        .finish x.cache.nextFetch]).outcome? caller =
      some ⟨some x.cache.nextFetch,
        x.resultOf ⟨x.cache.nextFetch, a⟩ reply⟩ := by
  have hCalled := get_of_free hKey hNoEntry hFree caller
  have hPending :
      ((x.launch (x.cache.start a) a x.cache.nextFetch).wait caller
        x.cache.nextFetch).Pending ⟨x.cache.nextFetch, a⟩ :=
    ⟨List.mem_append_right _ List.mem_cons_self,
      hx.result?_eq_none_of_le (Nat.le_refl _)⟩
  have hWaits :
      (caller, x.cache.nextFetch) ∈
        ((x.launch (x.cache.start a) a x.cache.nextFetch).wait caller
          x.cache.nextFetch).waiting :=
    List.mem_append_right _ List.mem_cons_self
  have hTold :=
    (hx.launch hFree caller).outcome?_answered hPending hWaits reply
  rw [run_cons]
  change
    ((x.get caller raw).run
      [.answer x.cache.nextFetch reply,
        .finish x.cache.nextFetch]).outcome? caller = _
  rw [hCalled, hTold, resultOf_launch]

/- An exchange at the epoch in which durations have been set. -/
def startWith (durations : KeyedList Duration) : Exchange :=
  { start {} .epoch with cache := { durations := durations } }

/- The document of the sample lasts as long as its duration says. -/
theorem resultOf_sampleReply_iff
    {raw : Option String}
    (hKey : Authority.normalize raw = .ok a)
    (hDated : DatedBy a b)
    (durations : KeyedList Duration)
    (d : DiscoveryDocument) :
    (startWith durations).resultOf ⟨0, a⟩ sampleReply = .ok d ↔
      d.authority = a ∧ d.metadata = { issuer := "http://a" } ∧
        d.fetchedAt = .epoch ∧
        Moment.epoch.add
          ((durations.lookup b).getD ⟨86400000000⟩) =
            .ok d.expiresAt := by
  have hFetch :
      Discovery.fetch a sampleReply = .ok { issuer := "http://a" } := by
    rcases Discovery.request_of_normalize hKey with
      ⟨_, u, hRequest, hAbsolute⟩ | ⟨_, hRefused⟩
    · exact fetch_sampleReply hRequest hAbsolute
    · rcases hDated.1 with ⟨u, hRequest⟩
      rw [hRefused] at hRequest
      cases hRequest
  have hDuration :
      (startWith durations).cache.durationOf (some a) =
        .ok ((durations.lookup b).getD ⟨86400000000⟩) := by
    simp only [DiscoveryCache.durationOf, hDated.2, Except.mapError,
      bind, Except.bind, startWith]
    cases durations.lookup b with
    | none => rfl
    | some d => rfl
  rw [resultOf_eq_ok_iff]
  simp only [hFetch, Except.ok.injEq, exists_eq_left',
    DiscoveryCache.document_eq_ok_iff, hDuration]
  rfl

/- The reply and the callback of a fetch for another authority stay. -/
theorem Consistent.leaveOut_answered
    (hx : x.Consistent)
    (hy : y.Consistent)
    (hNe : a ≠ b)
    {n m : Nat}
    (hn : x.Pending ⟨n, a⟩)
    (hm : y.Pending ⟨m, a⟩)
    (others : List Nat)
    (reply : HttpReply) :
    leaveOut b others x y [.answer n reply, .finish n] =
      [.answer m reply, .finish m] := by
  have hNumber := hx.numberFor_authorityOf? hy hn.1 hm.1
  have hLater :=
    (hx.conclude hn.1 reply).numberFor_authorityOf?
      (hy.conclude hm.1 reply) hn.1 hm.1
  have hStays : ¬ x.running.contains (⟨n, b⟩ : Fetch) = true := by
    rw [List.contains_iff_mem]
    intro hAlso
    exact hNe (congrArg Fetch.authority (hx.distinct _ hn.1 _ hAlso rfl))
  have hxEnd := hx.eq_conclude hn (step_move x (.answer n reply))
  have hyEnd := hy.eq_conclude hm (step_move y (.answer m reply))
  rw [leaveOut, names, if_neg hStays, carry, hNumber, hxEnd, hyEnd,
    leaveOut, names]
  change
    _ :: (if x.running.contains (⟨n, b⟩ : Fetch) = true then _ else _) =
      _
  rw [if_neg hStays, carry, hLater]
  rfl

/-
  What is left of a duration and a call for another authority:
  the call, in a run of its own.
-/
theorem without_configure
    {raw : Option String}
    (hKey : Authority.normalize raw = .ok a)
    (hNe : a ≠ b)
    (hAgain : Authority.normalize (some a) = .ok b)
    (d : Duration)
    (hLength : 0 ≤ d.micros)
    (reply : HttpReply) :
    (startWith []).without b
        [.configure (some a) d, .get 0 raw, .answer 0 reply,
          .finish 0] =
      [.get 0 raw, .answer 0 reply, .finish 0] := by
  have hSet :
      ((startWith []).step (.configure (some a) d)).1 =
        startWith [(b, d)] := by
    rw [step_configure_of_ok _ hLength hAgain]
    rfl
  have hStart : (startWith []).Consistent :=
    Consistent.of_start {} .epoch
  have hAfter : (startWith [(b, d)]).Consistent := by
    rw [← hSet]
    exact hStart.move (step_move _ _)
  have hPending :
      ∀ durations,
        ((startWith durations).step (.get 0 raw)).1.Pending
          ⟨0, a⟩ := by
    intro durations
    change ((startWith durations).get 0 raw).Pending ⟨0, a⟩
    rw [get_of_free hKey rfl rfl 0]
    exact ⟨List.mem_cons_self, rfl⟩
  unfold without
  rw [leaveOut, if_pos (by simp [names, hAgain]), hSet, leaveOut,
    if_neg (by simp [names, hKey, hNe])]
  change
    .get 0 raw ::
      leaveOut b _ ((startWith [(b, d)]).step (.get 0 raw)).1
        ((startWith []).step (.get 0 raw)).1 _ = _
  rw [(hAfter.move (step_move _ _)).leaveOut_answered
    (hStart.move (step_move _ _)) hNe (hPending _) (hPending _)]

/-
  An authority is not isolated from the one that its documents
  are dated by: a duration that is set for this one is theirs.
-/
theorem not_isolated_of_datedBy
    {raw : Option String}
    (hKey : Authority.normalize raw = .ok a)
    (hNe : a ≠ b)
    (hDated : DatedBy a b) :
    ¬ Isolated a b := by
  intro hIsolated
  have hDistinct :
      DistinctCallers
        [.configure (some a) ⟨0⟩, .get 0 raw,
          .answer 0 sampleReply, .finish 0] := by
    change [0].Nodup
    simp
  have hCaller :
      0 ∈ callersFor a
        [.configure (some a) ⟨0⟩, .get 0 raw,
          .answer 0 sampleReply, .finish 0] :=
    mem_callersFor_iff.mpr ⟨raw, by simp, hKey⟩
  have hTold := (hIsolated {} .epoch _ hDistinct).told 0 hCaller
  have hSet :
      ((startWith []).step (.configure (some a) ⟨0⟩)).1 =
        startWith [(b, ⟨0⟩)] := by
    rw [step_configure_of_ok _ (Int.le_refl 0) hDated.2]
    rfl
  have hStart : (startWith []).Consistent :=
    Consistent.of_start {} .epoch
  have hAfter : (startWith [(b, ⟨0⟩)]).Consistent := by
    rw [← hSet]
    exact hStart.move (step_move _ _)
  change
    (((startWith []).run _).outcome? 0).map Outcome.result =
      (((startWith []).run ((startWith []).without b _)).outcome?
        0).map Outcome.result at hTold
  rw [without_configure hKey hNe hDated.2 ⟨0⟩ (Int.le_refl 0), run_cons,
    hSet] at hTold
  have hWith :=
    hAfter.called_answered hKey rfl rfl 0 sampleReply
  have hWithout :=
    hStart.called_answered hKey rfl rfl 0 sampleReply
  change
    ((startWith [(b, ⟨0⟩)]).run
      [.get 0 raw, .answer 0 sampleReply,
        .finish 0]).outcome? 0 = _ at hWith
  change
    ((startWith []).run
      [.get 0 raw, .answer 0 sampleReply,
        .finish 0]).outcome? 0 = _ at hWithout
  rw [hWith, hWithout] at hTold
  have hSame :
      (startWith [(b, ⟨0⟩)]).resultOf ⟨0, a⟩ sampleReply =
        (startWith []).resultOf ⟨0, a⟩ sampleReply :=
    Option.some.inj hTold
  -- With the duration the document ends at once, without it later.
  have hLater :=
    (resultOf_sampleReply_iff hKey hDated []
      ⟨a, { issuer := "http://a" }, .epoch,
        ⟨86400000000, by decide⟩⟩).mpr
      ⟨rfl, rfl, rfl, (Moment.ofMicros_eq_ok_iff _ _).mpr rfl⟩
  rw [← hSame, resultOf_sampleReply_iff hKey hDated] at hLater
  have hAtOnce := (Moment.ofMicros_eq_ok_iff _ _).mp hLater.2.2.2
  simp [Moment.epoch] at hAtOnce

/-
  An authority is isolated from another one if and only if its
  documents are not dated by the other.  What is faulty is
  refused without any effect.
-/
theorem isolated_iff
    {raw : Option String}
    {a b : String}
    (hKey : Authority.normalize raw = .ok a)
    (hNe : a ≠ b) :
    (Isolated a b ↔ ¬ DatedBy a b) ∧ ∀ x : Exchange, x.Refuses := by
  refine ⟨?_, refuses⟩
  constructor
  · intro hIsolated hDated
    exact not_isolated_of_datedBy hKey hNe hDated hIsolated
  · exact isolated_of_not_datedBy hNe

/- A blank before a slash at the end tells two authorities apart. -/
theorem not_isolated_of_blank :
    Authority.normalize (some "http://a/b /") = .ok "http://a/b " ∧
      "http://a/b " ≠ "http://a/b" ∧
      ¬ Isolated "http://a/b " "http://a/b" := by
  have hKey :
      Authority.normalize (some "http://a/b /") = .ok "http://a/b " := by
    decide +kernel
  have hNe : "http://a/b " ≠ "http://a/b" := by
    decide
  have hSent : (Discovery.request "http://a/b ").isOk = true := by
    decide +kernel
  have hAgain :
      Authority.normalize (some "http://a/b ") = .ok "http://a/b" := by
    decide +kernel
  refine ⟨hKey, hNe, fun hIsolated => ?_⟩
  apply (isolated_iff hKey hNe).1.mp hIsolated
  refine ⟨?_, hAgain⟩
  cases hRequest : Discovery.request "http://a/b " with
  | ok u => exact ⟨u, rfl⟩
  | error e =>
      rw [hRequest] at hSent
      cases hSent

end Exchange

end KeyAssertion
