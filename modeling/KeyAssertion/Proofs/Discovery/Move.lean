import Mathlib.Data.List.Induction
import KeyAssertion.Discovery.Exchange

/-
  This file says what an event can do to an exchange, one case
  for each way in which it can go, and how facts about all the
  states of a run follow from facts about single events.

  Key definitions include:
    * `Exchange.Move`
    * `Exchange.Waits`

  Key theorems include:
    * `Exchange.get_of_fresh`
    * `Exchange.get_of_pending`
    * `Exchange.get_of_landed`
    * `Exchange.get_of_free`
    * `Exchange.step_move`
    * `Exchange.Move.fetches_cases`
    * `Exchange.Move.entries_cases`
    * `Exchange.Move.callers_cases`
    * `Exchange.run_move`
    * `Exchange.run_induction`
-/

namespace KeyAssertion

namespace Exchange

------------------------------------------------------------
-- Calls
------------------------------------------------------------

section Calls

variable {x : Exchange} {authority : Option String} {key : String}

/- A call is served an entry that may be served. -/
theorem get_of_fresh
    (hKey : Authority.normalize authority = .ok key)
    {entry : CachedDocument}
    (hFresh : x.cache.fresh? x.now key = some entry)
    (caller : Nat) :
    x.get caller authority =
      x.settle caller ⟨some entry.fetch, .ok entry.document⟩ := by
  simp only [get, hKey, DiscoveryCache.lookup, hFresh]

/- Without such an entry it waits for the fetch that is listed. -/
theorem get_of_pending
    (hKey : Authority.normalize authority = .ok key)
    (hNoEntry : x.cache.fresh? x.now key = none)
    {n : Nat}
    (hListed : x.cache.inFlight.lookup key = some n)
    (hOpen : x.result? n = none)
    (caller : Nat) :
    x.get caller authority = x.wait caller n := by
  simp only [get, hKey, DiscoveryCache.lookup, hNoEntry, hListed, join,
    hOpen]

/- It is told the result if the fetch has one already. -/
theorem get_of_landed
    (hKey : Authority.normalize authority = .ok key)
    (hNoEntry : x.cache.fresh? x.now key = none)
    {n : Nat}
    (hListed : x.cache.inFlight.lookup key = some n)
    {result : Except CacheError DiscoveryDocument}
    (hResult : x.result? n = some result)
    (caller : Nat) :
    x.get caller authority = x.settle caller ⟨some n, result⟩ := by
  simp only [get, hKey, DiscoveryCache.lookup, hNoEntry, hListed, join,
    hResult]

/- Without such a fetch it starts one. -/
theorem get_of_free
    (hKey : Authority.normalize authority = .ok key)
    (hNoEntry : x.cache.fresh? x.now key = none)
    (hFree : x.cache.inFlight.lookup key = none)
    (caller : Nat) :
    x.get caller authority =
      (x.launch (x.cache.start key) key x.cache.nextFetch).wait
        caller x.cache.nextFetch := by
  simp only [get, hKey, DiscoveryCache.lookup, hNoEntry, hFree]

end Calls

------------------------------------------------------------
-- Moves
------------------------------------------------------------

/- A caller waits for some fetch. -/
def Waits
    (x : Exchange)
    (caller : Nat) : Prop :=
  ∃ n, (caller, n) ∈ x.waiting

/- What an event makes of an exchange. -/
inductive Move (x : Exchange) : Event → Exchange → Prop
  | faulty
      {caller : Nat} {authority : Option String}
      {fault : Authority.Fault}
      (hFault : Authority.normalize authority = .error fault) :
      Move x (.get caller authority)
        (x.settle caller ⟨none, .error (.authority fault)⟩)
  | hit
      {caller : Nat} {authority : Option String}
      {key : String} {entry : CachedDocument}
      (hKey : Authority.normalize authority = .ok key)
      (hEntry : x.cache.entries.lookup key = some entry)
      (hFresh : x.now < entry.document.expiresAt) :
      Move x (.get caller authority)
        (x.settle caller ⟨some entry.fetch, .ok entry.document⟩)
  | joined
      {caller : Nat} {authority : Option String}
      {key : String} {n : Nat}
      (hKey : Authority.normalize authority = .ok key)
      (hNoEntry : x.cache.fresh? x.now key = none)
      (hListed : x.cache.inFlight.lookup key = some n)
      (hOpen : x.result? n = none) :
      Move x (.get caller authority) (x.wait caller n)
  | late
      {caller : Nat} {authority : Option String}
      {key : String} {n : Nat}
      {result : Except CacheError DiscoveryDocument}
      (hKey : Authority.normalize authority = .ok key)
      (hNoEntry : x.cache.fresh? x.now key = none)
      (hListed : x.cache.inFlight.lookup key = some n)
      (hResult : x.result? n = some result) :
      Move x (.get caller authority)
        (x.settle caller ⟨some n, result⟩)
  | started
      {caller : Nat} {authority : Option String} {key : String}
      (hKey : Authority.normalize authority = .ok key)
      (hNoEntry : x.cache.fresh? x.now key = none)
      (hFree : x.cache.inFlight.lookup key = none) :
      Move x (.get caller authority)
        ((x.launch (x.cache.start key) key
          x.cache.nextFetch).wait caller x.cache.nextFetch)
  | left
      {caller : Nat} {d : Departure}
      (hWaits : x.Waits caller) :
      Move x (.leave caller d) (x.depart caller d)
  | absent
      {caller : Nat} {d : Departure}
      (hAway : ¬ x.Waits caller) :
      Move x (.leave caller d) x
  | answered
      {n : Nat} {reply : HttpReply} {f : Fetch}
      (hPending : x.Pending f)
      (hNumber : f.number = n) :
      Move x (.answer n reply) (x.conclude f reply)
  | stray
      {n : Nat} {reply : HttpReply}
      (hOver : ∀ f, x.Pending f → f.number ≠ n) :
      Move x (.answer n reply) x
  | finished
      {n : Nat} {f : Fetch}
      {result : Except CacheError DiscoveryDocument}
      (hLanded : x.Landed f result)
      (hNumber : f.number = n) :
      Move x (.finish n) (x.complete f result)
  | unfinished
      {n : Nat}
      (hOpen : ∀ f result, x.Landed f result → f.number ≠ n) :
      Move x (.finish n) x
  | configured
      {authority : Option String} {d : Duration} {key : String}
      (hLength : 0 ≤ d.micros)
      (hKey : Authority.normalize authority = .ok key) :
      Move x (.configure authority d)
        { x with cache :=
          { x.cache with
            durations := KeyedList.put key d x.cache.durations } }
  | notConfigured
      {authority : Option String} {d : Duration}
      (hRefused :
        d.micros < 0 ∨
          ∃ fault, Authority.normalize authority = .error fault) :
      Move x (.configure authority d) x
  | invalidated
      {authority : Option String} {key : String}
      (hKey : Authority.normalize authority = .ok key) :
      Move x (.invalidate authority)
        { x with cache :=
          { x.cache with
            entries := KeyedList.drop key x.cache.entries } }
  | notInvalidated
      {authority : Option String} {fault : Authority.Fault}
      (hFault : Authority.normalize authority = .error fault) :
      Move x (.invalidate authority) x
  | cleared :
      Move x .clear { x with cache := x.cache.clear }
  | clockSet
      {now : Moment} :
      Move x (.setClock now) { x with now := now }

/- A call is served from an entry, joins a fetch or starts one. -/
private theorem get_move
    (x : Exchange)
    (caller : Nat)
    (authority : Option String) :
    Move x (.get caller authority) (x.get caller authority) := by
  cases hKey : Authority.normalize authority with
  | error fault =>
      rw [get, hKey]
      exact Move.faulty hKey
  | ok key =>
      cases hFresh : x.cache.fresh? x.now key with
      | some entry =>
          have hEntry :=
            (x.cache.fresh?_eq_some_iff x.now key entry).mp hFresh
          rw [get_of_fresh hKey hFresh]
          exact Move.hit hKey hEntry.1 hEntry.2
      | none =>
          cases hListed : x.cache.inFlight.lookup key with
          | some n =>
              cases hResult : x.result? n with
              | some result =>
                  rw [get_of_landed hKey hFresh hListed hResult]
                  exact Move.late hKey hFresh hListed hResult
              | none =>
                  rw [get_of_pending hKey hFresh hListed hResult]
                  exact Move.joined hKey hFresh hListed hResult
          | none =>
              rw [get_of_free hKey hFresh hListed]
              exact Move.started hKey hFresh hListed

/- Only a caller that waits can leave. -/
private theorem leave_move
    (x : Exchange)
    (caller : Nat)
    (d : Departure) :
    Move x (.leave caller d) (x.leave caller d) := by
  have hWaits :
      (x.waiting.lookup caller).isSome ↔ x.Waits caller := by
    rw [List.lookup_isSome_iff]
    constructor
    · rintro ⟨⟨c, n⟩, hMem, hCaller⟩
      have hEq : caller = c := by
        simpa using hCaller
      exact ⟨n, hEq ▸ hMem⟩
    · rintro ⟨n, hMem⟩
      exact ⟨(caller, n), hMem, by simp⟩
  unfold leave
  split
  · next hSome =>
      exact Move.left (hWaits.mp hSome)
  · next hNone =>
      exact Move.absent fun h => hNone (hWaits.mpr h)

/- No fetch has a number that is not found. -/
private theorem not_running_of_find?
    {x : Exchange}
    {n : Nat}
    (hNone : (x.running.find? fun f => f.number == n) = none)
    {f : Fetch}
    (hRuns : f ∈ x.running) :
    f.number ≠ n := by
  have hNot := List.find?_eq_none.mp hNone f hRuns
  simpa using hNot

/- Only a fetch without a result can be answered. -/
private theorem answer_move
    (x : Exchange)
    (n : Nat)
    (reply : HttpReply) :
    Move x (.answer n reply) (x.answer n reply) := by
  unfold answer
  cases hFound : x.running.find? fun f => f.number == n with
  | none =>
      apply Move.stray
      intro f hPending
      exact not_running_of_find? hFound hPending.1
  | some f =>
      have hRuns := List.mem_of_find?_eq_some hFound
      have hNumber : f.number = n := by
        simpa using List.find?_some hFound
      subst hNumber
      cases hResult : x.result? f.number with
      | none => exact Move.answered ⟨hRuns, hResult⟩ rfl
      | some result =>
          apply Move.stray
          intro g hPending hSame
          have hOpen := hPending.2
          rw [hSame, hResult] at hOpen
          cases hOpen

/- Only the callback of a fetch with a result is called. -/
private theorem finish_move
    (x : Exchange)
    (n : Nat) :
    Move x (.finish n) (x.finish n) := by
  unfold finish
  cases hFound : x.running.find? fun f => f.number == n with
  | none =>
      apply Move.unfinished
      intro f result hLanded
      exact not_running_of_find? hFound hLanded.1
  | some f =>
      have hRuns := List.mem_of_find?_eq_some hFound
      have hNumber : f.number = n := by
        simpa using List.find?_some hFound
      subst hNumber
      cases hResult : x.result? f.number with
      | some result => exact Move.finished ⟨hRuns, hResult⟩ rfl
      | none =>
          apply Move.unfinished
          intro g result hLanded hSame
          have hThere := hLanded.2
          rw [hSame, hResult] at hThere
          cases hThere

/- A call to set a duration either takes effect or is refused. -/
private theorem configure_move
    (x : Exchange)
    (authority : Option String)
    (d : Duration) :
    Move x (.configure authority d)
      (x.change (x.cache.configure authority d)).1 := by
  unfold DiscoveryCache.configure
  by_cases hNegative : d.micros < 0
  · rw [if_pos hNegative]
    exact Move.notConfigured (Or.inl hNegative)
  · rw [if_neg hNegative]
    cases hKey : Authority.normalize authority with
    | error fault =>
        exact Move.notConfigured (Or.inr ⟨fault, hKey⟩)
    | ok key =>
        exact Move.configured (Int.not_lt.mp hNegative) hKey

/- A call to forget an entry takes effect or is refused. -/
private theorem invalidate_move
    (x : Exchange)
    (authority : Option String) :
    Move x (.invalidate authority)
      (x.change (x.cache.invalidate authority)).1 := by
  unfold DiscoveryCache.invalidate
  cases hKey : Authority.normalize authority with
  | error fault => exact Move.notInvalidated hKey
  | ok key => exact Move.invalidated hKey

/- Every event makes one of the moves. -/
theorem step_move
    (x : Exchange)
    (e : Event) :
    Move x e (x.step e).1 := by
  cases e with
  | get caller authority => exact x.get_move caller authority
  | leave caller d => exact x.leave_move caller d
  | answer n reply => exact x.answer_move n reply
  | finish n => exact x.finish_move n
  | configure authority d => exact x.configure_move authority d
  | invalidate authority => exact x.invalidate_move authority
  | clear => exact Move.cleared
  | setClock now => exact Move.clockSet

------------------------------------------------------------
-- What Moves Change
------------------------------------------------------------

variable {x y : Exchange} {e : Event}

/- The fetches, those listed and those that run, are the same. -/
structure SameFetches (x y : Exchange) : Prop where
  running : y.running = x.running
  results : y.results = x.results
  inFlight : y.cache.inFlight = x.cache.inFlight
  nextFetch : y.cache.nextFetch = x.cache.nextFetch
  requests : y.requests = x.requests

/-
  Fetches change by the call that starts one, by a reply and by
  a callback.
-/
theorem Move.fetches_cases
    (hMove : Move x e y) :
    SameFetches x y ∨
      (∃ caller authority key,
        e = .get caller authority ∧
          Authority.normalize authority = .ok key ∧
          x.cache.fresh? x.now key = none ∧
          x.cache.inFlight.lookup key = none ∧
          y = (x.launch (x.cache.start key) key
            x.cache.nextFetch).wait caller x.cache.nextFetch) ∨
      (∃ f reply,
        x.Pending f ∧ e = .answer f.number reply ∧
          y = x.conclude f reply) ∨
      ∃ f result,
        x.Landed f result ∧ e = .finish f.number ∧
          y = x.complete f result := by
  cases hMove with
  | faulty _ => exact Or.inl ⟨rfl, rfl, rfl, rfl, rfl⟩
  | hit _ _ _ => exact Or.inl ⟨rfl, rfl, rfl, rfl, rfl⟩
  | joined _ _ _ _ => exact Or.inl ⟨rfl, rfl, rfl, rfl, rfl⟩
  | late _ _ _ _ => exact Or.inl ⟨rfl, rfl, rfl, rfl, rfl⟩
  | @started caller authority key hKey hNoEntry hFree =>
      exact Or.inr (Or.inl
        ⟨caller, authority, key, rfl, hKey, hNoEntry, hFree, rfl⟩)
  | left _ => exact Or.inl ⟨rfl, rfl, rfl, rfl, rfl⟩
  | absent _ => exact Or.inl ⟨rfl, rfl, rfl, rfl, rfl⟩
  | @answered _ reply f hPending hNumber =>
      exact Or.inr (Or.inr (Or.inl
        ⟨f, reply, hPending, by rw [hNumber], rfl⟩))
  | stray _ => exact Or.inl ⟨rfl, rfl, rfl, rfl, rfl⟩
  | @finished _ f result hLanded hNumber =>
      exact Or.inr (Or.inr (Or.inr
        ⟨f, result, hLanded, by rw [hNumber], rfl⟩))
  | unfinished _ => exact Or.inl ⟨rfl, rfl, rfl, rfl, rfl⟩
  | configured _ _ => exact Or.inl ⟨rfl, rfl, rfl, rfl, rfl⟩
  | notConfigured _ => exact Or.inl ⟨rfl, rfl, rfl, rfl, rfl⟩
  | invalidated _ => exact Or.inl ⟨rfl, rfl, rfl, rfl, rfl⟩
  | notInvalidated _ => exact Or.inl ⟨rfl, rfl, rfl, rfl, rfl⟩
  | cleared => exact Or.inl ⟨rfl, rfl, rfl, rfl, rfl⟩
  | clockSet => exact Or.inl ⟨rfl, rfl, rfl, rfl, rfl⟩

/- Entries change by a reply or by a call to forget them. -/
theorem Move.entries_cases
    (hMove : Move x e y) :
    y.cache.entries = x.cache.entries ∨
      (∃ f reply,
        x.Pending f ∧ e = .answer f.number reply ∧
          y = x.conclude f reply) ∨
      (∃ authority key,
        e = .invalidate authority ∧
          Authority.normalize authority = .ok key ∧
          y.cache.entries = KeyedList.drop key x.cache.entries) ∨
      (e = .clear ∧ y.cache.entries = []) := by
  cases hMove with
  | faulty _ => exact Or.inl rfl
  | hit _ _ _ => exact Or.inl rfl
  | joined _ _ _ _ => exact Or.inl rfl
  | late _ _ _ _ => exact Or.inl rfl
  | started _ _ _ => exact Or.inl rfl
  | left _ => exact Or.inl rfl
  | absent _ => exact Or.inl rfl
  | @answered _ reply f hPending hNumber =>
      exact Or.inr (Or.inl
        ⟨f, reply, hPending, by rw [hNumber], rfl⟩)
  | stray _ => exact Or.inl rfl
  | finished _ _ => exact Or.inl (entries_complete _ _ _)
  | unfinished _ => exact Or.inl rfl
  | configured _ _ => exact Or.inl rfl
  | notConfigured _ => exact Or.inl rfl
  | @invalidated authority key hKey =>
      exact Or.inr (Or.inr (Or.inl
        ⟨authority, key, rfl, hKey, rfl⟩))
  | notInvalidated _ => exact Or.inl rfl
  | cleared => exact Or.inr (Or.inr (Or.inr ⟨rfl, rfl⟩))
  | clockSet => exact Or.inl rfl

/-
  Callers change by calls, which are served at once or wait, by
  leaving and by a callback.
-/
theorem Move.callers_cases
    (hMove : Move x e y) :
    (y.waiting = x.waiting ∧ y.outcomes = x.outcomes) ∨
      (∃ caller authority outcome,
        e = .get caller authority ∧
          y.waiting = x.waiting ∧
          y.outcomes = (caller, outcome) :: x.outcomes) ∨
      (∃ caller authority n,
        e = .get caller authority ∧
          y.waiting = x.waiting ++ [(caller, n)] ∧
          y.outcomes = x.outcomes) ∨
      (∃ caller d,
        e = .leave caller d ∧ x.Waits caller ∧
          y = x.depart caller d) ∨
      ∃ f result,
        x.Landed f result ∧ e = .finish f.number ∧
          y = x.complete f result := by
  cases hMove with
  | @faulty caller authority _ _ =>
      exact Or.inr (Or.inl
        ⟨caller, authority, _, rfl, rfl, rfl⟩)
  | @hit caller authority _ _ _ _ _ =>
      exact Or.inr (Or.inl
        ⟨caller, authority, _, rfl, rfl, rfl⟩)
  | @joined caller authority _ n _ _ _ _ =>
      exact Or.inr (Or.inr (Or.inl
        ⟨caller, authority, n, rfl, rfl, rfl⟩))
  | @late caller authority _ _ _ _ _ _ _ =>
      exact Or.inr (Or.inl
        ⟨caller, authority, _, rfl, rfl, rfl⟩)
  | @started caller authority _ _ _ _ =>
      exact Or.inr (Or.inr (Or.inl
        ⟨caller, authority, _, rfl, rfl, rfl⟩))
  | @left caller d hWaits =>
      exact Or.inr (Or.inr (Or.inr (Or.inl
        ⟨caller, d, rfl, hWaits, rfl⟩)))
  | absent _ => exact Or.inl ⟨rfl, rfl⟩
  | answered _ _ => exact Or.inl ⟨rfl, rfl⟩
  | stray _ => exact Or.inl ⟨rfl, rfl⟩
  | @finished _ f result hLanded hNumber =>
      exact Or.inr (Or.inr (Or.inr (Or.inr
        ⟨f, result, hLanded, by rw [hNumber], rfl⟩)))
  | unfinished _ => exact Or.inl ⟨rfl, rfl⟩
  | configured _ _ => exact Or.inl ⟨rfl, rfl⟩
  | notConfigured _ => exact Or.inl ⟨rfl, rfl⟩
  | invalidated _ => exact Or.inl ⟨rfl, rfl⟩
  | notInvalidated _ => exact Or.inl ⟨rfl, rfl⟩
  | cleared => exact Or.inl ⟨rfl, rfl⟩
  | clockSet => exact Or.inl ⟨rfl, rfl⟩

/- A reply to a fetch that has landed does nothing. -/
theorem Move.eq_of_landed
    {f : Fetch}
    {result : Except CacheError DiscoveryDocument}
    {reply : HttpReply}
    (hMove : Move x (.answer f.number reply) y)
    (hLanded : x.Landed f result) :
    y = x := by
  cases hMove with
  | answered hPending hNumber =>
      have hOpen := hPending.2
      rw [hNumber, hLanded.2] at hOpen
      cases hOpen
  | stray _ => rfl

/- The callback of a pending fetch is not called. -/
theorem Move.eq_of_pending
    {f : Fetch}
    (hMove : Move x (.finish f.number) y)
    (hPending : x.Pending f) :
    y = x := by
  cases hMove with
  | finished hLanded hNumber =>
      have hThere := hLanded.2
      rw [hNumber, hPending.2] at hThere
      cases hThere
  | unfinished _ => rfl

------------------------------------------------------------
-- Runs
------------------------------------------------------------

/- The last event of a run makes a move. -/
theorem run_move
    (x : Exchange)
    (es : List Event)
    (e : Event) :
    Move (x.run es) e (x.run (es ++ [e])) := by
  rw [run_concat]
  exact step_move _ e

/-
  What holds at first and is kept by each event, whatever went
  before it, holds after every run.
-/
theorem run_induction
    {P : List Event → Exchange → Prop}
    {x : Exchange}
    (hStart : P [] x)
    (hMove :
      ∀ es e y,
        P es (x.run es) → Move (x.run es) e y →
          P (es ++ [e]) y)
    (es : List Event) :
    P es (x.run es) := by
  induction es using List.reverseRecOn with
  | nil => exact hStart
  | append_singleton es e ih =>
      exact hMove es e _ ih (run_move x es e)

end Exchange

end KeyAssertion
