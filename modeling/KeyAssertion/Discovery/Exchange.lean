import KeyAssertion.Discovery.Cache

/-
  This file defines runs of the cache with its callers, its
  clock and the network: what happens at each event, and what
  every caller comes to.  A fetch ends in two events: a reply
  gives it a result, and its callback takes it off the list of
  the cache and tells the result to those who wait.  Anything
  may happen in between.

  Key definitions include:
    * `Outcome`
    * `Fetch`
    * `Exchange`
    * `Exchange.Pending`
    * `Exchange.Landed`
    * `Exchange.Event`
    * `Exchange.step`
    * `Exchange.run`
-/

namespace KeyAssertion

/-
  What a caller comes to, and the number of the fetch that it
  comes from.
-/
structure Outcome where
  fetch : Option Nat
  result : Except CacheError DiscoveryDocument

/- A fetch that runs, with the authority that it is for. -/
structure Fetch where
  number : Nat
  authority : String
deriving DecidableEq, Repr

/- A request that has been sent. -/
structure SentRequest where
  fetch : Nat
  authority : String
  url : String
deriving DecidableEq, Repr

/-
  The cache at a moment, with the fetches that run, the results
  of those among them that have come to one, the callers that
  wait for a fetch, the outcomes of the others, the latest
  first, and all requests sent so far.  A fetch runs until its
  callback has been called; the cache has a list of its own.
-/
structure Exchange where
  cache : DiscoveryCache
  now : Moment
  running : List Fetch := []
  results : List (Nat × Except CacheError DiscoveryDocument) := []
  waiting : List (Nat × Nat) := []
  outcomes : List (Nat × Outcome) := []
  requests : List SentRequest := []

namespace Exchange

/- Why a caller stops waiting. -/
inductive Departure
  | timedOut
  | cancelled
deriving DecidableEq, Repr

/- What a caller that stops waiting comes to. -/
def Departure.outcome : Departure → Outcome
  | .timedOut => ⟨none, .error .timedOut⟩
  | .cancelled => ⟨none, .error .cancelled⟩

/-
  What may happen.  A reply is to the fetch with a number, and
  so is the call of its callback.  A caller that is cancelled
  when the callback has been called, but before it goes on
  itself, comes to the same as one that leaves right before.
-/
inductive Event
  | get (caller : Nat) (authority : Option String)
  | leave (caller : Nat) (departure : Departure)
  | answer (fetch : Nat) (reply : HttpReply)
  | finish (fetch : Nat)
  | configure (authority : Option String) (duration : Duration)
  | invalidate (authority : Option String)
  | clear
  | setClock (now : Moment)

------------------------------------------------------------
-- Fetches
------------------------------------------------------------

/- What a fetch that runs has come to, if it has a result yet. -/
def result?
    (x : Exchange)
    (n : Nat) : Option (Except CacheError DiscoveryDocument) :=
  x.results.lookup n

/- A fetch runs and has not come to a result yet. -/
def Pending
    (x : Exchange)
    (f : Fetch) : Prop :=
  f ∈ x.running ∧ x.result? f.number = none

/- A fetch runs and has come to its result. -/
def Landed
    (x : Exchange)
    (f : Fetch)
    (result : Except CacheError DiscoveryDocument) : Prop :=
  f ∈ x.running ∧ x.result? f.number = some result

instance (x : Exchange) (f : Fetch) : Decidable (x.Pending f) :=
  decidable_of_iff
    (f ∈ x.running ∧ (x.result? f.number).isNone = true)
    (and_congr_right' Option.isNone_iff_eq_none)

/- A fetch that runs is pending or has landed. -/
theorem pending_or_landed
    {x : Exchange}
    {f : Fetch}
    (hRuns : f ∈ x.running) :
    x.Pending f ∨ ∃ result, x.Landed f result := by
  cases hResult : x.result? f.number with
  | none => exact Or.inl ⟨hRuns, hResult⟩
  | some result => exact Or.inr ⟨result, hRuns, hResult⟩

------------------------------------------------------------
-- Callers
------------------------------------------------------------

/- Give a caller its outcome. -/
def settle
    (x : Exchange)
    (caller : Nat)
    (outcome : Outcome) : Exchange :=
  { x with outcomes := (caller, outcome) :: x.outcomes }

/- What a caller has come to. -/
def outcome?
    (x : Exchange)
    (caller : Nat) : Option Outcome :=
  x.outcomes.lookup caller

/- Let a caller wait for a fetch. -/
def wait
    (x : Exchange)
    (caller fetch : Nat) : Exchange :=
  { x with waiting := x.waiting ++ [(caller, fetch)] }

/- The request of a fetch, if one can be sent. -/
def requestOf
    (key : String)
    (fetch : Nat) : List SentRequest :=
  match Discovery.request key with
  | .ok u => [⟨fetch, key, u.toText⟩]
  | .error _ => []

/- A fetch has at most the one request for its authority. -/
theorem mem_requestOf_iff
    (key : String)
    (fetch : Nat)
    (r : SentRequest) :
    r ∈ requestOf key fetch ↔
      ∃ u,
        Discovery.request key = .ok u ∧
          r = ⟨fetch, key, u.toText⟩ := by
  unfold requestOf
  cases Discovery.request key with
  | ok u => simp
  | error e => simp

/- Let the fetch that the cache has just started run. -/
def launch
    (x : Exchange)
    (cache : DiscoveryCache)
    (key : String)
    (n : Nat) : Exchange :=
  { x with
    cache := cache
    running := x.running ++ [⟨n, key⟩]
    requests := x.requests ++ requestOf key n }

/-
  A caller joins a fetch.  It waits for the result, or is told
  it at once if it is there already.
-/
def join
    (x : Exchange)
    (caller fetch : Nat) : Exchange :=
  match x.result? fetch with
  | some result => x.settle caller ⟨some fetch, result⟩
  | none => x.wait caller fetch

/- A caller asks for the document of an authority. -/
def get
    (x : Exchange)
    (caller : Nat)
    (authority : Option String) : Exchange :=
  match Authority.normalize authority with
  | .error fault => x.settle caller ⟨none, .error (.authority fault)⟩
  | .ok key =>
      let (cache, found) := x.cache.lookup x.now key
      match found with
      | .hit e => x.settle caller ⟨some e.fetch, .ok e.document⟩
      | .joined n => x.join caller n
      | .started n => (x.launch cache key n).wait caller n

/- A caller stops waiting. -/
def depart
    (x : Exchange)
    (caller : Nat)
    (d : Departure) : Exchange :=
  { x with waiting := x.waiting.filter fun w => w.1 != caller }.settle
    caller d.outcome

/- A caller stops waiting, if it waits. -/
def leave
    (x : Exchange)
    (caller : Nat)
    (d : Departure) : Exchange :=
  if (x.waiting.lookup caller).isSome then x.depart caller d else x

------------------------------------------------------------
-- The End of a Fetch
------------------------------------------------------------

/- The result of a fetch with a reply, as it would be now. -/
def resultOf
    (x : Exchange)
    (f : Fetch)
    (reply : HttpReply) : Except CacheError DiscoveryDocument :=
  (x.cache.store x.now f.authority f.number
    (Discovery.fetch f.authority reply)).2

/- The result is the dated document of the metadata in the reply. -/
theorem resultOf_eq_ok_iff
    (x : Exchange)
    (f : Fetch)
    (reply : HttpReply)
    (d : DiscoveryDocument) :
    x.resultOf f reply = .ok d ↔
      ∃ m,
        Discovery.fetch f.authority reply = .ok m ∧
          x.cache.document x.now f.authority m = .ok d :=
  DiscoveryCache.store_eq_ok_iff _ _ _ _ _ d

/- Let a fetch come to its result; it stays listed and runs on. -/
def conclude
    (x : Exchange)
    (f : Fetch)
    (reply : HttpReply) : Exchange :=
  { x with
    cache := (x.cache.store x.now f.authority f.number
      (Discovery.fetch f.authority reply)).1
    results := (f.number, x.resultOf f reply) :: x.results }

/- The settings are as they were. -/
@[simp] theorem settings_conclude
    (x : Exchange)
    (f : Fetch)
    (reply : HttpReply) :
    (x.conclude f reply).cache.settings = x.cache.settings :=
  DiscoveryCache.settings_store _ _ _ _ _

/- So are the durations, -/
@[simp] theorem durations_conclude
    (x : Exchange)
    (f : Fetch)
    (reply : HttpReply) :
    (x.conclude f reply).cache.durations = x.cache.durations :=
  DiscoveryCache.durations_store _ _ _ _ _

/- the list of fetches -/
@[simp] theorem inFlight_conclude
    (x : Exchange)
    (f : Fetch)
    (reply : HttpReply) :
    (x.conclude f reply).cache.inFlight = x.cache.inFlight :=
  DiscoveryCache.inFlight_store _ _ _ _ _

/- and the numbers to come. -/
@[simp] theorem nextFetch_conclude
    (x : Exchange)
    (f : Fetch)
    (reply : HttpReply) :
    (x.conclude f reply).cache.nextFetch = x.cache.nextFetch :=
  DiscoveryCache.nextFetch_store _ _ _ _ _

/- The entries of other authorities are left. -/
theorem lookup_entries_conclude_of_ne
    (x : Exchange)
    {f : Fetch}
    (reply : HttpReply)
    {key : String}
    (hNe : key ≠ f.authority) :
    (x.conclude f reply).cache.entries.lookup key =
      x.cache.entries.lookup key :=
  DiscoveryCache.lookup_entries_store_of_ne _ _ _ _ _ key hNe

/- A document is the entry of its authority. -/
theorem lookup_entries_conclude_of_ok
    {x : Exchange}
    {f : Fetch}
    {reply : HttpReply}
    {d : DiscoveryDocument}
    (hResult : x.resultOf f reply = .ok d) :
    (x.conclude f reply).cache.entries.lookup f.authority =
      some ⟨f.number, d⟩ :=
  DiscoveryCache.lookup_entries_store_of_ok _ _ _ _ _ hResult

/- The fetch has this result. -/
theorem result?_conclude_self
    (x : Exchange)
    (f : Fetch)
    (reply : HttpReply) :
    (x.conclude f reply).result? f.number =
      some (x.resultOf f reply) := by
  simp [result?, conclude]

/- Other fetches have the results that they had. -/
theorem result?_conclude_of_ne
    (x : Exchange)
    (f : Fetch)
    (reply : HttpReply)
    {n : Nat}
    (hNe : n ≠ f.number) :
    (x.conclude f reply).result? n = x.result? n := by
  simp [result?, conclude, List.lookup_cons,
    beq_eq_false_iff_ne.mpr hNe]

/- The reply to a fetch without a result, which then has one. -/
def answer
    (x : Exchange)
    (n : Nat)
    (reply : HttpReply) : Exchange :=
  match x.running.find? fun f => f.number == n with
  | none => x
  | some f =>
      match x.result? n with
      | some _ => x
      | none => x.conclude f reply

/-
  Call the callback of a fetch: it is taken off the list, and
  the callers that wait for it come to its result.
-/
def complete
    (x : Exchange)
    (f : Fetch)
    (result : Except CacheError DiscoveryDocument) : Exchange :=
  let (served, others) := x.waiting.partition fun w => w.2 == f.number
  { x with
    cache := x.cache.release f.authority f.number
    running := x.running.filter fun g => g.number != f.number
    results := x.results.filter fun r => r.1 != f.number
    waiting := others
    outcomes :=
      served.map (fun w => (w.1, ⟨some f.number, result⟩))
        ++ x.outcomes }

/- The settings are as they were. -/
@[simp] theorem settings_complete
    (x : Exchange)
    (f : Fetch)
    (result : Except CacheError DiscoveryDocument) :
    (x.complete f result).cache.settings = x.cache.settings :=
  DiscoveryCache.settings_release _ _ _

/- So are the durations, -/
@[simp] theorem durations_complete
    (x : Exchange)
    (f : Fetch)
    (result : Except CacheError DiscoveryDocument) :
    (x.complete f result).cache.durations = x.cache.durations :=
  DiscoveryCache.durations_release _ _ _

/- the entries -/
@[simp] theorem entries_complete
    (x : Exchange)
    (f : Fetch)
    (result : Except CacheError DiscoveryDocument) :
    (x.complete f result).cache.entries = x.cache.entries :=
  DiscoveryCache.entries_release _ _ _

/- and the numbers to come. -/
@[simp] theorem nextFetch_complete
    (x : Exchange)
    (f : Fetch)
    (result : Except CacheError DiscoveryDocument) :
    (x.complete f result).cache.nextFetch = x.cache.nextFetch :=
  DiscoveryCache.nextFetch_release _ _ _

/- What runs after the callback of a fetch. -/
theorem mem_running_complete
    {x : Exchange}
    {f g : Fetch}
    {result : Except CacheError DiscoveryDocument} :
    g ∈ (x.complete f result).running ↔
      g ∈ x.running ∧ g.number ≠ f.number := by
  simp [complete]

/- The other fetches keep their results. -/
theorem result?_complete_of_ne
    (x : Exchange)
    (f : Fetch)
    (result : Except CacheError DiscoveryDocument)
    {n : Nat}
    (hNe : n ≠ f.number) :
    (x.complete f result).result? n = x.result? n :=
  KeyedList.lookup_filter_of_ne f.number n x.results hNe

/- Who waits after the callback of a fetch. -/
theorem mem_waiting_complete
    {x : Exchange}
    {f : Fetch}
    {result : Except CacheError DiscoveryDocument}
    {w : Nat × Nat} :
    w ∈ (x.complete f result).waiting ↔
      w ∈ x.waiting ∧ w.2 ≠ f.number := by
  simp [complete, List.partition_eq_filter_filter]

/- The outcomes after the callback of a fetch. -/
theorem mem_outcomes_complete
    {x : Exchange}
    {f : Fetch}
    {result : Except CacheError DiscoveryDocument}
    {w : Nat × Outcome} :
    w ∈ (x.complete f result).outcomes ↔
      (w.1, f.number) ∈ x.waiting ∧ w.2 = ⟨some f.number, result⟩ ∨
        w ∈ x.outcomes := by
  rcases w with ⟨caller, outcome⟩
  simp only [complete, List.partition_eq_filter_filter,
    List.mem_append, List.mem_map, List.mem_filter]
  constructor
  · rintro (⟨⟨c, n⟩, ⟨hWaits, hNumber⟩, hEq⟩ | hOld)
    · have hn : n = f.number := by
        simpa using hNumber
      subst hn
      cases hEq
      exact Or.inl ⟨hWaits, rfl⟩
    · exact Or.inr hOld
  · rintro (⟨hWaits, hEq⟩ | hOld)
    · exact Or.inl ⟨_, ⟨hWaits, by simp⟩, by rw [hEq]⟩
    · exact Or.inr hOld

/- The callback of a fetch is called when it has its result. -/
def finish
    (x : Exchange)
    (n : Nat) : Exchange :=
  match x.running.find? fun f => f.number == n with
  | none => x
  | some f =>
      match x.result? n with
      | some result => x.complete f result
      | none => x

------------------------------------------------------------
-- Runs
------------------------------------------------------------

/- Put a new state of the cache in place, unless there is an error. -/
def change
    (x : Exchange)
    (r : Except CacheError DiscoveryCache) :
    Exchange × Option CacheError :=
  match r with
  | .ok cache => ({ x with cache := cache }, none)
  | .error e => (x, some e)

/- What an event does, and the error if it is refused. -/
def step (x : Exchange) : Event → Exchange × Option CacheError
  | .get caller authority => (x.get caller authority, none)
  | .leave caller d => (x.leave caller d, none)
  | .answer n reply => (x.answer n reply, none)
  | .finish n => (x.finish n, none)
  | .configure authority d => x.change (x.cache.configure authority d)
  | .invalidate authority => x.change (x.cache.invalidate authority)
  | .clear => ({ x with cache := x.cache.clear }, none)
  | .setClock now => ({ x with now := now }, none)

/- An exchange in which nothing has happened yet. -/
def start
    (settings : DiscoverySettings)
    (now : Moment) : Exchange :=
  { cache := { settings := settings }, now := now }

/- What events do one after the other. -/
def run
    (x : Exchange)
    (events : List Event) : Exchange :=
  events.foldl (fun x e => (x.step e).1) x

/- The first of several events happens first. -/
theorem run_cons
    (x : Exchange)
    (e : Event)
    (es : List Event) :
    x.run (e :: es) = (x.step e).1.run es :=
  rfl

/- Events in two parts happen one part after the other. -/
theorem run_append
    (x : Exchange)
    (es fs : List Event) :
    x.run (es ++ fs) = (x.run es).run fs := by
  simp [run]

/- The last of several events happens last. -/
theorem run_concat
    (x : Exchange)
    (es : List Event)
    (e : Event) :
    x.run (es ++ [e]) = ((x.run es).step e).1 := by
  rw [run_append, run_cons]
  rfl

/- What follows an event happens after the run up to it. -/
theorem run_append_cons
    (x : Exchange)
    (es : List Event)
    (e : Event)
    (fs : List Event) :
    x.run (es ++ e :: fs) = (x.run (es ++ [e])).run fs := by
  rw [List.append_cons, run_append]

end Exchange

end KeyAssertion
