import KeyAssertion.Attempt
import KeyAssertion.Clock.Moment
import KeyAssertion.Discovery.Fetch
import KeyAssertion.KeyedList
import KeyAssertion.Settings.Discovery

/-
  This file defines the cache of discovery documents.  A lookup
  is served from the cache, joins a fetch that is listed as
  under way or starts one; the result of a fetch stores a
  document or drops the old one, and later the fetch is taken
  off the list.

  Key definitions include:
    * `DiscoveryDocument`
    * `DiscoveryCache`
    * `CacheError`
    * `DiscoveryCache.durationOf`
    * `DiscoveryCache.lookup`
    * `DiscoveryCache.store`
    * `DiscoveryCache.release`

  Lemmas on the end of a fetch include:
    * `DiscoveryCache.store_cases`
    * `DiscoveryCache.store_eq_ok_iff`
    * `DiscoveryCache.mem_entries_store`
    * `DiscoveryCache.lookup_inFlight_release`
-/

namespace KeyAssertion

/- The metadata of an authority with the time in which it is served. -/
structure DiscoveryDocument where
  authority : String
  metadata : DiscoveryMetadata
  fetchedAt : Moment
  expiresAt : Moment
deriving DecidableEq

/- Whether a document may be served. -/
def DiscoveryDocument.isFresh
    (d : DiscoveryDocument)
    (now : Moment) : Bool :=
  now < d.expiresAt

/- A document and the number of the fetch that brought it. -/
structure CachedDocument where
  fetch : Nat
  document : DiscoveryDocument
deriving DecidableEq

/-
  The state of the cache.  Durations, entries and fetches under
  way are kept by the normal form of the authority; fetches are
  numbered in the order in which they start.
-/
structure DiscoveryCache where
  settings : DiscoverySettings := {}
  durations : KeyedList Duration := []
  entries : KeyedList CachedDocument := []
  inFlight : KeyedList Nat := []
  nextFetch : Nat := 0

/- Why the cache gives no document or refuses a call. -/
inductive CacheError
  | authority (fault : Authority.Fault)
  | fetch (error : FetchError)
  | date (error : DateError)
  | negativeDuration
  | timedOut
  | cancelled
deriving DecidableEq, Repr

/- The wording of an error. -/
def CacheError.message : CacheError → String
  | .authority fault => fault.message
  | .fetch e => e.message
  | .date e => e.message
  | .negativeDuration => "Cache duration must not be negative"
  | .timedOut => ""
  | .cancelled => ""

namespace DiscoveryCache

------------------------------------------------------------
-- Durations
------------------------------------------------------------

/- How long the documents of an authority are kept. -/
def durationOf
    (c : DiscoveryCache)
    (authority : Option String) : Except CacheError Duration := do
  let key ← (Authority.normalize authority).mapError .authority
  match c.durations.lookup key with
  | some d => return d
  | none =>
      (Duration.ofSeconds (c.settings.durationFor key)).mapError .date

/- Set how long the documents of an authority are kept. -/
def configure
    (c : DiscoveryCache)
    (authority : Option String)
    (d : Duration) : Except CacheError DiscoveryCache := do
  if d.micros < 0 then
    throw .negativeDuration
  let key ← (Authority.normalize authority).mapError .authority
  return { c with durations := KeyedList.put key d c.durations }

------------------------------------------------------------
-- Entries
------------------------------------------------------------

/- Forget the document of an authority. -/
def invalidate
    (c : DiscoveryCache)
    (authority : Option String) : Except CacheError DiscoveryCache := do
  let key ← (Authority.normalize authority).mapError .authority
  return { c with entries := KeyedList.drop key c.entries }

/- Forget all documents. -/
def clear (c : DiscoveryCache) : DiscoveryCache :=
  { c with entries := [] }

/- The document that may be served for an authority in normal form. -/
def fresh?
    (c : DiscoveryCache)
    (now : Moment)
    (key : String) : Option CachedDocument :=
  (c.entries.lookup key).filter fun e => e.document.isFresh now

/- What is served is an entry before its end. -/
theorem fresh?_eq_some_iff
    (c : DiscoveryCache)
    (now : Moment)
    (key : String)
    (e : CachedDocument) :
    c.fresh? now key = some e ↔
      c.entries.lookup key = some e ∧
        now < e.document.expiresAt := by
  simp [fresh?, Option.filter_eq_some_iff,
    DiscoveryDocument.isFresh]

/- Nothing is served if there is no entry or it is at its end. -/
theorem fresh?_eq_none_iff
    (c : DiscoveryCache)
    (now : Moment)
    (key : String) :
    c.fresh? now key = none ↔
      ∀ e, c.entries.lookup key = some e →
        ¬ now < e.document.expiresAt := by
  simp [fresh?, Option.filter_eq_none_iff,
    DiscoveryDocument.isFresh]

/- Nothing is served where there is no entry. -/
theorem fresh?_eq_none_of_lookup
    {c : DiscoveryCache}
    {key : String}
    (hNone : c.entries.lookup key = none)
    (now : Moment) :
    c.fresh? now key = none := by
  simp [fresh?, hNone]

------------------------------------------------------------
-- Fetches
------------------------------------------------------------

/- What a lookup comes to; fetches are told by their numbers. -/
inductive Lookup
  | hit (entry : CachedDocument)
  | joined (fetch : Nat)
  | started (fetch : Nat)
deriving DecidableEq

/- Start the fetch of an authority in normal form. -/
def start
    (c : DiscoveryCache)
    (key : String) : DiscoveryCache :=
  { c with
    inFlight := KeyedList.put key c.nextFetch c.inFlight
    nextFetch := c.nextFetch + 1 }

/- Look up an authority in normal form; start a fetch if need be. -/
def lookup
    (c : DiscoveryCache)
    (now : Moment)
    (key : String) : DiscoveryCache × Lookup :=
  match c.fresh? now key with
  | some entry => (c, .hit entry)
  | none =>
      match c.inFlight.lookup key with
      | some n => (c, .joined n)
      | none => (c.start key, .started c.nextFetch)

/- The document of metadata that has just been fetched. -/
def document
    (c : DiscoveryCache)
    (now : Moment)
    (key : String)
    (m : DiscoveryMetadata) : Except CacheError DiscoveryDocument := do
  let d ← c.durationOf (some key)
  let expiresAt ← (now.add d).mapError .date
  return ⟨key, m, now, expiresAt⟩

/- What a fetch that gives no metadata leaves of the entries. -/
def fail
    (c : DiscoveryCache)
    (key : String)
    (e : FetchError) : DiscoveryCache :=
  match e with
  | .discovery _ => { c with entries := KeyedList.drop key c.entries }
  | _ => c

/-
  Take the result of a fetch.  A document is stored; after an
  error of discovery the old one is dropped; any other error
  leaves it.
-/
def store
    (c : DiscoveryCache)
    (now : Moment)
    (key : String)
    (n : Nat)
    (result : Except FetchError DiscoveryMetadata) :
    DiscoveryCache × Except CacheError DiscoveryDocument :=
  match result with
  | .error e => (c.fail key e, .error (.fetch e))
  | .ok m =>
      match c.document now key m with
      | .error e => (c, .error e)
      | .ok d =>
          ({ c with entries := KeyedList.put key ⟨n, d⟩ c.entries }, .ok d)

/- Take a fetch off the list, unless another one is in its place. -/
def release
    (c : DiscoveryCache)
    (key : String)
    (n : Nat) : DiscoveryCache :=
  if c.inFlight.lookup key = some n then
    { c with inFlight := KeyedList.drop key c.inFlight }
  else
    c

------------------------------------------------------------
-- The Result of a Fetch
------------------------------------------------------------

section Store

variable (c : DiscoveryCache) (now : Moment) (key : String) (n : Nat)
variable (result : Except FetchError DiscoveryMetadata)

/-
  The result of a fetch touches the entries only: a document is
  put, and an error leaves all or drops the one of the key.
-/
theorem store_cases :
    (∃ d, (c.store now key n result).2 = .ok d ∧
      (c.store now key n result).1 =
        { c with entries := KeyedList.put key ⟨n, d⟩ c.entries }) ∨
    (∃ e, (c.store now key n result).2 = .error e ∧
      ((c.store now key n result).1 = c ∨
        (c.store now key n result).1 =
          { c with entries := KeyedList.drop key c.entries })) := by
  cases result with
  | error e =>
      right
      refine ⟨.fetch e, rfl, ?_⟩
      cases e with
      | discovery _ => exact Or.inr rfl
      | url _ => exact Or.inl rfl
      | tooDeep => exact Or.inl rfl
      | transport _ _ => exact Or.inl rfl
  | ok m =>
      unfold store
      cases hDocument : c.document now key m with
      | error e => exact Or.inr ⟨e, by simp [hDocument]⟩
      | ok d => exact Or.inl ⟨d, by simp [hDocument]⟩

/- All but the entries is as it was. -/
theorem store_fst :
    (c.store now key n result).1 =
      { c with entries := (c.store now key n result).1.entries } := by
  rcases c.store_cases now key n result with
    ⟨_, _, hStore⟩ | ⟨_, _, hStore | hStore⟩ <;>
  rw [hStore]

/- The result of a fetch changes no number to come. -/
@[simp] theorem nextFetch_store :
    (c.store now key n result).1.nextFetch = c.nextFetch := by
  rw [store_fst]

/- It changes no duration. -/
@[simp] theorem durations_store :
    (c.store now key n result).1.durations = c.durations := by
  rw [store_fst]

/- It changes no setting. -/
@[simp] theorem settings_store :
    (c.store now key n result).1.settings = c.settings := by
  rw [store_fst]

/- The fetch itself stays listed. -/
@[simp] theorem inFlight_store :
    (c.store now key n result).1.inFlight = c.inFlight := by
  rw [store_fst]

/- An entry after a fetch is an old one or the document fetched. -/
theorem mem_entries_store
    {p : String × CachedDocument}
    (hMem : p ∈ (c.store now key n result).1.entries) :
    (∃ d, (c.store now key n result).2 = .ok d ∧
      p = (key, ⟨n, d⟩)) ∨
    p ∈ c.entries := by
  rcases c.store_cases now key n result with
    ⟨d, hOutcome, hStore⟩ | ⟨_, _, hStore | hStore⟩
  · rw [hStore] at hMem
    rcases (KeyedList.mem_put_iff _ _ _ _).mp hMem with
      hNew | ⟨hOld, _⟩
    · exact Or.inl ⟨d, hOutcome, hNew⟩
    · exact Or.inr hOld
  · rw [hStore] at hMem
    exact Or.inr hMem
  · rw [hStore] at hMem
    exact Or.inr ((KeyedList.mem_drop_iff _ _ _).mp hMem).1

/- A fetch changes the entry of its own authority only. -/
theorem lookup_entries_store_of_ne
    (other : String)
    (hNe : other ≠ key) :
    (c.store now key n result).1.entries.lookup other =
      c.entries.lookup other := by
  rcases c.store_cases now key n result with
    ⟨_, _, hStore⟩ | ⟨_, _, hStore | hStore⟩
  · rw [hStore]
    exact KeyedList.lookup_put_of_ne key other _ _ hNe
  · rw [hStore]
  · rw [hStore]
    exact KeyedList.lookup_drop_of_ne key other _ hNe

/- A document that a fetch ends with is stored. -/
theorem lookup_entries_store_of_ok
    {d : DiscoveryDocument}
    (hOutcome : (c.store now key n result).2 = .ok d) :
    (c.store now key n result).1.entries.lookup key =
      some ⟨n, d⟩ := by
  rcases c.store_cases now key n result with
    ⟨d', hOk, hStore⟩ | ⟨_, hError, _⟩
  · have hSame : d' = d := by
      rw [hOk] at hOutcome
      exact Except.ok.inj hOutcome
    rw [hStore, hSame]
    exact KeyedList.lookup_put_self key _ _
  · rw [hError] at hOutcome
    cases hOutcome

/- A fetch ends with the dated document of the metadata it gave. -/
theorem store_eq_ok_iff
    (d : DiscoveryDocument) :
    (c.store now key n result).2 = .ok d ↔
      ∃ m, result = .ok m ∧ c.document now key m = .ok d := by
  cases result with
  | error e => simp [store]
  | ok m =>
      unfold store
      cases hDocument : c.document now key m with
      | error e => simp [hDocument]
      | ok d' => simp [hDocument]

end Store

------------------------------------------------------------
-- Fetches Off the List
------------------------------------------------------------

section Release

variable (c : DiscoveryCache) (key : String) (n : Nat)

/- To take a fetch off the list changes no entry. -/
@[simp] theorem entries_release :
    (c.release key n).entries = c.entries := by
  unfold release
  split <;> rfl

/- It changes no number to come. -/
@[simp] theorem nextFetch_release :
    (c.release key n).nextFetch = c.nextFetch := by
  unfold release
  split <;> rfl

/- It changes no duration. -/
@[simp] theorem durations_release :
    (c.release key n).durations = c.durations := by
  unfold release
  split <;> rfl

/- It changes no setting. -/
@[simp] theorem settings_release :
    (c.release key n).settings = c.settings := by
  unfold release
  split <;> rfl

/- What is under way for a key without a fetch that was listed. -/
theorem lookup_inFlight_release
    (hListed : c.inFlight.lookup key = some n)
    (other : String) :
    (c.release key n).inFlight.lookup other =
      if other = key then none else c.inFlight.lookup other := by
  unfold release
  rw [if_pos hListed]
  split
  · next hEq =>
      rw [hEq]
      exact KeyedList.lookup_drop_self _ _
  · next hNe =>
      exact KeyedList.lookup_drop_of_ne key other _ hNe

end Release

------------------------------------------------------------
-- Dates
------------------------------------------------------------

/- A document carries its moment and ends its duration later. -/
theorem document_eq_ok_iff
    (c : DiscoveryCache)
    (now : Moment)
    (key : String)
    (m : DiscoveryMetadata)
    (d : DiscoveryDocument) :
    c.document now key m = .ok d ↔
      d.authority = key ∧ d.metadata = m ∧ d.fetchedAt = now ∧
        ∃ duration,
          c.durationOf (some key) = .ok duration ∧
            now.add duration = .ok d.expiresAt := by
  unfold document
  rw [Attempt.bind_eq_ok_iff]
  constructor
  · rintro ⟨duration, hDuration, hRest⟩
    rcases (Attempt.bind_eq_ok_iff _ _ _).mp hRest with
      ⟨expiresAt, hEnd, hDocument⟩
    have hAdd := (Attempt.mapError_eq_ok_iff _ _ _).mp hEnd
    cases hDocument
    exact ⟨rfl, rfl, rfl, duration, hDuration, hAdd⟩
  · rintro ⟨rfl, rfl, rfl, duration, hDuration, hAdd⟩
    refine ⟨duration, hDuration, ?_⟩
    rw [Attempt.bind_eq_ok_iff]
    refine ⟨d.expiresAt, ?_, rfl⟩
    exact (Attempt.mapError_eq_ok_iff _ _ _).mpr hAdd

end DiscoveryCache

end KeyAssertion
