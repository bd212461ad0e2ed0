import KeyAssertion.Proofs.Discovery.Address
import KeyAssertion.Proofs.Discovery.Entries
import KeyAssertion.Proofs.Discovery.Freshness

/-
  A fetch that fails with an error of discovery is not kept:
  the old entry is gone with the reply, who waits for the fetch
  or calls before its callback is told the error, and the next
  call for the authority starts over.

  Key definitions include:
    * `CacheError.isDiscovery`
    * `Exchange.Idle`
    * `Exchange.Failed`
    * `Exchange.Dropped`

  Key theorems include:
    * `DiscoveryCache.store_error_cases`
    * `Exchange.Idle.run`
    * `Exchange.Idle.called`
    * `Exchange.Failed.move`
    * `Exchange.Failed.run`
    * `Exchange.failure_dropped`
-/

namespace KeyAssertion

/- Whether the error of a fetch is one of discovery. -/
def FetchError.isDiscovery : FetchError → Bool
  | .discovery _ => true
  | _ => false

/-
  Whether an error is one of discovery: a text is refused as an
  authority, or a fetch gives no metadata.  A host whose coding
  cannot be undone is refused by the coding itself.
-/
def CacheError.isDiscovery : CacheError → Bool
  | .authority (.host _) => false
  | .authority _ => true
  | .fetch e => e.isDiscovery
  | _ => false

------------------------------------------------------------
-- Results That Are Errors
------------------------------------------------------------

namespace DiscoveryCache

variable {c : DiscoveryCache} {now : Moment} {key : String}

/- A duration is known for authorities only. -/
theorem normalize_of_durationOf
    {authority : Option String}
    {d : Duration}
    (h : c.durationOf authority = .ok d) :
    ∃ key, Authority.normalize authority = .ok key := by
  rcases (Attempt.bind_eq_ok_iff _ _ _).mp h with ⟨key, hKey, _⟩
  exact ⟨key, (Attempt.mapError_eq_ok_iff _ _ _).mp hKey⟩

/- A duration is not known for what is no authority or too long. -/
theorem durationOf_error_cases
    {authority : Option String}
    {e : CacheError}
    (h : c.durationOf authority = .error e) :
    (∃ fault,
      Authority.normalize authority = .error fault ∧
        e = .authority fault) ∨
    ∃ date, e = .date date := by
  rcases (Attempt.bind_eq_error_iff _ _ _).mp h with
    hFault | ⟨key, _, hLength⟩
  · rcases (Attempt.mapError_eq_error_iff _ _ _).mp hFault with
      ⟨fault, hKey, rfl⟩
    exact Or.inl ⟨fault, hKey, rfl⟩
  · split at hLength
    · cases hLength
    · rcases (Attempt.mapError_eq_error_iff _ _ _).mp hLength with
        ⟨date, _, rfl⟩
      exact Or.inr ⟨date, rfl⟩

/- Metadata is not dated without a duration or out of range. -/
theorem document_error_cases
    {m : DiscoveryMetadata}
    {e : CacheError}
    (h : c.document now key m = .error e) :
    (∃ fault,
      Authority.normalize (some key) = .error fault ∧
        e = .authority fault) ∨
    ∃ date, e = .date date := by
  rcases (Attempt.bind_eq_error_iff _ _ _).mp h with
    hDuration | ⟨d, _, hRest⟩
  · exact durationOf_error_cases hDuration
  · rcases (Attempt.bind_eq_error_iff _ _ _).mp hRest with
      hEnd | ⟨_, _, hNone⟩
    · rcases (Attempt.mapError_eq_error_iff _ _ _).mp hEnd with
        ⟨date, _, rfl⟩
      exact Or.inr ⟨date, rfl⟩
    · cases hNone

/- An error of discovery drops the entry of its key. -/
theorem fail_of_isDiscovery
    {e : FetchError}
    (h : e.isDiscovery = true) :
    c.fail key e =
      { c with entries := KeyedList.drop key c.entries } := by
  cases e with
  | discovery _ => rfl
  | _ => cases h

/- Any other error leaves all as it is. -/
theorem fail_of_not_isDiscovery
    {e : FetchError}
    (h : e.isDiscovery = false) :
    c.fail key e = c := by
  cases e with
  | discovery _ => cases h
  | _ => rfl

/-
  A fetch without a document had no metadata, and then drops
  the entry if the error is one of discovery, or had metadata
  that could not be dated, which leaves the entry.
-/
theorem store_error_cases
    {n : Nat}
    {result : Except FetchError DiscoveryMetadata}
    {e : CacheError}
    (h : (c.store now key n result).2 = .error e) :
    (∃ error,
      result = .error error ∧ e = .fetch error ∧
        (c.store now key n result).1.entries =
          (c.fail key error).entries) ∨
    ∃ m,
      result = .ok m ∧ c.document now key m = .error e ∧
        (c.store now key n result).1.entries = c.entries := by
  cases result with
  | error error =>
      cases h
      exact Or.inl ⟨error, rfl, rfl, rfl⟩
  | ok m =>
      cases hDocument : c.document now key m with
      | error e' =>
          have hStore : c.store now key n (.ok m) = (c, .error e') := by
            simp [store, hDocument]
          rw [hStore] at h ⊢
          cases h
          exact Or.inr ⟨m, rfl, hDocument, rfl⟩
      | ok d =>
          simp only [store, hDocument] at h
          cases h

end DiscoveryCache

namespace Exchange

variable {x y : Exchange} {e : Event}
variable {f : Fetch} {reply : HttpReply}

------------------------------------------------------------
-- Keys with Nothing at Hand
------------------------------------------------------------

/- A key has no entry and no fetch for it is under way. -/
structure Idle
    (x : Exchange)
    (key : String) : Prop where
  noEntry : x.cache.entries.lookup key = none
  notListed : x.cache.inFlight.lookup key = none

variable {key : String}

/- An entry was there before or is put by the reply to a fetch. -/
theorem Move.lookup_entries_cases
    (hMove : Move x e y)
    {entry : CachedDocument}
    (hThere : y.cache.entries.lookup key = some entry) :
    x.cache.entries.lookup key = some entry ∨
      ∃ f reply,
        x.Pending f ∧ f.authority = key ∧
          y = x.conclude f reply := by
  rcases hMove.entries_cases with
    hSame | ⟨f, reply, hPending, _, rfl⟩ | ⟨_, other, _, _, hDrop⟩ |
      ⟨_, hEmpty⟩
  · rw [hSame] at hThere
    exact Or.inl hThere
  · by_cases hKey : f.authority = key
    · exact Or.inr ⟨f, reply, hPending, hKey, rfl⟩
    · rw [lookup_entries_conclude_of_ne x reply (Ne.symm hKey)]
        at hThere
      exact Or.inl hThere
  · rw [hDrop] at hThere
    by_cases hKey : key = other
    · rw [hKey, KeyedList.lookup_drop_self] at hThere
      cases hThere
    · rw [KeyedList.lookup_drop_of_ne other key _ hKey] at hThere
      exact Or.inl hThere
  · rw [hEmpty] at hThere
    cases hThere

/- A key with no fetch under way has none until a call starts one. -/
theorem Move.notListed_or_started
    (hMove : Move x e y)
    (hConsistent : x.Consistent)
    (hFree : x.cache.inFlight.lookup key = none) :
    y.cache.inFlight.lookup key = none ∨
      ∃ caller authority,
        e = .get caller authority ∧
          Authority.normalize authority = .ok key ∧
          y = (x.launch (x.cache.start key) key
            x.cache.nextFetch).wait caller x.cache.nextFetch := by
  rcases hMove.fetches_cases with
    hSame | ⟨caller, authority, other, rfl, hKey, _, _, rfl⟩ |
      ⟨_, _, _, _, rfl⟩ | ⟨f, result, hLanded, _, rfl⟩
  · rw [hSame.inFlight]
    exact Or.inl hFree
  · by_cases hOther : key = other
    · subst hOther
      exact Or.inr ⟨caller, authority, rfl, hKey, rfl⟩
    · left
      exact
        (KeyedList.lookup_put_of_ne other key _ _ hOther).trans hFree
  · left
    rw [inFlight_conclude]
    exact hFree
  · left
    rw [hConsistent.lookup_inFlight_complete hLanded.1]
    split
    · rfl
    · exact hFree

/- A call for another key, and any other event, changes nothing. -/
theorem Idle.move
    (h : x.Idle key)
    (hConsistent : x.Consistent)
    (hMove : Move x e y)
    (hUncalled : ¬ Called [e] key) :
    y.Idle key := by
  have hOver := (hConsistent.free_iff key).mp h.notListed
  constructor
  · cases hThere : y.cache.entries.lookup key with
    | none => rfl
    | some entry =>
        rcases hMove.lookup_entries_cases hThere with
          hOld | ⟨f, _, hPending, hKey, _⟩
        · rw [h.noEntry] at hOld
          cases hOld
        · exact absurd hKey (hOver f hPending.1)
  · rcases hMove.notListed_or_started hConsistent h.notListed with
      hStill | ⟨caller, authority, rfl, hKey, _⟩
    · exact hStill
    · exact absurd ⟨caller, authority, by simp, hKey⟩ hUncalled

/- A key with nothing at hand stays so until it is called for. -/
theorem Idle.run
    (h : x.Idle key)
    (hConsistent : x.Consistent)
    {later : List Event}
    (hUncalled : ¬ Called later key) :
    (x.run later).Idle key := by
  revert hUncalled
  refine run_induction
    (P := fun es y => ¬ Called es key → y.Idle key)
    ?_ ?_ later
  · intro _
    exact h
  · intro es e y ih hMove hUncalled
    have hEarlier : ¬ Called es key := by
      intro hCalled
      exact hUncalled (hCalled.append [e])
    have hLast : ¬ Called [e] key := by
      rintro ⟨caller, authority, hMem, hKey⟩
      exact hUncalled
        ⟨caller, authority, List.mem_append_right es hMem, hKey⟩
    exact (ih hEarlier).move (hConsistent.run es) hMove hLast

/- The call for it starts a fetch and sends its request. -/
theorem Idle.called
    (h : x.Idle key)
    {authority : Option String}
    (hKey : Authority.normalize authority = .ok key)
    (caller : Nat) :
    (x.step (.get caller authority)).1 =
      (x.launch (x.cache.start key) key x.cache.nextFetch).wait
        caller x.cache.nextFetch := by
  have hNoEntry :=
    DiscoveryCache.fresh?_eq_none_of_lookup h.noEntry x.now
  exact get_of_free hKey hNoEntry h.notListed caller

------------------------------------------------------------
-- Until the Callback
------------------------------------------------------------

/- A fetch has landed with an error and there is no entry for its key. -/
structure Failed
    (x : Exchange)
    (f : Fetch)
    (error : CacheError) : Prop where
  landed : x.Landed f (.error error)
  noEntry : x.cache.entries.lookup f.authority = none

variable {error : CacheError}

/- It stays so until the callback of the fetch. -/
theorem Failed.move
    (h : x.Failed f error)
    (hConsistent : x.Consistent)
    (hMove : Move x e y)
    (hOpen : e ≠ .finish f.number) :
    y.Failed f error := by
  rcases h.landed.move hConsistent hMove with hStill | ⟨hOver, _⟩
  · refine ⟨hStill, ?_⟩
    cases hThere : y.cache.entries.lookup f.authority with
    | none => rfl
    | some entry =>
        rcases hMove.lookup_entries_cases hThere with
          hOld | ⟨g, _, hPending, hKey, _⟩
        · rw [h.noEntry] at hOld
          cases hOld
        · -- No other fetch for the key is under way.
          have hSame :=
            hConsistent.eq_of_authority_eq hPending.1 h.landed.1 hKey
          subst hSame
          have hResult := hPending.2.symm.trans h.landed.2
          cases hResult
  · exact absurd hOver hOpen

/- It stays so in every run without this callback. -/
theorem Failed.run
    (h : x.Failed f error)
    (hConsistent : x.Consistent)
    {later : List Event}
    (hOpen : .finish f.number ∉ later) :
    (x.run later).Failed f error := by
  revert hOpen
  refine run_induction
    (P := fun es y => .finish f.number ∉ es → y.Failed f error)
    ?_ ?_ later
  · intro _
    exact h
  · intro es e y ih hMove hOpen
    have hEarlier := ih fun hMem =>
      hOpen (List.mem_append_left [e] hMem)
    refine hEarlier.move (hConsistent.run es) hMove ?_
    rintro rfl
    exact hOpen (by simp)

/- A call for the key is told the error at once. -/
theorem Failed.called
    (h : x.Failed f error)
    (hConsistent : x.Consistent)
    {authority : Option String}
    (hKey : Authority.normalize authority = .ok f.authority)
    (caller : Nat) :
    (x.step (.get caller authority)).1 =
      x.settle caller ⟨some f.number, .error error⟩ := by
  have hNoEntry :=
    DiscoveryCache.fresh?_eq_none_of_lookup h.noEntry x.now
  have hListed := hConsistent.listed f h.landed.1
  exact get_of_landed hKey hNoEntry hListed h.landed.2 caller

/- With the callback nothing is left at hand. -/
theorem Failed.idle
    (h : x.Failed f error)
    (hConsistent : x.Consistent) :
    (x.complete f (.error error)).Idle f.authority := by
  constructor
  · rw [entries_complete]
    exact h.noEntry
  · rw [hConsistent.lookup_inFlight_complete h.landed.1, if_pos rfl]

------------------------------------------------------------
-- Fetches That Fail
------------------------------------------------------------

section Start

variable {settings : DiscoverySettings} {now : Moment}
variable {events : List Event}

/- A fetch that fails with an error of discovery leaves no entry. -/
theorem lookup_conclude_of_isDiscovery
    (hResult :
      ((start settings now).run events).resultOf f reply =
        .error error)
    (hDiscovery : error.isDiscovery = true) :
    (((start settings now).run events).conclude f
      reply).cache.entries.lookup f.authority = none := by
  change
    (DiscoveryCache.store _ _ _ _ _).1.entries.lookup _ = none
  rcases DiscoveryCache.store_error_cases hResult with
    ⟨cause, _, rfl, hEntries⟩ | ⟨m, _, hDocument, hEntries⟩
  · rw [hEntries, DiscoveryCache.fail_of_isDiscovery hDiscovery]
    exact KeyedList.lookup_drop_self _ _
  · rw [hEntries]
    rcases DiscoveryCache.document_error_cases hDocument with
      ⟨fault, hFault, _⟩ | ⟨_, rfl⟩
    · -- No document of what is no authority was ever dated.
      cases hLookup :
          ((start settings now).run events).cache.entries.lookup
            f.authority with
      | none => rfl
      | some entry =>
          rcases entry_obtained (KeyedList.mem_of_lookup hLookup) with
            ⟨_, _, _, _, _, _, _, _, hObtained⟩
          rcases DiscoveryCache.normalize_of_durationOf
              hObtained.kept with
            ⟨key, hKey⟩
          rw [hFault] at hKey
          cases hKey
    · cases hDiscovery

end Start

end Exchange

end KeyAssertion
