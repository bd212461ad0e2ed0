import Mathlib.Data.List.Induction
import KeyAssertion.Token.Issuance

/-
  What an event changes of the service.  To the cache a call is
  its lookup and nothing more; an event is about one call at
  most and leaves all others.

  Key definitions include:
    * `Issuance.discovery`
    * `Issuance.Frames`

  Key theorems include:
    * `Issuance.exchange_run`
    * `Issuance.frames_step`
    * `Issuance.run_uncalled`
-/

namespace KeyAssertion

namespace Issuance

------------------------------------------------------------
-- The Cache
------------------------------------------------------------

/- The event of the cache that an event is or causes. -/
def Event.discovery? : Event → Option Exchange.Event
  | .discovery e => some e
  | .call caller c => some (.get caller c.authority)
  | _ => none

/- The events of the cache in a run. -/
def discovery (events : List Event) : List Exchange.Event :=
  events.filterMap Event.discovery?

/- Those of a run in two parts. -/
theorem discovery_append (es fs : List Event) :
    discovery (es ++ fs) = discovery es ++ discovery fs :=
  List.filterMap_append

/- A stage that is entered leaves the cache. -/
theorem exchange_advanceFrom
    [KeyLibrary]
    (x : Issuance)
    (caller : Nat)
    (c : AssertionCall)
    (s : CallStage) :
    (x.advanceFrom caller c s).exchange = x.exchange := by
  cases s with
  | discovering =>
      unfold advanceFrom
      cases x.exchange.outcome? caller with
      | none => rfl
      | some o => rfl
  | _ => rfl

/- Where there is no stage to go on from, nothing happens. -/
theorem advance_cases
    [KeyLibrary]
    (x : Issuance)
    (caller : Nat) :
    x.advance caller = x ∨
      ∃ c s, x.advance caller = x.advanceFrom caller c s := by
  unfold advance
  cases x.call? caller with
  | none => exact Or.inl rfl
  | some call => exact Or.inr ⟨call.1, call.2, rfl⟩

/- Where there is no call to give up, neither. -/
theorem abandon_cases
    (x : Issuance)
    (caller : Nat) :
    x.abandon caller = x ∨
      ∃ c, x.abandon caller = x.enter caller c .abandoned := by
  unfold abandon
  cases x.call? caller with
  | none => exact Or.inl rfl
  | some call =>
      rcases call with ⟨c, s⟩
      cases s with
      | ended r => exact Or.inl rfl
      | _ => exact Or.inr ⟨c, rfl⟩

/- An event does to the cache what its event of the cache does. -/
theorem exchange_step
    [KeyLibrary]
    (x : Issuance)
    (e : Event) :
    (x.step e).exchange = x.exchange.run (discovery [e]) := by
  cases e with
  | advance caller =>
      change (x.advance caller).exchange = x.exchange
      rcases x.advance_cases caller with hSame | ⟨c, s, hStep⟩
      · rw [hSame]
      · rw [hStep, exchange_advanceFrom]
  | abandon caller =>
      change (x.abandon caller).exchange = x.exchange
      rcases x.abandon_cases caller with hSame | ⟨c, hStep⟩
      · rw [hSame]
      · rw [hStep]
        rfl
  | _ => rfl

/- So does a run. -/
theorem exchange_run
    [KeyLibrary]
    (x : Issuance)
    (events : List Event) :
    (x.run events).exchange = x.exchange.run (discovery events) := by
  induction events using List.reverseRecOn with
  | nil => rfl
  | append_singleton es e ih =>
      rw [run_concat, exchange_step, ih, discovery_append,
        Exchange.run_append]

------------------------------------------------------------
-- Calls
------------------------------------------------------------

/- The caller whose call an event makes or changes. -/
def Event.subject? : Event → Option Nat
  | .call caller _ => some caller
  | .advance caller => some caller
  | .abandon caller => some caller
  | _ => none

section Step

variable (x : Issuance) (caller : Nat)

/- A call is in the stage that it has entered. -/
theorem call?_enter_self
    (c : AssertionCall)
    (s : CallStage) :
    (x.enter caller c s).call? caller = some (c, s) := by
  simp [call?, enter]

/- Another call is where it was. -/
theorem call?_enter_of_ne
    {other : Nat}
    (hOther : caller ≠ other)
    (c : AssertionCall)
    (s : CallStage) :
    (x.enter other c s).call? caller = x.call? caller := by
  simp [call?, enter, List.lookup_cons, beq_eq_false_iff_ne.mpr hOther]

end Step

/-
  All calls but one are where they were, and the secrets of
  their callers were not resolved; the settings are the same.
-/
structure Frames
    (x y : Issuance)
    (subject : Option Nat) : Prop where
  settings : y.settings = x.settings
  calls :
    ∀ caller,
      subject ≠ some caller → y.call? caller = x.call? caller
  resolved :
    ∀ caller,
      subject ≠ some caller →
        caller ∈ y.resolved → caller ∈ x.resolved

namespace Frames

variable {x : Issuance} {caller : Nat}

/- Nothing that concerns calls has changed. -/
theorem of_same
    {y : Issuance}
    {subject : Option Nat}
    (hSettings : y.settings = x.settings)
    (hCalls : y.calls = x.calls)
    (hResolved : y.resolved = x.resolved) :
    Frames x y subject := by
  refine ⟨hSettings, ?_, ?_⟩
  · intro other _
    rw [call?, call?, hCalls]
  · intro other _ hMem
    rwa [hResolved] at hMem

/- A call enters a stage. -/
theorem of_enter
    (x y : Issuance)
    (hSettings : y.settings = x.settings)
    (hCalls : y.calls = x.calls)
    (hResolved :
      ∀ other, other ∈ y.resolved → other = caller ∨ other ∈ x.resolved)
    (c : AssertionCall)
    (s : CallStage) :
    Frames x (y.enter caller c s) (some caller) := by
  refine ⟨hSettings, ?_, ?_⟩
  · intro other hOther
    have hNe : other ≠ caller := by
      intro hSame
      exact hOther (congrArg some hSame.symm)
    rw [call?_enter_of_ne y other hNe, call?, call?, hCalls]
  · intro other hOther hMem
    rcases hResolved other hMem with rfl | hOld
    · exact absurd rfl hOther
    · exact hOld

end Frames

variable [KeyLibrary]

/- A call that goes on leaves the others. -/
theorem frames_advanceFrom
    (x : Issuance)
    (caller : Nat)
    (c : AssertionCall)
    (s : CallStage) :
    Frames x (x.advanceFrom caller c s) (some caller) := by
  cases s with
  | discovering =>
      unfold advanceFrom
      cases x.exchange.outcome? caller with
      | none => exact Frames.of_same rfl rfl rfl
      | some o =>
          exact Frames.of_enter x x rfl rfl (fun _ => Or.inr) _ _
  | resolving d =>
      exact Frames.of_enter x
        { x with resolved := caller :: x.resolved } rfl rfl
        (fun _ => List.mem_cons.mp) _ _
  | signing d key =>
      exact Frames.of_enter x { x with source := (x.sign c d key).2 }
        rfl rfl (fun _ => Or.inr) _ _
  | ended r => exact Frames.of_same rfl rfl rfl
  | abandoned => exact Frames.of_same rfl rfl rfl

/- An event leaves all calls but the one that it is about. -/
theorem frames_step
    (x : Issuance)
    (e : Event) :
    Frames x (x.step e) e.subject? := by
  cases e with
  | discovery e => exact Frames.of_same rfl rfl rfl
  | setStore store => exact Frames.of_same rfl rfl rfl
  | draw => exact Frames.of_same rfl rfl rfl
  | call caller c =>
      let exchange :=
        (x.exchange.step (.get caller c.authority)).1
      exact Frames.of_enter x { x with exchange := exchange } rfl rfl
        (fun _ => Or.inr) _ _
  | advance caller =>
      change Frames x (x.advance caller) (some caller)
      rcases x.advance_cases caller with hSame | ⟨c, s, hStep⟩
      · rw [hSame]
        exact Frames.of_same rfl rfl rfl
      · rw [hStep]
        exact x.frames_advanceFrom caller c s
  | abandon caller =>
      change Frames x (x.abandon caller) (some caller)
      rcases x.abandon_cases caller with hSame | ⟨c, hStep⟩
      · rw [hSame]
        exact Frames.of_same rfl rfl rfl
      · rw [hStep]
        exact Frames.of_enter x x rfl rfl (fun _ => Or.inr) _ _

/- No run changes the settings. -/
theorem settings_run
    (x : Issuance)
    (events : List Event) :
    (x.run events).settings = x.settings := by
  induction events using List.reverseRecOn with
  | nil => rfl
  | append_singleton es e ih =>
      rw [run_concat, (frames_step _ e).settings, ih]

/- A call that has been made goes on from its stage. -/
theorem step_advance
    {x : Issuance}
    {caller : Nat}
    {c : AssertionCall}
    {s : CallStage}
    (hCall : x.call? caller = some (c, s)) :
    x.step (.advance caller) = x.advanceFrom caller c s := by
  change x.advance caller = _
  unfold advance
  rw [hCall]

/- It is given up unless it has ended. -/
theorem call?_abandon
    {x : Issuance}
    {caller : Nat}
    {c : AssertionCall}
    {s : CallStage}
    (hCall : x.call? caller = some (c, s)) :
    (∃ r, s = .ended r ∧ x.step (.abandon caller) = x) ∨
      (x.step (.abandon caller)).call? caller =
        some (c, .abandoned) := by
  change (∃ r, s = .ended r ∧ x.abandon caller = x) ∨
    (x.abandon caller).call? caller = _
  unfold abandon
  rw [hCall]
  cases s with
  | ended r => exact Or.inl ⟨r, rfl, rfl⟩
  | _ => exact Or.inr (call?_enter_self _ _ _ _)

------------------------------------------------------------
-- Calls That Are Made Once
------------------------------------------------------------

/- A call that was not made neither goes on nor is given up. -/
theorem step_uncalled
    {x : Issuance}
    {caller : Nat}
    (hNone : x.call? caller = none) :
    x.step (.advance caller) = x ∧ x.step (.abandon caller) = x := by
  constructor
  · change x.advance caller = x
    unfold advance
    rw [hNone]
  · change x.abandon caller = x
    unfold abandon
    rw [hNone]

/- Callers without a call have no stage and no secret was resolved. -/
theorem run_uncalled
    {x : Issuance}
    {caller : Nat}
    (hFresh : x.call? caller = none ∧ caller ∉ x.resolved)
    {events : List Event}
    (hNone : ∀ c, .call caller c ∉ events) :
    (x.run events).call? caller = none ∧
      caller ∉ (x.run events).resolved := by
  induction events using List.reverseRecOn with
  | nil => exact hFresh
  | append_singleton es e ih =>
      have hBefore := ih fun c hMem =>
        hNone c (List.mem_append_left [e] hMem)
      rw [run_concat]
      by_cases hSubject : e.subject? = some caller
      · cases e with
        | call other c =>
            cases hSubject
            exact absurd (List.mem_append_right es List.mem_cons_self)
              (hNone c)
        | advance other =>
            cases hSubject
            rw [(step_uncalled hBefore.1).1]
            exact hBefore
        | abandon other =>
            cases hSubject
            rw [(step_uncalled hBefore.1).2]
            exact hBefore
        | _ => cases hSubject
      · have hFrame := (x.run es).frames_step e
        refine ⟨?_, ?_⟩
        · rw [hFrame.calls caller hSubject]
          exact hBefore.1
        · intro hMem
          exact hBefore.2 (hFrame.resolved caller hSubject hMem)

end Issuance

end KeyAssertion
