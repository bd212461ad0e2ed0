import KeyAssertion.Proofs.Token.Calls
import KeyAssertion.Proofs.Token.Claims

/-
  What a call of the service has behind it at its stage, and how
  it comes to its end.  Its result is the error of the first
  stage that fails or what the last stage gives.

  Key definitions include:
    * `Issuance.Composed`
    * `Issuance.Passed`
    * `Issuance.remaining`

  Key theorems include:
    * `Issuance.Passed.later`
    * `Issuance.Passed.advance`
    * `Issuance.Composed.audience`
    * `Issuance.advance_undisturbed`
    * `Issuance.step_remaining`
-/

namespace KeyAssertion

namespace Issuance

------------------------------------------------------------
-- Stages
------------------------------------------------------------

/- The call of the cache for a caller has come to a result. -/
def Gives
    (x : Issuance)
    (caller : Nat)
    (result : Except CacheError DiscoveryDocument) : Prop :=
  ∃ fetch, x.exchange.outcome? caller = some ⟨fetch, result⟩

/-
  A result is what the stages of a call come to, one after the
  other, in a run after the call.  The secret is resolved when
  the cache has given a document, and an assertion is signed
  when the secret is resolved.
-/
inductive Composed
    [KeyLibrary]
    (x : Issuance)
    (caller : Nat)
    (c : AssertionCall)
    (after : List Event) :
    Except ServiceError ClientAssertion → Prop
  | undiscovered
      {e : CacheError}
      (hGet : (x.run after).Gives caller (.error e))
      (hUnresolved : caller ∉ (x.run after).resolved) :
      Composed x caller c after (.error (.cache e))
  | unresolved
      {d : DiscoveryDocument} {e : SecretError}
      {first second : List Event}
      (hAfter : after = first ++ second)
      (hGet : (x.run first).Gives caller (.ok d))
      (hSecret : (x.run first).resolve c = .error e) :
      Composed x caller c after (.error (.secret e))
  | signed
      {d : DiscoveryDocument} {key : KeyMaterial}
      {first second third : List Event}
      (hAfter : after = first ++ second ++ third)
      (hGet : (x.run first).Gives caller (.ok d))
      (hSecret : (x.run first).resolve c = .ok key) :
      Composed x caller c after
        (((x.run (first ++ second)).sign c d key).1.mapError .token)

/- What a call has behind it at its stage, after a run. -/
def Passed
    [KeyLibrary]
    (x : Issuance)
    (caller : Nat)
    (c : AssertionCall)
    (after : List Event) : CallStage → Prop
  | .discovering => caller ∉ (x.run after).resolved
  | .resolving d =>
      caller ∉ (x.run after).resolved ∧
        (x.run after).Gives caller (.ok d)
  | .signing d key =>
      ∃ first second,
        after = first ++ second ∧
          (x.run first).Gives caller (.ok d) ∧
          (x.run first).resolve c = .ok key
  | .ended r => Composed x caller c after r
  | .abandoned => True

section Discovering

variable [KeyLibrary]
variable {x : Issuance} {caller : Nat} {c : AssertionCall}

/- What the cache gave takes a call on. -/
theorem advance_discovering
    (hCall : x.call? caller = some (c, .discovering))
    {o : Outcome}
    (hTold : x.exchange.outcome? caller = some o) :
    x.step (.advance caller) =
      x.enter caller c (.ofGet o.result) := by
  rw [step_advance hCall]
  unfold advanceFrom
  rw [hTold]

/- Until then the call waits. -/
theorem advance_waiting
    (hCall : x.call? caller = some (c, .discovering))
    (hUntold : x.exchange.outcome? caller = none) :
    x.step (.advance caller) = x := by
  rw [step_advance hCall]
  unfold advanceFrom
  rw [hUntold]

end Discovering

section Passed

variable [KeyLibrary]
variable {x : Issuance} {caller : Nat} {c : AssertionCall}
variable {es : List Event} {e : Event} {s : CallStage}

/-
  What is behind a call stays so with an event by which its
  outcome is kept and its secret is not resolved.
-/
theorem Passed.later
    (h : Passed x caller c es s)
    (hGives :
      ∀ result,
        (x.run es).Gives caller result →
          (x.run (es ++ [e])).Gives caller result)
    (hResolved :
      caller ∈ (x.run (es ++ [e])).resolved →
        caller ∈ (x.run es).resolved) :
    Passed x caller c (es ++ [e]) s := by
  cases s with
  | discovering => exact fun hMem => h (hResolved hMem)
  | resolving d =>
      exact ⟨fun hMem => h.1 (hResolved hMem), hGives _ h.2⟩
  | signing d key =>
      rcases h with ⟨first, second, rfl, hGet, hSecret⟩
      exact
        ⟨first, second ++ [e], List.append_assoc _ _ _, hGet, hSecret⟩
  | ended r =>
      cases h with
      | undiscovered hGet hUnresolved =>
          exact Composed.undiscovered (hGives _ hGet)
            fun hMem => hUnresolved (hResolved hMem)
      | @unresolved d e' first second hAfter hGet hSecret =>
          subst hAfter
          exact Composed.unresolved (List.append_assoc first second [e])
            hGet hSecret
      | @signed d key first second third hAfter hGet hSecret =>
          subst hAfter
          exact Composed.signed
            (List.append_assoc (first ++ second) third [e]) hGet hSecret
  | abandoned => trivial

/- A call that goes on has its last stage behind it, too. -/
theorem Passed.advance
    (hCall : (x.run es).call? caller = some (c, s))
    (h : Passed x caller c es s) :
    ∃ s',
      (x.run (es ++ [.advance caller])).call? caller = some (c, s') ∧
        Passed x caller c (es ++ [.advance caller]) s' := by
  have hStep :
      x.run (es ++ [.advance caller]) =
        (x.run es).advanceFrom caller c s := by
    rw [run_concat, step_advance hCall]
  have hExchange :
      (x.run (es ++ [.advance caller])).exchange =
        (x.run es).exchange := by
    rw [hStep, exchange_advanceFrom]
  have hGives :
      ∀ result,
        (x.run es).Gives caller result →
          (x.run (es ++ [.advance caller])).Gives caller result := by
    intro result hGet
    unfold Gives
    rw [hExchange]
    exact hGet
  -- Where the call stays, all is as it was.
  have hSame :
      (x.run es).step (.advance caller) = x.run es →
        ∃ s',
          (x.run (es ++ [.advance caller])).call? caller =
              some (c, s') ∧
            Passed x caller c (es ++ [.advance caller]) s' := by
    intro hStays
    refine ⟨s, ?_, ?_⟩
    · rw [run_concat, hStays, hCall]
    · apply h.later hGives
      rw [run_concat, hStays]
      exact id
  cases s with
  | discovering =>
      cases hGet : (x.run es).exchange.outcome? caller with
      | none => exact hSame (advance_waiting hCall hGet)
      | some o =>
          have hEntered :
              x.run (es ++ [.advance caller]) =
                (x.run es).enter caller c (.ofGet o.result) := by
            rw [run_concat, advance_discovering hCall hGet]
          have hUnresolved :
              caller ∉ (x.run (es ++ [.advance caller])).resolved := by
            rw [hEntered]
            exact h
          have hGave := hGives o.result ⟨o.fetch, hGet⟩
          refine ⟨.ofGet o.result, ?_, ?_⟩
          · rw [hEntered, call?_enter_self]
          · cases hResult : o.result with
            | error error =>
                rw [hResult] at hGave
                exact Composed.undiscovered hGave hUnresolved
            | ok d =>
                rw [hResult] at hGave
                exact ⟨hUnresolved, hGave⟩
  | resolving d =>
      refine ⟨.ofSecret d ((x.run es).resolve c), ?_, ?_⟩
      · rw [hStep]
        exact call?_enter_self _ _ _ _
      · cases hSecret : (x.run es).resolve c with
        | error error => exact Composed.unresolved rfl h.2 hSecret
        | ok key => exact ⟨es, _, rfl, h.2, hSecret⟩
  | signing d key =>
      rcases h with ⟨first, second, rfl, hGet, hSecret⟩
      refine ⟨.ofSigning
        ((x.run (first ++ second)).sign c d key).1, ?_, ?_⟩
      · rw [hStep]
        exact call?_enter_self _ _ _ _
      · exact Composed.signed rfl hGet hSecret
  | ended r => exact hSame (step_advance hCall)
  | abandoned => exact hSame (step_advance hCall)

end Passed

/- An assertion that a call comes to is for the issuer of its document. -/
theorem Composed.audience
    [KeyLibrary]
    {x : Issuance}
    {caller : Nat}
    {c : AssertionCall}
    {after : List Event}
    {a : ClientAssertion}
    (h : Composed x caller c after (.ok a)) :
    ∃ d first second claims,
      after = first ++ second ∧
        (x.run first).Gives caller (.ok d) ∧
        OpenedToken.claims? a.token.value = some claims ∧
        claims.memberOrNull "aud" = Json.text d.metadata.issuer := by
  generalize hResult : Except.ok a = r at h
  cases h with
  | undiscovered _ _ => cases hResult
  | unresolved _ _ _ => cases hResult
  | @signed d key first second third hAfter hGet hSecret =>
      have hCreated :=
        (Attempt.mapError_eq_ok_iff _ _ _).mp hResult.symm
      have hClaims := ClientAssertion.claims?_of_create hCreated
      rw [List.append_assoc] at hAfter
      exact
        ⟨d, first, second ++ third, _, hAfter, hGet, hClaims,
          ClientAssertion.audience_claimMembers _ _ _ _⟩

------------------------------------------------------------
-- The End of a Call
------------------------------------------------------------

/- How often a call must go on to its end. -/
def remaining : CallStage → Nat
  | .discovering => 3
  | .resolving _ => 2
  | .signing _ _ => 1
  | .ended _ => 0
  | .abandoned => 0

/- The result of a call that has ended. -/
theorem result?_of_ended
    {x : Issuance}
    {caller : Nat}
    {c : AssertionCall}
    {r : Except ServiceError ClientAssertion}
    (hCall : x.call? caller = some (c, .ended r)) :
    x.result? caller = some r := by
  unfold result?
  rw [hCall]

/- Three times are always enough. -/
theorem remaining_le (s : CallStage) :
    remaining s ≤ 3 := by
  cases s <;> simp [remaining]

/- A call with no need to go on has ended or was abandoned. -/
theorem ended_of_remaining
    {s : CallStage}
    (hNone : remaining s = 0)
    (hKept : s ≠ .abandoned) :
    ∃ r, s = .ended r := by
  cases s with
  | ended r => exact ⟨r, rfl⟩
  | abandoned => exact absurd rfl hKept
  | _ => cases hNone

section Advance

variable [KeyLibrary]
variable {x : Issuance} {caller : Nat} {c : AssertionCall}

/-
  A call that goes on comes nearer to its end, if it does not
  wait for the cache in vain.
-/
theorem advance_remaining
    {s : CallStage}
    (hCall : x.call? caller = some (c, s))
    (hKept : s ≠ .abandoned)
    (hGet : s = .discovering → ∃ result, x.Gives caller result) :
    ∃ s',
      (x.step (.advance caller)).call? caller = some (c, s') ∧
        s' ≠ .abandoned ∧ remaining s' ≤ remaining s - 1 := by
  cases s with
  | discovering =>
      rcases hGet rfl with ⟨result, fetch, hTold⟩
      refine ⟨.ofGet result, ?_, ?_⟩
      · rw [advance_discovering hCall hTold, call?_enter_self]
      · cases result with
        | error e => exact ⟨nofun, Nat.zero_le _⟩
        | ok d => exact ⟨nofun, Nat.le_refl _⟩
  | resolving d =>
      refine ⟨.ofSecret d (x.resolve c), ?_, ?_⟩
      · rw [step_advance hCall]
        exact call?_enter_self _ _ _ _
      · cases x.resolve c with
        | error e => exact ⟨nofun, Nat.zero_le _⟩
        | ok key => exact ⟨nofun, Nat.le_refl _⟩
  | signing d key =>
      refine ⟨.ofSigning (x.sign c d key).1, ?_, nofun, Nat.le_refl _⟩
      rw [step_advance hCall]
      exact call?_enter_self _ _ _ _
  | ended r =>
      refine ⟨.ended r, ?_, nofun, Nat.le_refl _⟩
      rw [step_advance hCall]
      exact hCall
  | abandoned => exact absurd rfl hKept

/- Such a call stays as it is. -/
theorem step_advance_of_ended
    {r : Except ServiceError ClientAssertion}
    (hCall : x.call? caller = some (c, .ended r)) :
    x.step (.advance caller) = x := by
  rw [step_advance hCall]
  rfl

/-
  A call that goes on with nothing in between comes to what the
  service gives for the outcome of the cache.
-/
theorem advance_undisturbed
    (hCall : x.call? caller = some (c, .discovering))
    {o : Outcome}
    (hTold : x.exchange.outcome? caller = some o) :
    (x.run [.advance caller, .advance caller, .advance caller]).result?
        caller =
      some (TokenService.assertion
        ⟨x.store, x.settings, x.exchange.now⟩ o.result c.clientId
        c.secret x.source).1 := by
  change
    (((x.step (.advance caller)).step (.advance caller)).step
      (.advance caller)).result? caller = _
  rw [advance_discovering hCall hTold]
  cases o.result with
  | error e =>
      have hEnded :
          (x.enter caller c (.ofGet (.error e))).call? caller =
            some (c, .ended (.error (.cache e))) :=
        call?_enter_self _ _ _ _
      rw [step_advance_of_ended hEnded, step_advance_of_ended hEnded]
      exact result?_of_ended hEnded
  | ok d =>
      have hResolving :
          (x.enter caller c (.ofGet (.ok d))).call? caller =
            some (c, .resolving d) :=
        call?_enter_self _ _ _ _
      rw [step_advance hResolving]
      generalize hNext :
        (x.enter caller c (.ofGet (.ok d))).advanceFrom caller c
          (.resolving d) = y
      have hNow :
          y.call? caller = some (c, .ofSecret d (x.resolve c)) := by
        rw [← hNext]
        exact call?_enter_self _ _ _ _
      cases hSecret : x.resolve c with
      | error e =>
          rw [hSecret] at hNow
          unfold resolve at hSecret
          unfold TokenService.assertion
          simp only [hSecret]
          rw [step_advance_of_ended hNow]
          exact result?_of_ended hNow
      | ok key =>
          rw [hSecret] at hNow
          unfold resolve at hSecret
          unfold TokenService.assertion
          simp only [hSecret]
          rw [step_advance hNow]
          have hSign : y.sign c d key = x.sign c d key := by
            rw [← hNext]
            rfl
          apply result?_of_ended (c := c)
          change (Issuance.enter _ caller c _).call? caller = _
          rw [call?_enter_self, hSign]
          rfl

/-
  An event that neither makes a call nor gives it up leaves it
  or takes it on.
-/
theorem step_remaining
    {e : Event}
    {s : CallStage}
    (hCall : x.call? caller = some (c, s))
    (hKept : s ≠ .abandoned)
    (hOnce : ∀ c', e ≠ .call caller c')
    (hStays : e ≠ .abandon caller) :
    ∃ s',
      (x.step e).call? caller = some (c, s') ∧
        s' ≠ .abandoned ∧
        ((∃ result, x.Gives caller result) →
          e = .advance caller → remaining s' ≤ remaining s - 1) ∧
        remaining s' ≤ remaining s := by
  by_cases hSubject : e.subject? = some caller
  · cases e with
    | call other c' =>
        cases hSubject
        exact absurd rfl (hOnce c')
    | abandon other =>
        cases hSubject
        exact absurd rfl hStays
    | advance other =>
        cases hSubject
        by_cases hGet : s = .discovering → ∃ result, x.Gives caller result
        · rcases advance_remaining hCall hKept hGet with
            ⟨s', hCall', hKept', hLess⟩
          exact ⟨s', hCall', hKept', fun _ _ => hLess, by omega⟩
        · rw [Classical.not_imp] at hGet
          rcases hGet with ⟨rfl, hNone⟩
          have hUntold : x.exchange.outcome? caller = none := by
            cases hTold : x.exchange.outcome? caller with
            | none => rfl
            | some o => exact absurd ⟨o.result, o.fetch, hTold⟩ hNone
          refine ⟨.discovering, ?_, hKept,
            fun hSome => absurd hSome hNone, Nat.le_refl _⟩
          rw [advance_waiting hCall hUntold]
          exact hCall
    | _ => cases hSubject
  · refine ⟨s, ?_, hKept, ?_, Nat.le_refl _⟩
    · rw [(x.frames_step e).calls caller hSubject]
      exact hCall
    · rintro _ rfl
      exact absurd rfl hSubject

end Advance

end Issuance

end KeyAssertion
