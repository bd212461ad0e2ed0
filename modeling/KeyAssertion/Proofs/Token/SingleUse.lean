import Mathlib.Data.List.Induction
import KeyAssertion.Proofs.Token.Calls
import KeyAssertion.Proofs.Token.Claims
import KeyAssertion.Token.Ledger

/-
  Every token is for one use: it takes a draw of its own from
  the source and carries the identifier of that draw, so that
  no two tokens of a run have the same one if the source does
  not repeat itself.

  Key definitions include:
    * `MadeToken.identifier?`
    * `TokenSource.Draws`
    * `TokenLedger.IsSingleUse`

  Key theorems include:
    * `TokenLedger.draws_step`
    * `TokenLedger.run_numbered`
    * `TokenLedger.run_complete`
    * `TokenLedger.run_isSingleUse`
-/

namespace KeyAssertion

------------------------------------------------------------
-- Identifiers
------------------------------------------------------------

namespace MadeToken

/- The identifier among the claims, as a receiver reads it. -/
def identifier? (t : MadeToken) : Option Json :=
  (OpenedToken.claims? t.token.value).bind
    fun claims => claims.member? "jti"

/- The identifier that the maker of a proof is told. -/
def told? : MadeToken → Option String
  | .assertion _ => none
  | .proof x => some x.identifier

end MadeToken

/- The claims of an assertion hold the identifier of the draw. -/
theorem ClientAssertion.identifier?_of_create
    {r : Request}
    {now : Moment}
    {source : TokenSource}
    {x : ClientAssertion}
    (h : (create r now source).1 = .ok x) :
    (MadeToken.assertion x).identifier? =
      some (Json.text source.nextIdentifier) := by
  have hClaims := claims?_of_create h
  unfold MadeToken.identifier? MadeToken.token
  rw [hClaims]
  rfl

/- So do the claims of a proof, and its maker is told the same. -/
theorem PossessionProof.identifier?_of_create
    {r : Request}
    {now : Moment}
    {source : TokenSource}
    {x : PossessionProof}
    (h : (create r now source).1 = .ok x) :
    (MadeToken.proof x).identifier? =
        some (Json.text source.nextIdentifier) ∧
      x.identifier = source.nextIdentifier := by
  have hClaims := claims?_of_create h
  constructor
  · unfold MadeToken.identifier? MadeToken.token
    rw [hClaims]
    rfl
  · rcases (create_eq_ok_iff _ _ _ _).mp h with ⟨_, _, _, _, rfl⟩
    rfl

------------------------------------------------------------
-- Draws
------------------------------------------------------------

namespace TokenSource

/-
  What becomes of a source: it is left alone, or a draw is
  taken from it, in vain or for a token with its identifier.
-/
inductive Draws
    (s : TokenSource) :
    Option MadeToken → TokenSource → Prop
  | idle : Draws s none s
  | spent : Draws s none s.next
  | made
      (t : MadeToken)
      (hClaim : t.identifier? = some (Json.text s.nextIdentifier))
      (hTold : ∀ i, t.told? = some i → i = s.nextIdentifier) :
      Draws s (some t) s.next

end TokenSource

open TokenSource (Draws)

/- An assertion takes one draw, a request that is refused none. -/
theorem ClientAssertion.draws_create
    (r : Request)
    (now : Moment)
    (source : TokenSource) :
    Draws source
      ((create r now source).1.toOption.map .assertion)
      (create r now source).2 := by
  cases hCheck : r.check now with
  | error e =>
      unfold create
      rw [hCheck]
      exact Draws.idle
  | ok checked =>
      have hNext : (create r now source).2 = source.next := by
        unfold create
        rw [hCheck]
      rw [hNext]
      cases hCreated : (create r now source).1 with
      | error e => exact Draws.spent
      | ok x =>
          apply Draws.made
          · exact identifier?_of_create hCreated
          · nofun

/- So does a proof. -/
theorem PossessionProof.draws_create
    (r : Request)
    (now : Moment)
    (source : TokenSource) :
    Draws source
      ((create r now source).1.toOption.map .proof)
      (create r now source).2 := by
  cases hCheck : r.check with
  | error e =>
      unfold create
      rw [hCheck]
      exact Draws.idle
  | ok a =>
      have hNext : (create r now source).2 = source.next := by
        unfold create
        rw [hCheck]
      rw [hNext]
      cases hCreated : (create r now source).1 with
      | error e => exact Draws.spent
      | ok x =>
          have hMade := identifier?_of_create hCreated
          apply Draws.made
          · exact hMade.1
          · intro i hTold
            rw [← Option.some.inj hTold]
            exact hMade.2

namespace Issuance

/- A call draws only when it is to be signed for. -/
theorem draws_advanceFrom
    [KeyLibrary]
    (x : Issuance)
    (caller : Nat)
    (c : AssertionCall)
    (s : CallStage) :
    Draws x.source ((x.signedFrom? c s).map .assertion)
      (x.advanceFrom caller c s).source := by
  cases s with
  | signing d key =>
      exact ClientAssertion.draws_create _ x.exchange.now x.source
  | discovering =>
      unfold advanceFrom
      cases x.exchange.outcome? caller with
      | none => exact Draws.idle
      | some o => exact Draws.idle
  | _ => exact Draws.idle

/- What a call is given is what it goes on to. -/
theorem signed?_advance
    {x : Issuance}
    {caller : Nat}
    {c : AssertionCall}
    {s : CallStage}
    (hCall : x.call? caller = some (c, s)) :
    x.signed? (.advance caller) = x.signedFrom? c s := by
  unfold signed?
  simp only [hCall, Option.bind_some]

/- A caller without a call is given nothing. -/
theorem signed?_of_uncalled
    {x : Issuance}
    {caller : Nat}
    (hNone : x.call? caller = none) :
    x.signed? (.advance caller) = none := by
  unfold signed?
  simp only [hNone, Option.bind_none]

/- A call that is given up draws nothing. -/
theorem source_abandon
    (x : Issuance)
    (caller : Nat) :
    (x.abandon caller).source = x.source := by
  rcases x.abandon_cases caller with hSame | ⟨c, hStep⟩
  · rw [hSame]
  · rw [hStep]
    rfl

/- An event of the service takes at most one draw. -/
theorem draws_step
    [KeyLibrary]
    (x : Issuance)
    (e : Event) :
    Draws x.source ((x.signed? e).map .assertion) (x.step e).source := by
  cases e with
  | advance caller =>
      cases hCall : x.call? caller with
      | none =>
          rw [signed?_of_uncalled hCall, (step_uncalled hCall).1]
          exact Draws.idle
      | some call =>
          rw [signed?_advance hCall, step_advance hCall]
          exact x.draws_advanceFrom caller call.1 call.2
  | abandon caller =>
      change Draws x.source none (x.abandon caller).source
      rw [source_abandon]
      exact Draws.idle
  | draw => exact Draws.spent
  | _ => exact Draws.idle

end Issuance

namespace TokenLedger

/- So does every event. -/
theorem draws_step
    [KeyLibrary]
    (x : TokenLedger)
    (e : Event) :
    Draws x.source (x.made? e) (x.step e).source := by
  cases e with
  | service e => exact x.service.draws_step e
  | assertion now r => exact ClientAssertion.draws_create r now x.source
  | proof now r => exact PossessionProof.draws_create r now x.source

------------------------------------------------------------
-- Tokens and Their Draws
------------------------------------------------------------

/-
  Every token that is written down has the identifier of an
  earlier draw, the latest token that of the latest such draw.
-/
structure IsNumbered
    (source : TokenSource)
    (x : TokenLedger) : Prop where
  identifier : x.source.identifier = source.identifier
  drawn :
    ∀ t ∈ x.made,
      ∃ i < x.source.drawn,
        t.identifier? = some (Json.text (source.identifier i))
  distinct :
    Function.Injective source.identifier →
      x.made.Pairwise fun t u => t.identifier? ≠ u.identifier?
  told :
    ∀ t ∈ x.made,
      ∀ i, t.told? = some i → t.identifier? = some (Json.text i)

/- A draw in vain changes none of this. -/
theorem IsNumbered.of_unmade
    {source : TokenSource}
    {x y : TokenLedger}
    (h : x.IsNumbered source)
    (hMade : y.made = x.made)
    (hIdentifier : y.source.identifier = x.source.identifier)
    (hDrawn : x.source.drawn ≤ y.source.drawn) :
    y.IsNumbered source := by
  constructor
  · rw [hIdentifier]
    exact h.identifier
  · intro t hMem
    rw [hMade] at hMem
    rcases h.drawn t hMem with ⟨i, hBefore, hClaim⟩
    exact ⟨i, Nat.lt_of_lt_of_le hBefore hDrawn, hClaim⟩
  · rw [hMade]
    exact h.distinct
  · rw [hMade]
    exact h.told

/-
  A token that takes the next draw differs from all others:
  their draws were earlier.
-/
theorem IsNumbered.of_made
    {source : TokenSource}
    {x y : TokenLedger}
    {t : MadeToken}
    (h : x.IsNumbered source)
    (hMade : y.made = t :: x.made)
    (hSource : y.source = x.source.next)
    (hClaim :
      t.identifier? = some (Json.text x.source.nextIdentifier))
    (hTold : ∀ i, t.told? = some i → i = x.source.nextIdentifier) :
    y.IsNumbered source := by
  have hNext :
      x.source.nextIdentifier = source.identifier x.source.drawn := by
    rw [← h.identifier]
    rfl
  constructor
  · rw [hSource]
    exact h.identifier
  · intro u hMem
    rw [hMade] at hMem
    rw [hSource]
    rcases List.mem_cons.mp hMem with rfl | hOld
    · refine ⟨x.source.drawn, Nat.lt_succ_self _, ?_⟩
      rw [hClaim, hNext]
    · rcases h.drawn u hOld with ⟨i, hBefore, hOther⟩
      exact ⟨i, Nat.lt_succ_of_lt hBefore, hOther⟩
  · intro hInjective
    rw [hMade]
    apply List.Pairwise.cons
    · intro u hOld hSame
      rcases h.drawn u hOld with ⟨i, hBefore, hOther⟩
      rw [hClaim, hOther, hNext] at hSame
      have hText :
          source.identifier x.source.drawn = source.identifier i := by
        simpa [Json.text] using hSame
      have hIndex : x.source.drawn = i := hInjective hText
      omega
    · exact h.distinct hInjective
  · intro u hMem i hTell
    rw [hMade] at hMem
    rcases List.mem_cons.mp hMem with rfl | hOld
    · rw [hTold i hTell]
      exact hClaim
    · exact h.told u hOld i hTell

/- Whatever becomes of the source, the tokens are numbered after it. -/
theorem IsNumbered.of_draws
    {source : TokenSource}
    {x y : TokenLedger}
    {t? : Option MadeToken}
    (h : x.IsNumbered source)
    (hDraws : Draws x.source t? y.source)
    (hMade : y.made = t?.toList ++ x.made) :
    y.IsNumbered source := by
  generalize hAfter : y.source = after at hDraws
  cases hDraws with
  | idle =>
      apply h.of_unmade hMade
      · rw [hAfter]
      · rw [hAfter]
  | spent =>
      apply h.of_unmade hMade
      · rw [hAfter]
        rfl
      · rw [hAfter]
        exact Nat.le_succ _
  | made t hClaim hTold => exact h.of_made hMade hAfter hClaim hTold

/- The tokens of a run are numbered. -/
theorem run_numbered
    [KeyLibrary]
    (service : Issuance)
    (events : List Event) :
    ((start service).run events).IsNumbered service.source := by
  induction events using List.reverseRecOn with
  | nil =>
      constructor
      · rfl
      · intro t hMem
        exact absurd hMem List.not_mem_nil
      · intro _
        exact List.Pairwise.nil
      · intro t hMem
        exact absurd hMem List.not_mem_nil
  | append_singleton es e ih =>
      rw [run_concat]
      exact ih.of_draws (draws_step _ e) rfl

end TokenLedger

------------------------------------------------------------
-- Results
------------------------------------------------------------

namespace Issuance

/- A caller has the result that it had, or is given one. -/
theorem result?_advanceFrom
    [KeyLibrary]
    {x : Issuance}
    {caller : Nat}
    {c : AssertionCall}
    {s : CallStage}
    {a : ClientAssertion}
    (hCall : x.call? caller = some (c, s))
    (hResult :
      (x.advanceFrom caller c s).result? caller = some (.ok a)) :
    x.result? caller = some (.ok a) ∨ x.signedFrom? c s = some a := by
  unfold result? at hResult
  cases s with
  | signing d key =>
      right
      unfold advanceFrom at hResult
      rw [call?_enter_self] at hResult
      have hSigned := Option.some.inj hResult
      rw [Attempt.mapError_eq_ok_iff] at hSigned
      exact (Attempt.toOption_eq_some_iff _ _).mpr hSigned
  | resolving d =>
      unfold advanceFrom at hResult
      rw [call?_enter_self] at hResult
      cases hSecret : x.resolve c with
      | error e =>
          rw [hSecret] at hResult
          cases hResult
      | ok key =>
          rw [hSecret] at hResult
          cases hResult
  | discovering =>
      unfold advanceFrom at hResult
      cases hTold : x.exchange.outcome? caller with
      | none =>
          left
          simp only [hTold] at hResult
          exact hResult
      | some o =>
          simp only [hTold] at hResult
          rw [call?_enter_self] at hResult
          cases hGet : o.result with
          | error e =>
              rw [hGet] at hResult
              cases hResult
          | ok d =>
              rw [hGet] at hResult
              cases hResult
  | _ => exact Or.inl hResult

/- An assertion that a caller has after an event it had, or is given. -/
theorem result?_step
    [KeyLibrary]
    {x : Issuance}
    {e : Event}
    {caller : Nat}
    {a : ClientAssertion}
    (hResult : (x.step e).result? caller = some (.ok a)) :
    x.result? caller = some (.ok a) ∨ x.signed? e = some a := by
  by_cases hSubject : e.subject? = some caller
  · cases e with
    | call other c =>
        have hOther : other = caller := Option.some.inj hSubject
        subst hOther
        unfold result? at hResult
        rw [step, call?_enter_self] at hResult
        cases hResult
    | advance other =>
        have hOther : other = caller := Option.some.inj hSubject
        subst hOther
        cases hCall : x.call? other with
        | none =>
            rw [(step_uncalled hCall).1] at hResult
            exact Or.inl hResult
        | some call =>
            rw [step_advance hCall] at hResult
            rw [signed?_advance hCall]
            exact result?_advanceFrom hCall hResult
    | abandon other =>
        have hOther : other = caller := Option.some.inj hSubject
        subst hOther
        left
        cases hCall : x.call? other with
        | none =>
            rw [(step_uncalled hCall).2] at hResult
            exact hResult
        | some call =>
            rcases call?_abandon hCall with ⟨r, _, hSame⟩ | hGivenUp
            · rw [hSame] at hResult
              exact hResult
            · unfold result? at hResult
              rw [hGivenUp] at hResult
              cases hResult
    | _ => cases hSubject
  · left
    unfold result? at hResult ⊢
    rw [(x.frames_step e).calls caller hSubject] at hResult
    exact hResult

end Issuance

namespace TokenLedger

/- Every assertion that a call has come to is written down. -/
theorem run_complete
    [KeyLibrary]
    {service : Issuance}
    (hFresh : ∀ caller a, service.result? caller ≠ some (.ok a))
    {events : List Event}
    {caller : Nat}
    {a : ClientAssertion}
    (hResult :
      ((start service).run events).service.result? caller =
        some (.ok a)) :
    .assertion a ∈ ((start service).run events).made := by
  induction events using List.reverseRecOn with
  | nil => exact absurd hResult (hFresh caller a)
  | append_singleton es e ih =>
      rw [run_concat] at hResult ⊢
      apply List.mem_append.mpr
      cases e with
      | service e =>
          rcases Issuance.result?_step hResult with hOld | hSigned
          · exact Or.inr (ih hOld)
          · left
            change
              MadeToken.assertion a ∈ Option.toList (Option.map _ _)
            rw [hSigned]
            exact List.mem_singleton_self _
      | _ => exact Or.inr (ih hResult)

------------------------------------------------------------
-- Single Use
------------------------------------------------------------

/-
  What holds of the tokens that are written down:
    * each has an identifier that its receiver can read;
    * no two have the same;
    * the maker of a proof is told that of its token;
    * no call has come to an assertion that is not among them.
-/
structure IsSingleUse (x : TokenLedger) : Prop where
  claimed : ∀ t ∈ x.made, ∃ i, t.identifier? = some (Json.text i)
  distinct :
    x.made.Pairwise fun t u => t.identifier? ≠ u.identifier?
  told :
    ∀ p : PossessionProof,
      .proof p ∈ x.made →
        (MadeToken.proof p).identifier? =
          some (Json.text p.identifier)
  complete :
    ∀ caller a,
      x.service.result? caller = some (.ok a) →
        .assertion a ∈ x.made

/-
  If the source does not repeat an identifier, then every token
  of every run is for one use: whatever the events, their
  requests and their moments are, and whether a token is
  asked for by a call or without one, again or in vain.
-/
theorem run_isSingleUse
    [KeyLibrary]
    (discovery : DiscoverySettings)
    (now : Moment)
    (store : CertificateStore)
    (settings : AssertionSettings)
    {source : TokenSource}
    (hInjective : Function.Injective source.identifier)
    (events : List Event) :
    ((start (.start discovery now store settings source)).run
      events).IsSingleUse := by
  let service := Issuance.start discovery now store settings source
  have hNumbered := run_numbered service events
  constructor
  · intro t hMem
    rcases hNumbered.drawn t hMem with ⟨i, _, hClaim⟩
    exact ⟨_, hClaim⟩
  · exact hNumbered.distinct hInjective
  · intro p hMem
    exact hNumbered.told _ hMem _ rfl
  · intro caller a hResult
    apply run_complete _ hResult
    intro other b hOther
    cases hOther

------------------------------------------------------------
-- Requests That Are Repeated
------------------------------------------------------------

/- A source that gives longer and longer identifiers. -/
def growingSource : TokenSource :=
  ⟨fun i => String.ofList (List.replicate i 'a'), fun _ _ => 0, 0⟩

/- It does not repeat itself. -/
theorem injective_growingSource :
    Function.Injective growingSource.identifier := by
  intro i j hSame
  have hLists : List.replicate i 'a' = List.replicate j 'a' := by
    rw [← @String.toList_ofList (List.replicate i 'a'),
      ← @String.toList_ofList (List.replicate j 'a')]
    exact congrArg String.toList hSame
  calc
    i = (List.replicate i 'a').length := List.length_replicate.symm
    _ = (List.replicate j 'a').length := congrArg List.length hLists
    _ = j := List.length_replicate

/- The material of the sample key. -/
def sampleMaterial : KeyMaterial :=
  .ofKey Rsa.sampleKey none none none

/- A request for an assertion. -/
def sampleAssertion : ClientAssertion.Request :=
  { issuer := "https://a", clientId := "c", key := sampleMaterial }

/- A request for a proof. -/
def sampleProof : PossessionProof.Request :=
  { httpMethod := "GET", httpUrl := "https://a", key := sampleMaterial }

/- What gives a token is written down first. -/
theorem made_step
    [KeyLibrary]
    {x : TokenLedger}
    {e : Event}
    {t : MadeToken}
    (hMade : x.made? e = some t) :
    (x.step e).made = t :: x.made := by
  unfold step
  rw [hMade]
  rfl

/- The request for an assertion gives one whenever it is made. -/
theorem made?_sampleAssertion (x : TokenLedger) :
    ∃ a, x.made? (.assertion .epoch sampleAssertion) =
      some (.assertion a) := by
  rcases ClientAssertion.exists_create_of_sampleKey
      (r := sampleAssertion) .epoch x.source rfl (by decide) (by decide)
      (by decide) (by decide) with ⟨a, hCreated⟩
  refine ⟨a, ?_⟩
  simp only [made?, hCreated]
  rfl

/- So does the request for a proof. -/
theorem made?_sampleProof (x : TokenLedger) :
    ∃ p, x.made? (.proof .epoch sampleProof) = some (.proof p) := by
  rcases PossessionProof.exists_create_of_sampleKey
      (r := sampleProof) .epoch x.source rfl (by decide) (by decide) with
    ⟨p, hCreated⟩
  refine ⟨p, ?_⟩
  simp only [made?, hCreated]
  rfl

/-
  The same assertion asked for twice, then a proof: three
  tokens of three draws.
-/
theorem run_isSingleUse_of_sampleMaterial :
    let x :=
      (start (.start {} .epoch (.memory {}) {} growingSource)).run
        [.assertion .epoch sampleAssertion,
          .assertion .epoch sampleAssertion,
          .proof .epoch sampleProof]
    x.made.length = 3 ∧ x.IsSingleUse := by
  constructor
  · let first := start (.start {} .epoch (.memory {}) {} growingSource)
    let second := first.step (.assertion .epoch sampleAssertion)
    let third := second.step (.assertion .epoch sampleAssertion)
    rcases made?_sampleAssertion first with ⟨a, hFirst⟩
    rcases made?_sampleAssertion second with ⟨b, hSecond⟩
    rcases made?_sampleProof third with ⟨p, hThird⟩
    change (third.step _).made.length = 3
    rw [made_step hThird, made_step hSecond, made_step hFirst]
    rfl
  · exact run_isSingleUse _ _ _ _ injective_growingSource _

end TokenLedger

end KeyAssertion
