import KeyAssertion.Proofs.Discovery.Delivery
import KeyAssertion.Proofs.Token.Stages

/-
  What calls of the service come to in a run, whatever happens
  between their stages.

  Key definitions include:
    * `Issuance.runCall`
    * `Issuance.IsComposition`

  Key theorems include:
    * `Issuance.passed_run`
    * `Issuance.composed_run`
    * `Issuance.run_remaining`
    * `Issuance.run_isComposition`
-/

namespace KeyAssertion

namespace Issuance

------------------------------------------------------------
-- Runs
------------------------------------------------------------

/- Whether an event lets a call go on. -/
def Event.advances (caller : Nat) : Event → Bool
  | .advance other => other == caller
  | _ => false

/- Who makes no lookup in a run makes no call. -/
theorem not_called
    {caller : Nat}
    {events : List Event}
    (hQuiet : Exchange.Quiet (discovery events) caller)
    (c : AssertionCall) :
    .call caller c ∉ events := by
  intro hMem
  have hLookup : .get caller c.authority ∈ discovery events :=
    List.mem_filterMap.mpr ⟨_, hMem, rfl⟩
  exact hQuiet _ hLookup rfl

section Library

variable [KeyLibrary]

/- A run with a call in it. -/
def runCall
    (x : Issuance)
    (before : List Event)
    (caller : Nat)
    (c : AssertionCall)
    (after : List Event) : Issuance :=
  x.run (before ++ .call caller c :: after)

/- It goes on from the call with the events after it. -/
theorem runCall_append
    (x : Issuance)
    (before : List Event)
    (caller : Nat)
    (c : AssertionCall)
    (first second : List Event) :
    x.runCall before caller c (first ++ second) =
      (x.runCall before caller c first).run second := by
  unfold runCall
  rw [← run_append, List.append_assoc, List.cons_append]

/- It is one that goes on from the call. -/
theorem runCall_run
    (x : Issuance)
    (before : List Event)
    (caller : Nat)
    (c : AssertionCall)
    (after : List Event) :
    (x.runCall before caller c []).run after =
      x.runCall before caller c after :=
  (x.runCall_append before caller c [] after).symm

/- To the cache it is a run with a lookup in it. -/
theorem exchange_runCall
    (x : Issuance)
    (before : List Event)
    (caller : Nat)
    (c : AssertionCall)
    (after : List Event) :
    (x.runCall before caller c after).exchange =
      x.exchange.run
        (discovery before ++
          .get caller c.authority :: discovery after) := by
  unfold runCall
  rw [exchange_run, discovery_append]
  rfl

section Start

variable {ds : DiscoverySettings} {now : Moment}
variable {store : CertificateStore} {settings : AssertionSettings}
variable {source : TokenSource}
variable {before after : List Event}
variable {caller : Nat} {c : AssertionCall}

/- What the cache has given to a caller it has given ever after. -/
theorem gives_append
    {events : List Event}
    (hDistinct :
      Exchange.DistinctCallers
        (discovery before ++
          .get caller c.authority :: discovery (after ++ events)))
    {result : Except CacheError DiscoveryDocument}
    (hGet :
      ((start ds now store settings source).runCall before caller c
        after).Gives caller result) :
    ((start ds now store settings source).runCall before caller c
      (after ++ events)).Gives caller result := by
  rcases hGet with ⟨fetch, hTold⟩
  refine ⟨fetch, ?_⟩
  rw [exchange_runCall] at hTold ⊢
  rw [discovery_append, ← List.cons_append, ← List.append_assoc]
    at hDistinct ⊢
  exact Exchange.outcome?_append hDistinct hTold

/- A call has behind it what its stage says, after every run. -/
theorem passed_run
    (hDistinct :
      Exchange.DistinctCallers
        (discovery before ++
          .get caller c.authority :: discovery after)) :
    ∃ s,
      ((start ds now store settings source).runCall before caller c
          after).call? caller = some (c, s) ∧
        Passed
          ((start ds now store settings source).runCall before caller
            c [])
          caller c after s := by
  induction after using List.reverseRecOn with
  | nil =>
      have hUncalled :=
        run_uncalled
          (x := start ds now store settings source)
          ⟨rfl, List.not_mem_nil⟩ (not_called hDistinct.split.1)
      refine ⟨.discovering, ?_, ?_⟩
      · unfold runCall
        rw [run_concat]
        exact call?_enter_self _ _ _ _
      · change caller ∉ (runCall _ before caller c []).resolved
        unfold runCall
        rw [run_concat]
        exact hUncalled.2
  | append_singleton es e ih =>
      have hQuiet := hDistinct.split.2
      have hEarlier := hDistinct
      rw [discovery_append, ← List.cons_append, ← List.append_assoc]
        at hEarlier
      rcases ih hEarlier.of_append with ⟨s, hCall, hPassed⟩
      have hGives :
          ∀ result,
            (runCall (start ds now store settings source) before caller
                c es).Gives caller result →
              (runCall (start ds now store settings source) before
                caller c (es ++ [e])).Gives caller result :=
        fun _ => gives_append hDistinct
      rw [← runCall_run] at hCall
      simp only [← runCall_run _ _ _ _ es,
        ← runCall_run _ _ _ _ (es ++ [e])] at hGives
      rw [← runCall_run]
      by_cases hSubject : e.subject? = some caller
      · cases e with
        | call other c' =>
            cases hSubject
            exact absurd (List.mem_append_right es List.mem_cons_self)
              (not_called hQuiet c')
        | advance other =>
            cases hSubject
            exact hPassed.advance hCall
        | abandon other =>
            cases hSubject
            rcases call?_abandon hCall with ⟨r, rfl, hSame⟩ | hGivenUp
            · refine ⟨.ended r, ?_, hPassed.later hGives ?_⟩
              · rw [run_concat, hSame]
                exact hCall
              · rw [run_concat, hSame]
                exact id
            · refine ⟨.abandoned, ?_, trivial⟩
              rw [run_concat]
              exact hGivenUp
        | _ => cases hSubject
      · have hFrame := frames_step
          ((runCall (start ds now store settings source) before caller c
            []).run es) e
        rw [← run_concat] at hFrame
        refine ⟨s, ?_, hPassed.later hGives ?_⟩
        · rw [hFrame.calls caller hSubject]
          exact hCall
        · exact hFrame.resolved caller hSubject

/- A call that is not given up is in a stage. -/
theorem run_kept
    (hQuiet : Exchange.Quiet (discovery after) caller)
    (hStays : .abandon caller ∉ after)
    (x : Issuance) :
    ∃ s,
      (x.runCall before caller c after).call? caller = some (c, s) ∧
        s ≠ .abandoned := by
  induction after using List.reverseRecOn with
  | nil =>
      refine ⟨.discovering, ?_, nofun⟩
      unfold runCall
      rw [run_concat]
      exact call?_enter_self _ _ _ _
  | append_singleton es e ih =>
      have hEarlier : Exchange.Quiet (discovery es) caller := by
        rw [discovery_append] at hQuiet
        exact (Exchange.quiet_append_iff.mp hQuiet).1
      rcases ih hEarlier (fun h => hStays (List.mem_append_left _ h)) with
        ⟨s, hCall, hKept⟩
      have hLast : e ∈ es ++ [e] :=
        List.mem_append_right es List.mem_cons_self
      rcases step_remaining hCall hKept
          (fun c' h => not_called hQuiet c' (h ▸ hLast))
          (fun h => hStays (h ▸ hLast)) with
        ⟨s', hCall', hKept', _⟩
      refine ⟨s', ?_, hKept'⟩
      rw [runCall_append]
      exact hCall'

/- What a call comes to is what its stages come to. -/
theorem composed_run
    (hDistinct :
      Exchange.DistinctCallers
        (discovery before ++
          .get caller c.authority :: discovery after))
    {r : Except ServiceError ClientAssertion}
    (hResult :
      ((start ds now store settings source).runCall before caller c
        after).result? caller = some r) :
    Composed
      ((start ds now store settings source).runCall before caller c [])
      caller c after r := by
  rcases @passed_run _ ds now store settings source _ _ _ _ hDistinct with
    ⟨s, hCall, hPassed⟩
  unfold result? at hResult
  rw [hCall] at hResult
  cases s with
  | ended r' =>
      cases hResult
      exact hPassed
  | _ => cases hResult

/-
  Once the cache has come to a result for it, a call that is
  not given up comes nearer to its end each time it goes on.
-/
theorem run_remaining
    {first second : List Event}
    (hDistinct :
      Exchange.DistinctCallers
        (discovery before ++
          .get caller c.authority :: discovery (first ++ second)))
    (hStays : .abandon caller ∉ first ++ second)
    {result : Except CacheError DiscoveryDocument}
    (hGet :
      ((start ds now store settings source).runCall before caller c
        first).Gives caller result) :
    ∃ s,
      ((start ds now store settings source).runCall before caller c
          (first ++ second)).call? caller = some (c, s) ∧
        s ≠ .abandoned ∧
        remaining s ≤ 3 - second.countP (Event.advances caller) := by
  induction second using List.reverseRecOn with
  | nil =>
      rw [List.append_nil] at hDistinct hStays ⊢
      rcases run_kept hDistinct.split.2 hStays
          (start ds now store settings source) with
        ⟨s, hCall, hKept⟩
      exact ⟨s, hCall, hKept, remaining_le s⟩
  | append_singleton es e ih =>
      rw [← List.append_assoc] at hDistinct hStays ⊢
      have hQuiet := hDistinct.split.2
      have hEarlier := hDistinct
      rw [discovery_append, ← List.cons_append, ← List.append_assoc]
        at hEarlier
      have hGave := gives_append hEarlier.of_append hGet
      rcases ih hEarlier.of_append
          (fun h => hStays (List.mem_append_left _ h)) with
        ⟨s, hCall, hKept, hCount⟩
      have hLast : e ∈ (first ++ es) ++ [e] :=
        List.mem_append_right _ List.mem_cons_self
      rcases step_remaining hCall hKept
          (fun c' h => not_called hQuiet c' (h ▸ hLast))
          (fun h => hStays (h ▸ hLast)) with
        ⟨s', hCall', hKept', hAdvanced, hSame⟩
      refine ⟨s', ?_, hKept', ?_⟩
      · rw [runCall_append]
        exact hCall'
      · rw [List.countP_append, List.countP_singleton]
        cases hAdvances : e.advances caller with
        | false =>
            simp only [Bool.false_eq_true, if_false]
            omega
        | true =>
            have hEvent : e = .advance caller := by
              cases e with
              | advance other => rw [beq_iff_eq.mp hAdvances]
              | _ => cases hAdvances
            have hOne := hAdvanced ⟨result, hGave⟩ hEvent
            simp only [if_true]
            omega

/-
  What holds of a call of the service, made in a run once by its
  caller:
    * the cache is as after a run with the lookup alone;
    * the result is composed of the stages;
    * a call that goes on undisturbed comes to what the service
      gives for the result of its lookup;
    * one that goes on three times after the lookup has come to
      a result has ended, unless it was given up;
    * the audience of an assertion is the issuer of the document
      that the lookup gave;
    * from the event that made the document of the lookup an
      entry or served it as one, who calls for the authority is
      served the document while it may be served and nothing
      touched its entry.
-/
structure IsComposition
    (x : Issuance)
    (before : List Event)
    (caller : Nat)
    (c : AssertionCall)
    (after : List Event) : Prop where
  alone :
    (x.runCall before caller c after).exchange =
      x.exchange.run
        (discovery before ++
          .get caller c.authority :: discovery after)
  composed :
    ∀ r,
      (x.runCall before caller c after).result? caller = some r →
        Composed (x.runCall before caller c []) caller c after r
  undisturbed :
    ∀ o,
      (x.runCall before caller c after).call? caller =
          some (c, .discovering) →
        (x.runCall before caller c after).exchange.outcome? caller =
            some o →
          ((x.runCall before caller c after).run
            [.advance caller, .advance caller,
              .advance caller]).result? caller =
            some (TokenService.assertion
              ⟨(x.runCall before caller c after).store, x.settings,
                (x.runCall before caller c after).exchange.now⟩
              o.result c.clientId c.secret
              (x.runCall before caller c after).source).1
  ends :
    ∀ first second result,
      after = first ++ second →
        (x.runCall before caller c first).Gives caller result →
          .abandon caller ∉ after →
            3 ≤ second.countP (Event.advances caller) →
              ∃ r,
                (x.runCall before caller c after).result? caller =
                  some r
  audience :
    ∀ a,
      (x.runCall before caller c after).result? caller =
          some (.ok a) →
        ∃ d claims,
          (x.runCall before caller c after).Gives caller (.ok d) ∧
            OpenedToken.claims? a.token.value = some claims ∧
            claims.memberOrNull "aud" = Json.text d.metadata.issuer
  retried :
    ∀ fetch d,
      (x.runCall before caller c after).exchange.outcome? caller =
          some ⟨fetch, .ok d⟩ →
        Authority.normalize c.authority = .ok d.authority ∧
          ∃ first e second n,
            discovery before ++
                .get caller c.authority :: discovery after =
              first ++ e :: second ∧
            fetch = some n ∧
            (x.exchange.run first).Brought e caller n d ∧
            ((¬ (x.exchange.run (first ++ [e])).Happened second
                fun z e => z.Touches d.authority e) →
              (x.runCall before caller c after).exchange.now <
                  d.expiresAt →
                ∀ retry c',
                  Authority.normalize c'.authority =
                      .ok d.authority →
                    ((x.runCall before caller c after).step
                        (.call retry c')).exchange =
                      (x.runCall before caller c
                        after).exchange.settle retry
                          ⟨fetch, .ok d⟩)

/-
  Every call that is made once is a composition of its stages,
  in every run.
-/
theorem run_isComposition
    (ds : DiscoverySettings)
    (now : Moment)
    (store : CertificateStore)
    (settings : AssertionSettings)
    (source : TokenSource)
    (hDistinct :
      Exchange.DistinctCallers
        (discovery before ++
          .get caller c.authority :: discovery after)) :
    (start ds now store settings source).IsComposition before caller c
      after := by
  have hAlone :=
    exchange_runCall (start ds now store settings source) before caller c
      after
  refine ⟨hAlone, fun _ => composed_run hDistinct, ?_, ?_, ?_, ?_⟩
  · intro o hCall hTold
    have hService := advance_undisturbed hCall hTold
    have hSettings :
        ((start ds now store settings source).runCall before caller c
          after).settings = settings :=
      settings_run _ _
    rw [hSettings] at hService
    exact hService
  · rintro first second result rfl hGave hStays hOften
    rcases run_remaining hDistinct hStays hGave with
      ⟨s, hCall, hKept, hCount⟩
    rcases ended_of_remaining (by omega) hKept with ⟨r, rfl⟩
    exact ⟨r, result?_of_ended hCall⟩
  · intro a hResult
    rcases (composed_run hDistinct hResult).audience with
      ⟨d, first, second, claims, rfl, hGave, hClaims, hAudience⟩
    rw [runCall_run] at hGave
    exact ⟨d, claims, gives_append hDistinct hGave, hClaims, hAudience⟩
  · intro fetch d hTold
    rw [hAlone] at hTold
    refine ⟨Exchange.document_authority hDistinct hTold, ?_⟩
    rcases Exchange.document_kept hDistinct hTold with
      ⟨first, e, second, n, hEvents, hFetch, hBrought, hKept⟩
    refine ⟨first, e, second, n, hEvents, hFetch, hBrought, ?_⟩
    intro hAway hFresh retry c' hKey
    rw [hAlone] at hFresh ⊢
    change
      ((start ds now store settings source).runCall before caller c
          after).exchange.get retry c'.authority = _
    rw [hAlone]
    exact hKept hAway hFresh retry c'.authority hKey

end Start

end Library

deriving instance DecidableEq for ClientAssertion

/- A source that always gives the same. -/
def sampleSource : TokenSource :=
  ⟨fun _ => "", fun _ _ => 0, 0⟩

/- A call without a secret. -/
def sampleCall : AssertionCall :=
  ⟨some "http://a/", "c", none⟩

/- This call fails after the lookup and is a composition all the same. -/
theorem isComposition_of_sampleCall :
    (start {} .epoch (.memory {}) {} sampleSource).IsComposition [] 1
        sampleCall
        [.discovery (.answer 0 Exchange.sampleReply),
          .discovery (.finish 0), .advance 1, .advance 1] ∧
      ((start {} .epoch (.memory {}) {} sampleSource).runCall [] 1
          sampleCall
          [.discovery (.answer 0 Exchange.sampleReply),
            .discovery (.finish 0), .advance 1,
            .advance 1]).result? 1 =
        some (.error (.secret .empty)) := by
  refine ⟨run_isComposition _ _ _ _ _ ?_, ?_⟩
  · exact List.nodup_singleton 1
  · decide +kernel

end Issuance

end KeyAssertion
