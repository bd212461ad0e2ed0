import KeyAssertion.Proofs.Discovery.Freshness

/-
  A caller that leaves, whether its time is over or it is
  cancelled, leaves alone: what everybody else comes to, what
  is sent and what the cache holds are as if it had stayed.

  Key definitions include:
    * `Exchange.apartFrom`

  Key theorems include:
    * `Exchange.step_apartFrom`
    * `Exchange.run_apartFrom`
    * `Exchange.departure_is_own`
-/

namespace KeyAssertion

namespace Exchange

/- An exchange without what one caller waits for and has come to. -/
def apartFrom
    (x : Exchange)
    (caller : Nat) : Exchange :=
  { x with
    waiting := x.waiting.filter fun w => w.1 != caller
    outcomes := x.outcomes.filter fun w => w.1 != caller }

variable (x : Exchange) (caller : Nat)

/- Another caller is told the same apart from this one. -/
theorem outcome?_apartFrom
    {other : Nat}
    (hOther : other ≠ caller) :
    (x.apartFrom caller).outcome? other = x.outcome? other :=
  KeyedList.lookup_filter_of_ne caller other x.outcomes hOther

/- To leave out a caller again changes nothing. -/
theorem apartFrom_apartFrom :
    (x.apartFrom caller).apartFrom caller = x.apartFrom caller := by
  simp [apartFrom, List.filter_filter]

------------------------------------------------------------
-- Single Changes
------------------------------------------------------------

/- What a caller comes to is its own. -/
theorem settle_apartFrom
    (c : Nat)
    (o : Outcome) :
    (x.settle c o).apartFrom caller =
      ((x.apartFrom caller).settle c o).apartFrom caller := by
  simp [settle, apartFrom, List.filter_cons, List.filter_filter]

/- What a caller waits for is its own. -/
theorem wait_apartFrom
    (c n : Nat) :
    (x.wait c n).apartFrom caller =
      ((x.apartFrom caller).wait c n).apartFrom caller := by
  simp [wait, apartFrom, List.filter_append, List.filter_filter]

/- A caller that leaves changes nothing but what is its own. -/
theorem depart_apartFrom_self
    (d : Departure) :
    (x.depart caller d).apartFrom caller = x.apartFrom caller := by
  simp [depart, settle, apartFrom, List.filter_filter]

/- The departure of another caller is the same apart from this one. -/
theorem depart_apartFrom
    (c : Nat)
    (d : Departure) :
    (x.depart c d).apartFrom caller =
      ((x.apartFrom caller).depart c d).apartFrom caller := by
  simp [depart, settle, apartFrom, List.filter_cons,
    List.filter_filter, Bool.and_comm]

/- A fetch is joined in the same way. -/
theorem join_apartFrom
    (c n : Nat) :
    (x.join c n).apartFrom caller =
      ((x.apartFrom caller).join c n).apartFrom caller := by
  have hSame : (x.apartFrom caller).result? n = x.result? n := rfl
  unfold join
  rw [hSame]
  cases x.result? n with
  | some result => exact x.settle_apartFrom caller c _
  | none => exact x.wait_apartFrom caller c n

/- A fetch comes to the same result and leaves the same. -/
theorem conclude_apartFrom
    (f : Fetch)
    (reply : HttpReply) :
    (x.conclude f reply).apartFrom caller =
      ((x.apartFrom caller).conclude f reply).apartFrom caller := by
  have hResult :
      (x.apartFrom caller).resultOf f reply = x.resultOf f reply :=
    rfl
  unfold conclude
  rw [hResult]
  simp [apartFrom, List.filter_filter]

/- Its callback tells the same to all others. -/
theorem complete_apartFrom
    (f : Fetch)
    (result : Except CacheError DiscoveryDocument) :
    (x.complete f result).apartFrom caller =
      ((x.apartFrom caller).complete f result).apartFrom caller := by
  simp [complete, apartFrom, List.partition_eq_filter_filter,
    List.filter_append, List.filter_filter, List.filter_map,
    Function.comp_def, Bool.and_comm]

------------------------------------------------------------
-- Events
------------------------------------------------------------

/- A call goes the same way apart from any one caller. -/
private theorem get_apartFrom
    (c : Nat)
    (authority : Option String) :
    (x.get c authority).apartFrom caller =
      ((x.apartFrom caller).get c authority).apartFrom caller := by
  cases hKey : Authority.normalize authority with
  | error fault =>
      simp only [get, hKey]
      exact x.settle_apartFrom caller c _
  | ok key =>
      have hSame :
          (x.apartFrom caller).cache.lookup
              (x.apartFrom caller).now key =
            x.cache.lookup x.now key :=
        rfl
      rcases hFound : x.cache.lookup x.now key with ⟨cache, found⟩
      simp only [get, hKey, hSame, hFound]
      cases found with
      | hit e => exact x.settle_apartFrom caller c _
      | joined n => exact x.join_apartFrom caller c n
      | started n =>
          exact (x.launch cache key n).wait_apartFrom caller c n

/- A departure, if it is one, is its caller's own. -/
private theorem leave_apartFrom
    (c : Nat)
    (d : Departure) :
    (x.leave c d).apartFrom caller =
      ((x.apartFrom caller).leave c d).apartFrom caller := by
  by_cases hOther : c = caller
  · subst hOther
    have hGone : (x.apartFrom c).waiting.lookup c = none :=
      KeyedList.lookup_filter_self c x.waiting
    have hStays : (x.apartFrom c).leave c d = x.apartFrom c := by
      simp [leave, hGone]
    rw [hStays, apartFrom_apartFrom]
    unfold leave
    split
    · exact x.depart_apartFrom_self c d
    · rfl
  · have hSame :
        (x.apartFrom caller).waiting.lookup c = x.waiting.lookup c :=
      KeyedList.lookup_filter_of_ne caller c x.waiting hOther
    unfold leave
    rw [hSame]
    split
    · exact x.depart_apartFrom caller c d
    · exact (x.apartFrom_apartFrom caller).symm

/- A reply is to the same fetch apart from any one caller. -/
private theorem answer_apartFrom
    (n : Nat)
    (reply : HttpReply) :
    (x.answer n reply).apartFrom caller =
      ((x.apartFrom caller).answer n reply).apartFrom caller := by
  have hRunning : (x.apartFrom caller).running = x.running := rfl
  have hResult : (x.apartFrom caller).result? n = x.result? n := rfl
  unfold answer
  rw [hRunning, hResult]
  split
  · exact (x.apartFrom_apartFrom caller).symm
  · split
    · exact (x.apartFrom_apartFrom caller).symm
    · exact x.conclude_apartFrom caller _ reply

/- So is the call of a callback. -/
private theorem finish_apartFrom
    (n : Nat) :
    (x.finish n).apartFrom caller =
      ((x.apartFrom caller).finish n).apartFrom caller := by
  have hRunning : (x.apartFrom caller).running = x.running := rfl
  have hResult : (x.apartFrom caller).result? n = x.result? n := rfl
  unfold finish
  rw [hRunning, hResult]
  split
  · exact (x.apartFrom_apartFrom caller).symm
  · split
    · exact x.complete_apartFrom caller _ _
    · exact (x.apartFrom_apartFrom caller).symm

/- A new state of the cache comes in, or not, whoever waits. -/
private theorem change_apartFrom
    (r : Except CacheError DiscoveryCache) :
    (x.change r).1.apartFrom caller =
        ((x.apartFrom caller).change r).1.apartFrom caller ∧
      (x.change r).2 = ((x.apartFrom caller).change r).2 := by
  cases r with
  | error e => exact ⟨(x.apartFrom_apartFrom caller).symm, rfl⟩
  | ok cache =>
      refine ⟨?_, rfl⟩
      simp [change, apartFrom, List.filter_filter]

/-
  What an event does apart from a caller, and whether it is
  refused, does not depend on this caller.
-/
theorem step_apartFrom
    (e : Event) :
    (x.step e).1.apartFrom caller =
        ((x.apartFrom caller).step e).1.apartFrom caller ∧
      (x.step e).2 = ((x.apartFrom caller).step e).2 := by
  cases e with
  | get c authority => exact ⟨x.get_apartFrom caller c authority, rfl⟩
  | leave c d => exact ⟨x.leave_apartFrom caller c d, rfl⟩
  | answer n reply => exact ⟨x.answer_apartFrom caller n reply, rfl⟩
  | finish n => exact ⟨x.finish_apartFrom caller n, rfl⟩
  | configure authority d =>
      exact x.change_apartFrom caller (x.cache.configure authority d)
  | invalidate authority =>
      exact x.change_apartFrom caller (x.cache.invalidate authority)
  | clear =>
      exact x.change_apartFrom caller (.ok x.cache.clear)
  | setClock now =>
      refine ⟨?_, rfl⟩
      simp [step, apartFrom, List.filter_filter]

------------------------------------------------------------
-- Runs
------------------------------------------------------------

/- What a run does apart from a caller does not depend on it. -/
theorem run_apartFrom
    (events : List Event) :
    (x.run events).apartFrom caller =
      ((x.apartFrom caller).run events).apartFrom caller := by
  induction events generalizing x with
  | nil => exact (x.apartFrom_apartFrom caller).symm
  | cons e events ih =>
      rw [run_cons, run_cons, ih, (x.step_apartFrom caller e).1, ← ih]

/- Runs that differ in one caller go on to differ in it only. -/
theorem run_apartFrom_congr
    {x y : Exchange}
    (hSame : x.apartFrom caller = y.apartFrom caller)
    (events : List Event) :
    (x.run events).apartFrom caller =
      (y.run events).apartFrom caller := by
  rw [run_apartFrom x, run_apartFrom y, hSame]

/-
  Two exchanges agree on everything but one caller: on the
  cache, the clock, the fetches that run and their results, the
  requests in their order, what the others wait for and have
  come to, and on what is refused.
-/
structure AgreeBut
    (caller : Nat)
    (x y : Exchange) : Prop where
  cache : x.cache = y.cache
  now : x.now = y.now
  running : x.running = y.running
  results : x.results = y.results
  requests : x.requests = y.requests
  waiting :
    (x.waiting.filter fun w => w.1 != caller) =
      y.waiting.filter fun w => w.1 != caller
  outcomes :
    (x.outcomes.filter fun w => w.1 != caller) =
      y.outcomes.filter fun w => w.1 != caller
  told :
    ∀ other, other ≠ caller → x.outcome? other = y.outcome? other
  refused : ∀ e, (x.step e).2 = (y.step e).2

/- What is the same apart from a caller agrees on all but it. -/
theorem AgreeBut.of_apartFrom
    {x y : Exchange}
    (hSame : x.apartFrom caller = y.apartFrom caller) :
    AgreeBut caller x y := by
  refine
    ⟨(congrArg Exchange.cache hSame :),
      (congrArg Exchange.now hSame :),
      (congrArg Exchange.running hSame :),
      (congrArg Exchange.results hSame :),
      (congrArg Exchange.requests hSame :),
      (congrArg Exchange.waiting hSame :),
      (congrArg Exchange.outcomes hSame :), ?_, ?_⟩
  · intro other hOther
    rw [← outcome?_apartFrom x caller hOther, hSame,
      outcome?_apartFrom y caller hOther]
  · intro e
    rw [(x.step_apartFrom caller e).2, hSame,
      ← (y.step_apartFrom caller e).2]

/- A caller that waits leaves when it is to leave. -/
theorem run_leave
    {before : List Event}
    (hWaits : (x.run before).Waits caller)
    (d : Departure) :
    x.run (before ++ [.leave caller d]) =
      (x.run before).depart caller d := by
  have hMove := run_move x before (.leave caller d)
  generalize x.run (before ++ [.leave caller d]) = y at hMove ⊢
  cases hMove with
  | left _ => rfl
  | absent hAway => exact absurd hWaits hAway

/-
  The run in which a caller that waits leaves and the run in
  which it does not agree on everything else after every event.
  The caller has come to its departure.  A wait that is over as
  soon as it begins is a departure right after the call.
-/
theorem departure_is_own
    (x : Exchange)
    (before after : List Event)
    {caller : Nat}
    (d : Departure)
    (hWaits : (x.run before).Waits caller) :
    AgreeBut caller
        (x.run (before ++ .leave caller d :: after))
        (x.run (before ++ after)) ∧
      ¬ (x.run (before ++ [.leave caller d])).Waits caller ∧
      (x.run (before ++ [.leave caller d])).outcome? caller =
        some d.outcome := by
  rw [run_append_cons, run_leave x caller hWaits, run_append]
  refine ⟨?_, ?_, ?_⟩
  · apply AgreeBut.of_apartFrom
    apply run_apartFrom_congr
    exact (x.run before).depart_apartFrom_self caller d
  · rintro ⟨n, hMem⟩
    simp [depart, settle] at hMem
  · simp [depart, settle, outcome?]

/- The fetch that a caller began goes on when its time is over. -/
theorem departure_is_own_of_first :
    ((start {} .epoch).run [.get 1 (some "http://a")]).Waits 1 ∧
      AgreeBut 1
        ((start {} .epoch).run
          ([.get 1 (some "http://a")] ++
            .leave 1 .timedOut ::
              [.answer 0 sampleReply, .finish 0,
                .get 2 (some "http://a/")]))
        ((start {} .epoch).run
          ([.get 1 (some "http://a")] ++
            [.answer 0 sampleReply, .finish 0,
              .get 2 (some "http://a/")])) ∧
      ¬ ((start {} .epoch).run
        ([.get 1 (some "http://a")] ++
          [.leave 1 .timedOut])).Waits 1 ∧
      ((start {} .epoch).run
        ([.get 1 (some "http://a")] ++
          [.leave 1 .timedOut])).outcome? 1 =
            some (Departure.timedOut).outcome := by
  have hWaits :
      ((start {} .epoch).run [.get 1 (some "http://a")]).Waits 1 :=
    ⟨0, by decide +kernel⟩
  exact ⟨hWaits, departure_is_own _ _ _ .timedOut hWaits⟩

end Exchange

end KeyAssertion
