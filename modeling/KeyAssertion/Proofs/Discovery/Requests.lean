import KeyAssertion.Proofs.Discovery.History

/-
  The requests of a run: each belongs to one fetch, is sent by
  the call that starts the fetch, and is answered when the
  fetch comes to its result.

  Key definitions include:
    * `Exchange.Answered`
    * `Exchange.Unanswered`
    * `Exchange.Called`

  Key theorems include:
    * `Exchange.requests_nodup`
    * `Exchange.unanswered_pending`
    * `Exchange.running_requested`
    * `Exchange.running_called`
-/

namespace KeyAssertion

namespace Exchange

/- After a request was sent there was a reply to its fetch. -/
def Answered
    (x : Exchange)
    (events : List Event)
    (r : SentRequest) : Prop :=
  x.Happened events fun y e =>
    r ∈ y.requests ∧ ∃ reply, e = .answer r.fetch reply

/- A request was sent and there has been no reply since. -/
def Unanswered
    (x : Exchange)
    (events : List Event)
    (r : SentRequest) : Prop :=
  r ∈ (x.run events).requests ∧ ¬ x.Answered events r

/- Some call was for an authority with a certain normal form. -/
def Called
    (events : List Event)
    (key : String) : Prop :=
  ∃ caller authority,
    .get caller authority ∈ events ∧
      Authority.normalize authority = .ok key

/- A call stays made. -/
theorem Called.append
    {es : List Event}
    {key : String}
    (h : Called es key)
    (fs : List Event) :
    Called (es ++ fs) key := by
  rcases h with ⟨caller, authority, hMem, hKey⟩
  exact
    ⟨caller, authority, List.mem_append_left _ hMem, hKey⟩

/- What was sent stays sent. -/
theorem Move.mem_requests
    {x y : Exchange}
    {e : Event}
    (hMove : Move x e y)
    {r : SentRequest}
    (hSent : r ∈ x.requests) :
    r ∈ y.requests := by
  rcases hMove.fetches_cases with
    hSame | ⟨_, _, _, _, _, _, _, rfl⟩ | ⟨_, _, _, _, rfl⟩ |
      ⟨_, _, _, _, rfl⟩
  · rw [hSame.requests]
    exact hSent
  · exact List.mem_append_left _ hSent
  · exact hSent
  · exact hSent

section Start

variable {settings : DiscoverySettings} {now : Moment}
variable {events : List Event}

/- A request has the number of a fetch that has started. -/
theorem request_numbered
    {r : SentRequest}
    (hSent : r ∈ ((start settings now).run events).requests) :
    r.fetch <
      ((start settings now).run events).cache.nextFetch := by
  revert hSent
  refine run_induction
    (P := fun _ y =>
      r ∈ y.requests → r.fetch < y.cache.nextFetch)
    ?_ ?_ events
  · intro hSent
    cases hSent
  · intro es e y ih hMove hSent
    rcases hMove.fetches_cases with
      hSame | ⟨_, _, key, _, _, _, _, rfl⟩ | ⟨_, _, _, _, rfl⟩ |
        ⟨_, _, _, _, rfl⟩
    · rw [hSame.requests] at hSent
      rw [hSame.nextFetch]
      exact ih hSent
    · rcases List.mem_append.mp hSent with hOld | hNew
      · exact Nat.lt_succ_of_lt (ih hOld)
      · rcases (mem_requestOf_iff _ _ _).mp hNew with
          ⟨u, _, rfl⟩
        exact Nat.lt_succ_self _
    · exact Nat.lt_of_lt_of_le (ih hSent) hMove.nextFetch_le
    · exact Nat.lt_of_lt_of_le (ih hSent) hMove.nextFetch_le

/- No two requests are for the same fetch. -/
theorem requests_nodup :
    (((start settings now).run events).requests.map
      SentRequest.fetch).Nodup := by
  refine run_induction
    (P := fun _ y => (y.requests.map SentRequest.fetch).Nodup)
    ?_ ?_ events
  · exact List.nodup_nil
  · intro es e y ih hMove
    rcases hMove.fetches_cases with
      hSame | ⟨_, _, key, _, _, _, _, rfl⟩ | ⟨_, _, _, _, rfl⟩ |
        ⟨_, _, _, _, rfl⟩
    · rw [hSame.requests]
      exact ih
    · change
        (List.map SentRequest.fetch (_ ++ requestOf key _)).Nodup
      rw [List.map_append]
      refine List.nodup_append.mpr ⟨ih, ?_, ?_⟩
      · unfold requestOf
        split <;> simp
      · intro a hOld b hNew hEq
        rcases List.mem_map.mp hOld with ⟨r, hr, rfl⟩
        rcases List.mem_map.mp hNew with ⟨r', hr', rfl⟩
        rcases (mem_requestOf_iff _ _ _).mp hr' with ⟨_, _, rfl⟩
        exact Nat.ne_of_lt (request_numbered hr) hEq
    · exact ih
    · exact ih

/- A request that nobody has answered is for a pending fetch. -/
theorem unanswered_pending
    {r : SentRequest}
    (hOpen : (start settings now).Unanswered events r) :
    ((start settings now).run events).Pending
      ⟨r.fetch, r.authority⟩ := by
  have hAll :
      r ∈ ((start settings now).run events).requests →
        ((start settings now).run events).Pending
            ⟨r.fetch, r.authority⟩ ∨
          (start settings now).Answered events r := by
    refine run_induction
      (P := fun es y =>
        r ∈ y.requests →
          y.Pending ⟨r.fetch, r.authority⟩ ∨
            (start settings now).Answered es r)
      ?_ ?_ events
    · intro hSent
      cases hSent
    · intro es e y ih hMove hSent
      rcases hMove.fetches_cases with
        hSame | ⟨_, _, key, _, _, _, _, rfl⟩ |
          ⟨f, reply, _, rfl, rfl⟩ | ⟨f, _, hLanded, rfl, rfl⟩
      · rw [hSame.requests] at hSent
        refine (ih hSent).imp ?_ fun h => h.append [e]
        unfold Pending result?
        rw [hSame.running, hSame.results]
        exact id
      · have hConsistent := run_consistent settings now es
        rcases List.mem_append.mp hSent with hOld | hNew
        · refine (ih hOld).imp ?_ fun h => h.append [_]
          exact And.imp_left (List.mem_append_left _)
        · rcases (mem_requestOf_iff _ _ _).mp hNew with
            ⟨u, _, rfl⟩
          refine Or.inl
            ⟨List.mem_append_right _ (List.mem_singleton.mpr rfl), ?_⟩
          exact hConsistent.result?_eq_none_of_le (Nat.le_refl _)
      · by_cases hNumber : r.fetch = f.number
        · apply Or.inr
          apply (happened_concat_iff es _).mpr
          exact Or.inr ⟨hSent, reply, by rw [hNumber]⟩
        · refine (ih hSent).imp ?_ fun h => h.append [_]
          refine And.imp_right fun hNone => ?_
          rw [← hNone]
          exact result?_conclude_of_ne _ f reply hNumber
      · refine (ih hSent).imp ?_ fun h => h.append [_]
        intro hPending
        have hNumber : r.fetch ≠ f.number := by
          intro hSame
          have hResult := hLanded.2
          rw [← hSame, hPending.2] at hResult
          cases hResult
        refine
          ⟨mem_running_complete.mpr ⟨hPending.1, hNumber⟩, ?_⟩
        rw [result?_complete_of_ne _ f _ hNumber]
        exact hPending.2
  exact (hAll hOpen.1).resolve_right hOpen.2

/- The request of a fetch that runs has been sent. -/
theorem running_requested
    {f : Fetch}
    (hRuns : f ∈ ((start settings now).run events).running)
    {r : SentRequest}
    (hRequest : r ∈ requestOf f.authority f.number) :
    r ∈ ((start settings now).run events).requests := by
  revert hRuns
  refine run_induction
    (P := fun _ y => f ∈ y.running → r ∈ y.requests)
    ?_ ?_ events
  · intro hRuns
    cases hRuns
  · intro es e y ih hMove hRuns
    rcases hMove.fetches_cases with
      hSame | ⟨_, _, key, _, _, _, _, rfl⟩ | ⟨_, _, _, _, rfl⟩ |
        ⟨_, _, _, _, rfl⟩
    · rw [hSame.running] at hRuns
      exact hMove.mem_requests (ih hRuns)
    · rcases List.mem_append.mp hRuns with hOld | hNew
      · exact hMove.mem_requests (ih hOld)
      · rw [List.mem_singleton.mp hNew] at hRequest
        exact List.mem_append_right _ hRequest
    · exact ih hRuns
    · exact ih (mem_running_complete.mp hRuns).1

/- A fetch that runs is for an authority that was called for. -/
theorem running_called
    {f : Fetch}
    (hRuns : f ∈ ((start settings now).run events).running) :
    Called events f.authority := by
  revert hRuns
  refine run_induction
    (P := fun es y => f ∈ y.running → Called es f.authority)
    ?_ ?_ events
  · intro hRuns
    cases hRuns
  · intro es e y ih hMove hRuns
    rcases hMove.fetches_cases with
      hSame | ⟨caller, authority, key, rfl, hKey, _, _, rfl⟩ |
        ⟨_, _, _, _, rfl⟩ | ⟨_, _, _, _, rfl⟩
    · rw [hSame.running] at hRuns
      exact (ih hRuns).append [e]
    · rcases List.mem_append.mp hRuns with hOld | hNew
      · exact (ih hOld).append [_]
      · rw [List.mem_singleton.mp hNew]
        exact ⟨caller, authority, by simp, hKey⟩
    · exact (ih hRuns).append [_]
    · exact (ih (mem_running_complete.mp hRuns).1).append [_]

end Start

end Exchange

end KeyAssertion
