/-
  This file describes attempts that may fail, one after the
  other, by when they come to a value and when they fail.

  Lemmas include:
    * `Attempt.throw_eq`
    * `Attempt.bind_eq_ok_iff`
    * `Attempt.bind_eq_error_iff`
    * `Attempt.map_eq_ok_iff`
    * `Attempt.map_eq_error_iff`
    * `Attempt.map_map`
    * `Attempt.mapError_eq_ok_iff`
    * `Attempt.mapError_eq_error_iff`
    * `Attempt.toOption_eq_some_iff`
-/

namespace KeyAssertion

namespace Attempt

variable {ε ε' α β γ : Type}

/- To give up is to fail. -/
@[simp]
theorem throw_eq (e : ε) :
    (throw e : Except ε α) = .error e :=
  rfl

/- Two attempts in a row succeed if the one and the other do. -/
theorem bind_eq_ok_iff
    (r : Except ε α)
    (f : α → Except ε β)
    (b : β) :
    r >>= f = .ok b ↔ ∃ a, r = .ok a ∧ f a = .ok b := by
  cases r with
  | error e => simp [bind, Except.bind]
  | ok a => simp [bind, Except.bind]

/- Two attempts in a row fail if the one or the other does. -/
theorem bind_eq_error_iff
    (r : Except ε α)
    (f : α → Except ε β)
    (e : ε) :
    r >>= f = .error e ↔
      r = .error e ∨ ∃ a, r = .ok a ∧ f a = .error e := by
  cases r with
  | error e' => simp [bind, Except.bind]
  | ok a => simp [bind, Except.bind]

/- An attempt that gives values another form succeeds as before. -/
theorem map_eq_ok_iff
    (f : α → β)
    (r : Except ε α)
    (b : β) :
    r.map f = .ok b ↔ ∃ a, r = .ok a ∧ f a = b := by
  cases r with
  | error e => simp [Except.map]
  | ok a => simp [Except.map]

/- It fails as before. -/
theorem map_eq_error_iff
    (f : α → β)
    (r : Except ε α)
    (e : ε) :
    r.map f = .error e ↔ r = .error e := by
  cases r with
  | error e' => simp [Except.map]
  | ok a => simp [Except.map]

/- To give values two forms in a row is to give them one. -/
theorem map_map
    (f : α → β)
    (g : β → γ)
    (r : Except ε α) :
    (r.map f).map g = r.map fun a => g (f a) := by
  cases r with
  | error e => rfl
  | ok a => rfl

/- An attempt that gives errors another form succeeds as before. -/
theorem mapError_eq_ok_iff
    (f : ε → ε')
    (r : Except ε α)
    (a : α) :
    r.mapError f = .ok a ↔ r = .ok a := by
  cases r with
  | error e =>
      constructor
      · intro h
        cases h
      · intro h
        cases h
  | ok a' =>
      constructor
      · intro h
        cases h
        rfl
      · intro h
        cases h
        rfl

/- It fails as before, with the error in the other form. -/
theorem mapError_eq_error_iff
    (f : ε → ε')
    (r : Except ε α)
    (e' : ε') :
    r.mapError f = .error e' ↔ ∃ e, r = .error e ∧ f e = e' := by
  cases r with
  | error e =>
      constructor
      · intro h
        cases h
        exact ⟨e, rfl, rfl⟩
      · rintro ⟨_, h, rfl⟩
        cases h
        rfl
  | ok a =>
      constructor
      · intro h
        cases h
      · rintro ⟨_, h, _⟩
        cases h

/- Its value is there if it succeeds. -/
theorem toOption_eq_some_iff
    (r : Except ε α)
    (a : α) :
    r.toOption = some a ↔ r = .ok a := by
  cases r with
  | error e => simp [Except.toOption]
  | ok a' => simp [Except.toOption]

end Attempt

end KeyAssertion
