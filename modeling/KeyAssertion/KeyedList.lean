/-
  This file defines lists of values with textual keys, in which
  a lookup gives the first value of its key.

  Key definitions include:
    * `KeyedList`
    * `KeyedList.drop`
    * `KeyedList.put`

  Lookups after a change are described by:
    * `KeyedList.lookup_drop_self`
    * `KeyedList.lookup_drop_of_ne`
    * `KeyedList.lookup_put_self`
    * `KeyedList.lookup_put_of_ne`

  What a list holds after a change is described by:
    * `KeyedList.mem_drop_iff`
    * `KeyedList.mem_put_iff`
    * `KeyedList.mem_iff_lookup`
    * `KeyedList.lookup_eq_some_of_unique`
-/

namespace KeyAssertion

/- Values with their keys. -/
abbrev KeyedList (α : Type) :=
  List (String × α)

namespace KeyedList

variable {α : Type}

/- A list without the values of a key. -/
def drop
    (key : String)
    (l : KeyedList α) : KeyedList α :=
  l.filter fun p => p.1 != key

/- A list in which a key has one value. -/
def put
    (key : String)
    (value : α)
    (l : KeyedList α) : KeyedList α :=
  (key, value) :: drop key l

section Keys

variable {κ : Type} [BEq κ] [LawfulBEq κ]

/- A value that is looked up is in the list. -/
theorem mem_of_lookup
    {key : κ}
    {value : α}
    {l : List (κ × α)}
    (h : l.lookup key = some value) :
    (key, value) ∈ l := by
  rcases List.lookup_eq_some_iff.mp h with ⟨front, back, hEq, _⟩
  rw [hEq]
  exact List.mem_append_right front List.mem_cons_self

/- A key without a pair has no value. -/
theorem lookup_eq_none_of_not_mem
    {key : κ}
    {l : List (κ × α)}
    (h : ∀ v, (key, v) ∉ l) :
    l.lookup key = none := by
  cases hThere : l.lookup key with
  | none => rfl
  | some v => exact absurd (mem_of_lookup hThere) (h v)

/- The only value of a key is looked up. -/
theorem lookup_eq_some_of_unique
    {key : κ}
    {value : α}
    {l : List (κ × α)}
    (hMem : (key, value) ∈ l)
    (hOnly : ∀ other, (key, other) ∈ l → other = value) :
    l.lookup key = some value := by
  cases hLookup : l.lookup key with
  | none =>
      have hNone := List.lookup_eq_none_iff.mp hLookup _ hMem
      simp at hNone
  | some other => rw [hOnly other (mem_of_lookup hLookup)]

/- A key has no value when its values are left out. -/
theorem lookup_filter_self
    (key : κ)
    (l : List (κ × α)) :
    (l.filter fun p => p.1 != key).lookup key = none := by
  rw [List.lookup_eq_none_iff]
  intro p hp
  have hNe : p.1 ≠ key := by
    simpa using (List.mem_filter.1 hp).2
  simpa using hNe.symm

/- The other keys keep their values when those of one are left out. -/
theorem lookup_filter_of_ne
    (key other : κ)
    (l : List (κ × α))
    (h : other ≠ key) :
    (l.filter fun p => p.1 != key).lookup other = l.lookup other := by
  induction l with
  | nil => rfl
  | cons p rest ih =>
      by_cases hp : p.1 = key
      · have hOther : (other == p.1) = false := by
          simpa [hp] using h
        rw [List.filter_cons_of_neg (by simpa using hp), ih,
          List.lookup_cons, hOther]
      · rw [List.filter_cons_of_pos (by simpa using hp),
          List.lookup_cons, List.lookup_cons, ih]

end Keys

/- A key that was dropped has no value. -/
theorem lookup_drop_self
    (key : String)
    (l : KeyedList α) :
    (drop key l).lookup key = none :=
  lookup_filter_self key l

/- The other keys keep their values when one is dropped. -/
theorem lookup_drop_of_ne
    (key other : String)
    (l : KeyedList α)
    (h : other ≠ key) :
    (drop key l).lookup other = l.lookup other :=
  lookup_filter_of_ne key other l h

/- A key has the value that was put. -/
theorem lookup_put_self
    (key : String)
    (value : α)
    (l : KeyedList α) :
    (put key value l).lookup key = some value := by
  simp [put]

/- The other keys keep their values when one is put. -/
theorem lookup_put_of_ne
    (key other : String)
    (value : α)
    (l : KeyedList α)
    (h : other ≠ key) :
    (put key value l).lookup other = l.lookup other := by
  have hKey : (other == key) = false := by
    simpa using h
  rw [put, List.lookup_cons, hKey]
  exact lookup_drop_of_ne key other l h

/- Dropping a key leaves the values of the other keys. -/
theorem mem_drop_iff
    (key : String)
    (l : KeyedList α)
    (p : String × α) :
    p ∈ drop key l ↔ p ∈ l ∧ p.1 ≠ key := by
  simp [drop]

/- Putting a value leaves the values of the other keys beside it. -/
theorem mem_put_iff
    (key : String)
    (value : α)
    (l : KeyedList α)
    (p : String × α) :
    p ∈ put key value l ↔
      p = (key, value) ∨ p ∈ l ∧ p.1 ≠ key := by
  rw [put, List.mem_cons, mem_drop_iff]

end KeyedList

end KeyAssertion
