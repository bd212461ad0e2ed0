import KeyAssertion.Proofs.Json.Reading

/-
  Objects whose members are put in order of names: they have
  the same members as before and can be read like before.

  Key theorems include:
    * `Json.mem_sortedMembers_iff`
    * `Json.readable_sorted`
    * `Json.member?_sortedMembers`
-/

namespace KeyAssertion

namespace JsonObject

/- In an object of different names a member is found by its name. -/
theorem member?_eq_some_iff
    {members : JsonObject}
    (h : (members.map Prod.fst).Nodup)
    (name : String)
    (v : Json) :
    members.member? name = some v ↔ (.text name, v) ∈ members := by
  induction members with
  | nil => simp [member?]
  | cons m rest ih =>
      rw [List.map_cons, List.nodup_cons] at h
      rw [member?_cons, List.mem_cons]
      by_cases hName : m.1 = .text name
      · have hAbsent : (.text name, v) ∉ rest := by
          intro hMem
          apply h.1
          rw [hName]
          exact List.mem_map_of_mem hMem
        rw [if_pos hName, Option.some.injEq]
        constructor
        · rintro rfl
          exact .inl (by rw [← hName])
        · rintro (hHead | hMem)
          · rw [← hHead]
          · exact absurd hMem hAbsent
      · rw [if_neg hName, ih h.2]
        constructor
        · exact .inr
        · rintro (hHead | hMem)
          · rw [← hHead] at hName
            exact absurd rfl hName
          · exact hMem

end JsonObject

namespace Json

------------------------------------------------------------
-- Members
------------------------------------------------------------

/- Inserting a member in order changes the order only. -/
theorem insertSorted_perm
    (m : JsonString × Json)
    (members : List (JsonString × Json)) :
    (insertSorted m members).Perm (m :: members) := by
  induction members with
  | nil => exact List.Perm.refl _
  | cons x rest ih =>
      unfold insertSorted
      split
      · exact List.Perm.refl _
      · exact (ih.cons x).trans (List.Perm.swap m x rest)

/- Sorting members sorts the value of each and changes the order. -/
theorem sortedMembers_perm (members : List (JsonString × Json)) :
    (sortedMembers members).Perm
      (members.map fun m => (m.1, sorted m.2)) := by
  induction members with
  | nil => exact List.Perm.refl _
  | cons m rest ih =>
      rcases m with ⟨k, v⟩
      unfold sortedMembers
      exact (insertSorted_perm _ _).trans (ih.cons _)

/- A member of the sorted list is a member before, its value sorted. -/
theorem mem_sortedMembers_iff
    (members : List (JsonString × Json))
    (name : JsonString)
    (v : Json) :
    (name, v) ∈ sortedMembers members ↔
      ∃ w, (name, w) ∈ members ∧ sorted w = v := by
  rw [(sortedMembers_perm members).mem_iff, List.mem_map]
  constructor
  · rintro ⟨⟨k, w⟩, hMem, hEq⟩
    cases hEq
    exact ⟨w, hMem, rfl⟩
  · rintro ⟨w, hMem, rfl⟩
    exact ⟨(name, w), hMem, rfl⟩

/- The names stay different from each other. -/
theorem nodup_sortedMembers_iff (members : List (JsonString × Json)) :
    ((sortedMembers members).map Prod.fst).Nodup ↔
      (members.map Prod.fst).Nodup := by
  rw [((sortedMembers_perm members).map Prod.fst).nodup_iff,
    List.map_map]
  rfl

/- A member is found like before, its value sorted. -/
theorem member?_sortedMembers
    {members : JsonObject}
    (h : (members.map Prod.fst).Nodup)
    (name : String) :
    JsonObject.member? (sortedMembers members) name =
      (members.member? name).map sorted := by
  apply Option.ext
  intro v
  rw [JsonObject.member?_eq_some_iff
      ((nodup_sortedMembers_iff members).mpr h),
    mem_sortedMembers_iff, Option.map_eq_some_iff]
  simp only [JsonObject.member?_eq_some_iff h]

/- The same holds if an absent member is taken for null. -/
theorem memberOrNull_sortedMembers
    {members : JsonObject}
    (h : (members.map Prod.fst).Nodup)
    (name : String) :
    JsonObject.memberOrNull (sortedMembers members) name =
      sorted (members.memberOrNull name) := by
  unfold JsonObject.memberOrNull
  rw [member?_sortedMembers h]
  cases members.member? name with
  | none => rfl
  | some v => rfl

------------------------------------------------------------
-- Reading
------------------------------------------------------------

/- Members can be read if each of them can. -/
theorem readableMembers_iff
    (depth : Nat)
    (members : List (JsonString × Json)) :
    ReadableMembers depth members ↔
      ∀ m ∈ members, Readable depth m.2 := by
  induction members with
  | nil => simp [ReadableMembers]
  | cons m rest ih =>
      rcases m with ⟨k, v⟩
      simp [ReadableMembers, ih]

/- Sorting does not take away that a value can be read. -/
mutual

theorem readable_sorted :
    ∀ (v : Json) (depth : Nat),
      Readable depth v → Readable depth (sorted v)
  | .null, _, h => h
  | .bool _, _, h => h
  | .integer _, _, h => h
  | .real _, _, h => h
  | .string _, _, h => h
  | .array items, depth, ⟨hPositive, hItems⟩ =>
      ⟨hPositive, readable_sortedItems items (depth - 1) hItems⟩
  | .object members, depth, ⟨hPositive, hNames, hMembers⟩ =>
      ⟨hPositive, (nodup_sortedMembers_iff members).mpr hNames,
        readable_sortedMembers members (depth - 1) hMembers⟩

theorem readable_sortedItems :
    ∀ (items : List Json) (depth : Nat),
      ReadableItems depth items → ReadableItems depth (sortedItems items)
  | [], _, h => h
  | v :: rest, depth, ⟨hValue, hRest⟩ =>
      ⟨readable_sorted v depth hValue,
        readable_sortedItems rest depth hRest⟩

theorem readable_sortedMembers :
    ∀ (members : List (JsonString × Json)) (depth : Nat),
      ReadableMembers depth members →
        ReadableMembers depth (sortedMembers members)
  | [], _, h => h
  | (k, v) :: rest, depth, ⟨hValue, hRest⟩ => by
      have hHead := readable_sorted v depth hValue
      have hTail := readable_sortedMembers rest depth hRest
      rw [readableMembers_iff] at hTail ⊢
      intro m hMem
      rw [sortedMembers, (insertSorted_perm _ _).mem_iff,
        List.mem_cons] at hMem
      rcases hMem with rfl | hMem
      · exact hHead
      · exact hTail m hMem

end

end Json

end KeyAssertion
