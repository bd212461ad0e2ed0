import KeyAssertion.Proofs.Key.Export
import KeyAssertion.Proofs.Rsa.Factor

/-
  JWKs that lack members of their factors: they are imported as
  the same key, with the factors recovered and in order, unless
  the search for the factors finds nothing.

  Key definitions include:
    * `Jwk.Removal`
    * `Jwk.strip`
    * `Jwk.LacksFactors`
    * `Jwk.recoveredKey`

  Key theorems include:
    * `Jwk.memberOrNull_strip`
    * `Jwk.lacksFactors_strip`
    * `Jwk.numbers_eq_ok_iff`
    * `Jwk.LacksFactors.toMaterial_eq`
-/

namespace KeyAssertion

------------------------------------------------------------
-- Stripping
------------------------------------------------------------

/- Without a member its value is null, the others are as before. -/
theorem JsonObject.memberOrNull_filter
    (members : JsonObject)
    (name other : String) :
    memberOrNull (members.filter fun m => m.1 != .text name) other =
      if name = other then .null else memberOrNull members other := by
  unfold memberOrNull member?
  rw [List.find?_filter]
  by_cases hSame : name = other
  · rw [if_pos hSame, List.find?_eq_none.mpr]
    · rfl
    · intro m _
      simp [hSame]
  · rw [if_neg hSame]
    congr 3
    funext m
    by_cases hMember : m.1 = .text other
    · simp [hMember, Ne.symm hSame]
    · simp [hMember]

/- A member that is set has its value, the others are as before. -/
theorem JsonObject.memberOrNull_set
    (members : JsonObject)
    (name other : String)
    (value : Json) :
    memberOrNull (set members (.text name) value) other =
      if name = other then value else memberOrNull members other := by
  unfold memberOrNull
  by_cases hSame : name = other
  · rw [if_pos hSame, ← hSame, member?_set_self]
    rfl
  · have hNe : JsonString.text name ≠ .text other := by
      simpa using hSame
    rw [if_neg hSame, member?_set_of_ne _ _ _ _ hNe]

namespace Jwk

/- How a member is taken from a JWK. -/
inductive Removal
  | erased
  | null
  | empty

namespace Removal

/- The value of a member that was taken. -/
def value : Removal → Json
  | erased => .null
  | null => .null
  | empty => Json.text ""

/- A JWK from which a member is taken. -/
def apply
    (jwk : JsonObject)
    (name : String) : Removal → JsonObject
  | erased => jwk.filter fun m => m.1 != .text name
  | null => jwk.set (.text name) .null
  | empty => jwk.set (.text name) (Json.text "")

/- It leaves the other members. -/
theorem memberOrNull_apply
    (jwk : JsonObject)
    (name other : String)
    (removal : Removal) :
    (removal.apply jwk name).memberOrNull other =
      if name = other then removal.value
      else jwk.memberOrNull other := by
  cases removal with
  | erased => exact jwk.memberOrNull_filter name other
  | null => exact jwk.memberOrNull_set name other _
  | empty => exact jwk.memberOrNull_set name other _

end Removal

/- A JWK from which several members are taken, one by one. -/
def strip
    (jwk : JsonObject)
    (removals : List (String × Removal)) : JsonObject :=
  removals.foldl (fun jwk r => r.2.apply jwk r.1) jwk

/- The members that are not taken are as before. -/
theorem memberOrNull_strip
    {jwk : JsonObject}
    {removals : List (String × Removal)}
    {name : String}
    (h : ∀ r ∈ removals, r.1 ≠ name) :
    (strip jwk removals).memberOrNull name = jwk.memberOrNull name := by
  induction removals generalizing jwk with
  | nil => rfl
  | cons r rest ih =>
      have hRest :
          (strip (r.2.apply jwk r.1) rest).memberOrNull name =
            (r.2.apply jwk r.1).memberOrNull name :=
        ih fun r' hMem => h r' (List.mem_cons_of_mem r hMem)
      rw [strip, List.foldl_cons, ← strip, hRest,
        Removal.memberOrNull_apply, if_neg (h r List.mem_cons_self)]

/- Those that are taken are no longer there. -/
theorem has_strip
    {jwk : JsonObject}
    {removals : List (String × Removal)}
    {name : String}
    (h : has jwk name = false ∨ ∃ r ∈ removals, r.1 = name) :
    has (strip jwk removals) name = false := by
  induction removals generalizing jwk with
  | nil =>
      rcases h with hAbsent | ⟨r, hMem, _⟩
      · exact hAbsent
      · exact absurd hMem List.not_mem_nil
  | cons r rest ih =>
      rw [strip, List.foldl_cons, ← strip]
      apply ih
      by_cases hSame : r.1 = name
      · left
        unfold has
        rw [Removal.memberOrNull_apply, if_pos hSame]
        cases r.2 with
        | erased => rfl
        | null => rfl
        | empty => rfl
      · rcases h with hAbsent | ⟨r', hMem, hName⟩
        · left
          unfold has at hAbsent ⊢
          rw [Removal.memberOrNull_apply, if_neg hSame]
          exact hAbsent
        · right
          rcases List.mem_cons.mp hMem with hFirst | hRest
          · rw [hFirst] at hName
            exact absurd hName hSame
          · exact ⟨r', hRest, hName⟩

------------------------------------------------------------
-- Numbers
------------------------------------------------------------

/- The last five numbers as a JWK gives them are those of its members. -/
theorem givenFactors_eq_ok_iff
    (jwk : JsonObject)
    (n e d : Nat)
    (k : Rsa.Numbers) :
    givenFactors jwk n e d = .ok k ↔
      (k.n = n ∧ k.e = e ∧ k.d = d) ∧
        number jwk "p" = .ok k.p ∧ number jwk "q" = .ok k.q ∧
        number jwk "dp" = .ok k.dp ∧ number jwk "dq" = .ok k.dq ∧
        number jwk "qi" = .ok k.qi := by
  unfold givenFactors
  simp only [Attempt.bind_eq_ok_iff]
  constructor
  · intro h
    rcases h with
      ⟨p, hp, q, hq, dp, hdp, dq, hdq, qi, hqi, hPure⟩
    rw [← Except.ok.inj hPure]
    exact ⟨⟨rfl, rfl, rfl⟩, hp, hq, hdp, hdq, hqi⟩
  · intro h
    rcases h with ⟨⟨hn, he, hd⟩, hp, hq, hdp, hdq, hqi⟩
    refine ⟨_, hp, _, hq, _, hdp, _, hdq, _, hqi, ?_⟩
    rw [← hn, ← he, ← hd]
    rfl

/- Those that are recovered are computed from the factors found. -/
theorem recoveredFactors_eq_ok_iff
    (n e d : Nat)
    (k : Rsa.Numbers) :
    recoveredFactors n e d = .ok k ↔
      (k.n = n ∧ k.e = e ∧ k.d = d) ∧
        Rsa.recoverFactors n e d = .ok (k.p, k.q) ∧
        k.dp = d % (k.p - 1) ∧ k.dq = d % (k.q - 1) ∧
        k.qi = Rsa.inverseMod k.q k.p := by
  unfold recoveredFactors
  simp only [Attempt.bind_eq_ok_iff, Attempt.mapError_eq_ok_iff]
  constructor
  · intro h
    rcases h with ⟨factors, hFound, hPure⟩
    rw [← Except.ok.inj hPure]
    exact ⟨⟨rfl, rfl, rfl⟩, hFound, rfl, rfl, rfl⟩
  · intro h
    rcases h with ⟨⟨hn, he, hd⟩, hFound, hdp, hdq, hqi⟩
    refine ⟨_, hFound, ?_⟩
    rw [← hn, ← he, ← hd, ← hqi]
    rw [← hd] at hdp hdq
    rw [← hdp, ← hdq]
    rfl

/-
  The numbers of a JWK are the first three of its members, and
  the last five if it has them all, which are else recovered.
-/
theorem numbers_eq_ok_iff
    (jwk : JsonObject)
    (k : Rsa.Numbers) :
    numbers jwk = .ok k ↔
      (number jwk "n" = .ok k.n ∧ number jwk "e" = .ok k.e ∧
          number jwk "d" = .ok k.d) ∧
        (if factorMembers.all (has jwk) then
          givenFactors jwk k.n k.e k.d
        else
          recoveredFactors k.n k.e k.d) = .ok k := by
  have hSame :
      ∀ n e d,
        (if factorMembers.all (has jwk) then givenFactors jwk n e d
          else recoveredFactors n e d) = .ok k →
          k.n = n ∧ k.e = e ∧ k.d = d := by
    intro n e d h
    split at h
    · exact ((givenFactors_eq_ok_iff _ _ _ _ _).mp h).1
    · exact ((recoveredFactors_eq_ok_iff _ _ _ _).mp h).1
  unfold numbers
  simp only [Attempt.bind_eq_ok_iff]
  constructor
  · intro h
    rcases h with ⟨n, hn, e, he, d, hd, hRest⟩
    rcases hSame n e d hRest with ⟨rfl, rfl, rfl⟩
    exact ⟨⟨hn, he, hd⟩, hRest⟩
  · intro h
    rcases h with ⟨⟨hn, he, hd⟩, hRest⟩
    exact ⟨_, hn, _, he, _, hd, hRest⟩

------------------------------------------------------------
-- Import
------------------------------------------------------------

/-
  Whether a JWK has the members of another one, the five that
  can be recovered aside, of which it lacks one or more.
-/
structure LacksFactors (jwk jwk' : JsonObject) : Prop where
  kept :
    ∀ name, name ∉ factorMembers →
      jwk'.memberOrNull name = jwk.memberOrNull name
  absent : ∃ name ∈ factorMembers, has jwk' name = false

/- Such a JWK is what is left after members were taken. -/
theorem lacksFactors_strip
    {jwk : JsonObject}
    {removals : List (String × Removal)}
    (hNames : ∀ r ∈ removals, r.1 ∈ factorMembers)
    (hSome : removals ≠ []) :
    LacksFactors jwk (strip jwk removals) := by
  constructor
  · intro name hOther
    apply memberOrNull_strip
    intro r hMem hSame
    exact hOther (hSame ▸ hNames r hMem)
  · rcases List.exists_mem_of_ne_nil removals hSome with ⟨r, hMem⟩
    exact ⟨r.1, hNames r hMem, has_strip (Or.inr ⟨r, hMem, rfl⟩)⟩

namespace LacksFactors

variable {jwk jwk' : JsonObject}

/- The other members are there as before. -/
theorem has_eq
    (h : LacksFactors jwk jwk')
    {name : String}
    (hOther : name ∉ factorMembers) :
    has jwk' name = has jwk name := by
  unfold has
  rw [h.kept name hOther]

/- They have the same numbers. -/
theorem number_eq
    (h : LacksFactors jwk jwk')
    {name : String}
    (hOther : name ∉ factorMembers) :
    number jwk' name = number jwk name := by
  unfold number
  rw [h.kept name hOther]

/- They have the same texts. -/
theorem optionalText_eq
    (h : LacksFactors jwk jwk')
    {name : String}
    (hOther : name ∉ factorMembers) :
    optionalText jwk' name = optionalText jwk name := by
  unfold optionalText
  rw [h.kept name hOther]

/- They ask for the same algorithm. -/
theorem algorithmText_eq (h : LacksFactors jwk jwk') :
    algorithmText jwk' = algorithmText jwk := by
  unfold algorithmText
  rw [h.optionalText_eq (by decide)]

/- The members that every JWK must have are there as before. -/
theorem has_required
    (h : LacksFactors jwk jwk')
    {name : String}
    (hMem : name ∈ requiredMembers) :
    has jwk' name = has jwk name := by
  have hOther : ∀ name ∈ requiredMembers, name ∉ factorMembers := by
    decide
  exact h.has_eq (hOther name hMem)

/- Not all of the five are there. -/
theorem not_all (h : LacksFactors jwk jwk') :
    ¬ factorMembers.all (has jwk') = true := by
  intro hAll
  rcases h.absent with ⟨name, hMem, hAbsent⟩
  have hHas := List.all_eq_true.mp hAll name hMem
  rw [hAbsent] at hHas
  cases hHas

/- The numbers are those of the key, with its factors in order. -/
theorem numbers_eq
    (h : LacksFactors jwk jwk')
    {k : Rsa.Numbers}
    (hNumbers : numbers jwk = .ok k)
    (hFound :
      Rsa.recoverFactors k.n k.e k.d =
        .ok (k.recovered.p, k.recovered.q)) :
    numbers jwk' = .ok k.recovered := by
  rcases (numbers_eq_ok_iff _ _).mp hNumbers with ⟨⟨hn, he, hd⟩, _⟩
  apply (numbers_eq_ok_iff _ _).mpr
  refine ⟨⟨?_, ?_, ?_⟩, ?_⟩
  · rw [h.number_eq (by decide)]
    exact hn
  · rw [h.number_eq (by decide)]
    exact he
  · rw [h.number_eq (by decide)]
    exact hd
  · rw [if_neg h.not_all]
    apply (recoveredFactors_eq_ok_iff _ _ _ _).mpr
    exact ⟨⟨rfl, rfl, rfl⟩, hFound, rfl, rfl, rfl⟩

end LacksFactors

/- The key of numbers that belong together, its factors in order. -/
def recoveredKey (key : Rsa.PrivateKey) : Rsa.PrivateKey :=
  ⟨key.numbers.recovered,
    (Rsa.Numbers.isSound_iff _).mpr key.isSound.recovered⟩

/- Its numbers pass the check if those of the key do. -/
theorem check_recoveredKey
    {key : Rsa.PrivateKey}
    (hCheck : key.numbers.check = .ok key) :
    (recoveredKey key).numbers.check = .ok (recoveredKey key) := by
  have hSizes := ((Rsa.Numbers.check_eq_ok_iff _ _).mp hCheck).2
  exact (Rsa.Numbers.check_eq_ok_iff _ _).mpr ⟨rfl, hSizes⟩

/-
  A JWK that lacks members of its factors is accepted with the
  key of the full one, its factors in order, and with the same
  algorithm, key id and use.
-/
theorem LacksFactors.toMaterial_eq
    {jwk jwk' : JsonObject}
    (h : LacksFactors jwk jwk')
    {m : KeyMaterial}
    {key : Rsa.PrivateKey}
    (hAccepted : toMaterial jwk = .ok m)
    (hExported : m.IsExported key)
    (hCheck : key.numbers.check = .ok key)
    (hFound :
      Rsa.recoverFactors key.numbers.n key.numbers.e key.numbers.d =
        .ok (key.numbers.recovered.p, key.numbers.recovered.q)) :
    toMaterial jwk' =
      .ok (.ofKey (recoveredKey key) m.alg m.kid m.use) := by
  rcases (toMaterial_eq_ok_iff _ _).mp hAccepted with
    ⟨hRequired, hType, hPrivate, alg, given, kid, use, hAlg, hKey, hKid,
      hUse, hMaterial⟩
  have hGiven : numbers jwk = .ok key.numbers := by
    have hNumbers : m.numbers = .ok given.numbers := by
      rw [hMaterial]
      exact KeyMaterial.numbers_ofNumbers given.numbers alg kid use
    rw [hExported.numbers_eq hNumbers]
    exact ((key_eq_ok_iff _ _).mp hKey).1
  apply (toMaterial_eq_ok_iff _ _).mpr
  refine ⟨?_, ?_, ?_, alg, recoveredKey key, kid, use, ?_, ?_, ?_, ?_,
    ?_⟩
  · intro name hMem
    rw [h.has_required hMem]
    exact hRequired name hMem
  · rw [h.kept _ (by decide)]
    exact hType
  · rw [h.has_eq (by decide)]
    exact hPrivate
  · rw [h.algorithmText_eq]
    exact hAlg
  · apply (key_eq_ok_iff _ _).mpr
    exact ⟨h.numbers_eq hGiven hFound, check_recoveredKey hCheck⟩
  · rw [h.optionalText_eq (by decide)]
    exact hKid
  · rw [h.optionalText_eq (by decide)]
    exact hUse
  · rw [hMaterial]
    rfl

end Jwk

end KeyAssertion
