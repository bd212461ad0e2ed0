import KeyAssertion.Proofs.Key.Classified

/-
  Material is read in two ways: it is made a key, to sign with,
  and its JWK is imported.  Both read the same numbers, in an
  order of their own, and put them to the same check.

  Key definitions include:
    * `KeyMaterial.IsComplete`
    * `KeyMaterial.ImportsAgree`

  Key theorems include:
    * `KeyMaterial.numbers_toJwk_eq_ok_iff`
    * `KeyMaterial.toMaterial_toJwk_eq_ok_iff`
    * `KeyMaterial.importsAgree_of_isComplete`
-/

namespace KeyAssertion

namespace KeyMaterial

/- The members of material that are numbers, by their names. -/
def numberTexts (m : KeyMaterial) : List (String × String) :=
  [("n", m.n), ("e", m.e), ("d", m.d), ("p", m.p), ("q", m.q),
    ("dp", m.dp), ("dq", m.dq), ("qi", m.qi)]

/-
  Whether material is that of an RSA key with a supported
  algorithm or none, and no number is missing.
-/
structure IsComplete (m : KeyMaterial) : Prop where
  kty : m.kty = "RSA"
  present : ∀ x ∈ m.numberTexts, x.2 ≠ ""
  supported : Jwk.IsSupported m.alg

------------------------------------------------------------
-- Numbers
------------------------------------------------------------

/- The JWK of material has its members. -/
theorem memberOrNull_toJwk
    {m : KeyMaterial}
    {x : String × String}
    (hMem : x ∈ m.numberTexts) :
    m.toJwk.memberOrNull x.1 = Json.text x.2 := by
  fin_cases hMem
  all_goals rfl

/- Its numbers are read as the members of the material are. -/
theorem number_toJwk_eq_ok_iff
    {m : KeyMaterial}
    {x : String × String}
    (hMem : x ∈ m.numberTexts)
    (n : Nat) :
    Jwk.number m.toJwk x.1 = .ok n ↔
      Key.readMember (.text x.2) = .ok n := by
  unfold Jwk.number
  rw [Attempt.mapError_eq_ok_iff, memberOrNull_toJwk hMem]
  rfl

namespace IsComplete

variable {m : KeyMaterial}

/- No number of complete material is absent in its JWK. -/
theorem has_toJwk
    (h : m.IsComplete)
    {name : String}
    (hMem : name ∈ m.numberTexts.map Prod.fst) :
    Jwk.has m.toJwk name = true := by
  rcases List.mem_map.mp hMem with ⟨x, hText, rfl⟩
  have hSome := h.present x hText
  unfold Jwk.has
  rw [memberOrNull_toJwk hText]
  simpa [Json.text, Json.isTruthy, JsonString.isEmpty] using hSome

/- So the members of its factors are all there. -/
theorem all_factorMembers (h : m.IsComplete) :
    Jwk.factorMembers.all (Jwk.has m.toJwk) = true := by
  have hNames : Jwk.factorMembers ⊆ m.numberTexts.map Prod.fst := by
    simp [Jwk.factorMembers, numberTexts]
  apply List.all_eq_true.mpr
  intro name hMem
  exact h.has_toJwk (hNames hMem)

/- The JWK is one for RSA. -/
theorem type_toJwk (h : m.IsComplete) :
    m.toJwk.memberOrNull "kty" = Json.text "RSA" := by
  rw [← h.kty]
  rfl

/- The members that every JWK must have are there. -/
theorem has_required
    (h : m.IsComplete)
    {name : String}
    (hMem : name ∈ Jwk.requiredMembers) :
    Jwk.has m.toJwk name = true := by
  have hNames : ["n", "e"] ⊆ m.numberTexts.map Prod.fst := by
    simp [numberTexts]
  rcases List.mem_cons.mp hMem with rfl | hNumber
  · unfold Jwk.has
    rw [h.type_toJwk]
    rfl
  · exact h.has_toJwk (hNames hNumber)

/- The JWK is read as the numbers of the material. -/
theorem numbers_toJwk_eq_ok_iff
    (h : m.IsComplete)
    (k : Rsa.Numbers) :
    Jwk.numbers m.toJwk = .ok k ↔ m.numbers = .ok k := by
  have hRead :
      ∀ x ∈ m.numberTexts, ∀ n,
        Jwk.number m.toJwk x.1 = .ok n ↔
          Key.readMember (.text x.2) = .ok n :=
    fun x hMem => number_toJwk_eq_ok_iff hMem
  simp only [numberTexts, List.forall_mem_cons] at hRead
  rcases hRead with ⟨hn, he, hd, hp, hq, hdp, hdq, hqi, _⟩
  rw [Jwk.numbers_eq_ok_iff, numbers_eq_ok_iff,
    if_pos h.all_factorMembers, Jwk.givenFactors_eq_ok_iff]
  simp only [hn, he, hd, hp, hq, hdp, hdq, hqi, true_and]

------------------------------------------------------------
-- Imports
------------------------------------------------------------

/- It asks for a supported algorithm or none. -/
theorem asksSupported (h : m.IsComplete) :
    Jwk.AsksSupported m.toJwk := by
  intro s hText
  rw [Jwk.optionalText_of_string? m.optional_toJwk.1,
    Except.ok.injEq, Option.map_eq_some_iff] at hText
  rcases hText with ⟨name, hAlg, rfl⟩
  rcases h.supported name hAlg with ⟨a, hMem, rfl⟩
  exact ⟨a, hMem, rfl⟩

/-
  The JWK of complete material is accepted if a key can be made
  of the material, with the material of this key.
-/
theorem toMaterial_toJwk_eq_ok_iff
    (h : m.IsComplete)
    (m' : KeyMaterial) :
    Jwk.toMaterial m.toJwk = .ok m' ↔
      ∃ key, m.toKey = .ok key ∧ m' = ofKey key m.alg m.kid m.use := by
  have hOptional := m.optional_toJwk
  have hAlg : Jwk.algorithmText m.toJwk = .ok m.alg :=
    Jwk.algorithmText_of_supported hOptional.1 h.supported
  have hKid : Jwk.optionalText m.toJwk "kid" = .ok m.kid :=
    Jwk.optionalText_of_string? hOptional.2.1
  have hUse : Jwk.optionalText m.toJwk "use" = .ok m.use :=
    Jwk.optionalText_of_string? hOptional.2.2
  rw [Jwk.toMaterial_eq_ok_iff]
  simp only [hAlg, hKid, hUse, Except.ok.injEq, toKey_eq_ok_iff,
    Jwk.key_eq_ok_iff, h.numbers_toJwk_eq_ok_iff]
  constructor
  · rintro ⟨_, _, _, alg, key, kid, use, rfl, hKey, rfl, rfl, hMaterial⟩
    exact ⟨key, ⟨h.kty, hKey⟩, hMaterial⟩
  · rintro ⟨key, ⟨_, hKey⟩, hMaterial⟩
    have hPrivate : Jwk.has m.toJwk "d" = true :=
      h.has_toJwk (by simp [numberTexts])
    exact ⟨fun _ => h.has_required, h.type_toJwk, hPrivate, m.alg, key,
      m.kid, m.use, rfl, hKey, rfl, rfl, hMaterial⟩

end IsComplete

/- RSA material of which no key can be made is invalid. -/
theorem isUnsupported_of_toKey
    {m : KeyMaterial}
    {e : KeyError}
    (hType : m.kty = "RSA")
    (hError : m.toKey = .error e) :
    e.isUnsupported = false := by
  unfold toKey at hError
  rw [if_neg (not_not.mpr hType)] at hError
  split at hError
  · rw [← Except.error.inj hError]
    rfl
  · split at hError
    · rw [← Except.error.inj hError]
      rfl
    · cases hError

/-
  Whether the two imports of material agree: both succeed, and
  then come to the same material, or both fail, and then because
  the material is invalid.
-/
structure ImportsAgree (m : KeyMaterial) : Prop where
  succeed :
    (∃ key, m.toKey = .ok key) ↔
      ∃ m', Jwk.toMaterial m.toJwk = .ok m'
  same :
    ∀ key,
      m.toKey = .ok key →
        Jwk.toMaterial m.toJwk = .ok (ofKey key m.alg m.kid m.use)
  fail :
    (¬ ∃ key, m.toKey = .ok key) →
      (∃ e, m.toKey = .error e ∧ e.isUnsupported = false) ∧
        ∃ e,
          Jwk.toMaterial m.toJwk = .error e ∧ e.isUnsupported = false

/- The two imports of complete material agree. -/
theorem importsAgree_of_isComplete
    {m : KeyMaterial}
    (hComplete : m.IsComplete) :
    m.ImportsAgree := by
  have hAccepted := hComplete.toMaterial_toJwk_eq_ok_iff
  have hSucceed :
      (∃ key, m.toKey = .ok key) ↔
        ∃ m', Jwk.toMaterial m.toJwk = .ok m' := by
    constructor
    · rintro ⟨key, hKey⟩
      exact ⟨_, (hAccepted _).mpr ⟨key, hKey, rfl⟩⟩
    · rintro ⟨m', hMaterial⟩
      rcases (hAccepted m').mp hMaterial with ⟨key, hKey, _⟩
      exact ⟨key, hKey⟩
  constructor
  · exact hSucceed
  · intro key hKey
    exact (hAccepted _).mpr ⟨key, hKey, rfl⟩
  · intro hNone
    constructor
    · cases hKey : m.toKey with
      | ok key => exact absurd ⟨key, hKey⟩ hNone
      | error e =>
          exact ⟨e, rfl, isUnsupported_of_toKey hComplete.kty hKey⟩
    · cases hMaterial : Jwk.toMaterial m.toJwk with
      | ok m' => exact absurd (hSucceed.mpr ⟨m', hMaterial⟩) hNone
      | error e =>
          exact ⟨e, rfl,
            Jwk.isUnsupported_of_toMaterial hComplete.type_toJwk
              hComplete.asksSupported hMaterial⟩

/-
  Both imports take the numbers of a key with the modulus 33 as
  they are spelled here: with a leading zero, with padding, and
  with a blank.
-/
theorem importsAgree_of_spelled :
    let m : KeyMaterial :=
      { n := "ACE", e := "Aw==", d := "Bw", p := "Cw", q := "Aw",
        dp := "Bw", dq := "AQ", qi := "B A==", alg := some "PS256" }
    m.IsComplete ∧
      Jwk.toMaterial m.toJwk =
        .ok { m with n := "IQ", e := "Aw", qi := "BA" } := by
  intro m
  have hComplete : m.IsComplete := by
    refine ⟨rfl, by decide, ?_⟩
    intro name hName
    rw [← Option.some.inj hName]
    exact ⟨⟨.pss, .sha256⟩, by decide, rfl⟩
  let key : Rsa.PrivateKey :=
    ⟨⟨33, 3, 7, 11, 3, 7, 1, 4⟩, by decide +kernel⟩
  have hKey : m.toKey = .ok key := by
    rw [toKey_eq_ok_iff, Rsa.Numbers.check_eq_ok_iff]
    exact ⟨rfl, by decide +kernel, rfl, by decide, by decide⟩
  refine ⟨hComplete, ?_⟩
  rw [(importsAgree_of_isComplete hComplete).same _ hKey]
  decide +kernel

end KeyMaterial

end KeyAssertion
