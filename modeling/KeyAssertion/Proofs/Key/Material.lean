import KeyAssertion.Attempt
import KeyAssertion.Key.Jwk
import KeyAssertion.Key.Pem
import KeyAssertion.Proofs.Key.Member
import KeyAssertion.Proofs.Rsa.Numbers

/-
  Material that is exported from a key and made a key again,
  and what kind of material a JWK and a PEM text give.

  Key definitions include:
    * `KeyMaterial.IsUsable`
    * `KeyMaterial.IsExported`

  Key theorems include:
    * `KeyMaterial.numbers_ofNumbers`
    * `KeyMaterial.numbers_eq_ok_iff`
    * `KeyMaterial.toKey_eq_ok_iff`
    * `KeyMaterial.isUsable_ofKey_iff`
    * `Jwk.toMaterial_eq_ok_iff`
    * `Jwk.isExported_of_toMaterial`
    * `Jwk.isUsable_of_readMaterial`
    * `KeyPem.isExported_of_toMaterial`
-/

namespace KeyAssertion

------------------------------------------------------------
-- Material of a Key
------------------------------------------------------------

namespace KeyMaterial

/- The numbers of material are those it was written from. -/
theorem numbers_ofNumbers
    (k : Rsa.Numbers)
    (alg : Option String)
    (kid use : Option JsonString) :
    (ofNumbers k alg kid use).numbers = .ok k := by
  simp only [numbers, ofNumbers, Key.readMember_writeMember]
  rfl

/- The key of material is that of its numbers, which pass the check. -/
theorem toKey_eq_ok_iff
    (m : KeyMaterial)
    (key : Rsa.PrivateKey) :
    m.toKey = .ok key ↔
      m.kty = "RSA" ∧ m.numbers = .ok key.numbers ∧
        key.numbers.check = .ok key := by
  unfold toKey
  by_cases hType : m.kty = "RSA"
  case neg => simp [hType]
  simp only [hType, ne_eq, not_true_eq_false, if_false, true_and]
  cases hNumbers : m.numbers with
  | error fault => simp
  | ok k =>
      constructor
      · intro h
        cases hCheck : k.check with
        | error fault => simp [hCheck] at h
        | ok key' =>
            simp only [hCheck] at h
            cases h
            have hSame := ((Rsa.Numbers.check_eq_ok_iff _ _).mp hCheck).1
            rw [hSame]
            exact ⟨rfl, hCheck⟩
      · rintro ⟨hSame, hCheck⟩
        cases hSame
        simp only [hCheck]

/- The numbers of material are those of its members. -/
theorem numbers_eq_ok_iff
    (m : KeyMaterial)
    (k : Rsa.Numbers) :
    m.numbers = .ok k ↔
      (Key.readMember (.text m.n) = .ok k.n ∧
          Key.readMember (.text m.e) = .ok k.e ∧
          Key.readMember (.text m.d) = .ok k.d) ∧
        Key.readMember (.text m.p) = .ok k.p ∧
        Key.readMember (.text m.q) = .ok k.q ∧
        Key.readMember (.text m.dp) = .ok k.dp ∧
        Key.readMember (.text m.dq) = .ok k.dq ∧
        Key.readMember (.text m.qi) = .ok k.qi := by
  unfold numbers
  simp only [Attempt.bind_eq_ok_iff]
  constructor
  · rintro ⟨p, hp, q, hq, d, hd, dp, hdp, dq, hdq, qi, hqi, e, he, n, hn,
      hPure⟩
    rw [← Except.ok.inj hPure]
    exact ⟨⟨hn, he, hd⟩, hp, hq, hdp, hdq, hqi⟩
  · rintro ⟨⟨hn, he, hd⟩, hp, hq, hdp, hdq, hqi⟩
    exact ⟨_, hp, _, hq, _, hd, _, hdp, _, hdq, _, hqi, _, he, _, hn, rfl⟩

/- The modulus of material is what its member says. -/
theorem readMember_n_of_numbers
    {m : KeyMaterial}
    {k : Rsa.Numbers}
    (h : m.numbers = .ok k) :
    Key.readMember (.text m.n) = .ok k.n :=
  ((m.numbers_eq_ok_iff k).mp h).1.1

/-
  Making a key of exported material is the check of the
  numbers of the key that it was exported from.
-/
theorem toKey_ofKey
    (key : Rsa.PrivateKey)
    (alg : Option String)
    (kid use : Option JsonString) :
    (ofKey key alg kid use).toKey =
      key.numbers.check.mapError fun fault =>
        .materialNumbers (.numbers fault) := by
  have hType : (ofKey key alg kid use).kty = "RSA" := rfl
  have hNumbers :
      (ofKey key alg kid use).numbers = .ok key.numbers :=
    numbers_ofNumbers key.numbers alg kid use
  simp only [toKey, hType, hNumbers, ne_eq, not_true_eq_false, if_false]
  cases key.numbers.check with
  | error fault => rfl
  | ok key => rfl

/-
  Material is usable if a key can be made of it and exporting
  that key gives the same material again.
-/
def IsUsable (m : KeyMaterial) : Prop :=
  ∃ key, m.toKey = .ok key ∧ ofKey key m.alg m.kid m.use = m

/- Exported material is usable if both exponents are small enough. -/
theorem isUsable_ofKey_iff
    (key : Rsa.PrivateKey)
    (alg : Option String)
    (kid use : Option JsonString) :
    (ofKey key alg kid use).IsUsable ↔
      key.numbers.d < key.numbers.n ∧ key.numbers.e < key.numbers.n := by
  unfold IsUsable
  simp only [toKey_ofKey, Attempt.mapError_eq_ok_iff]
  constructor
  · rintro ⟨again, hCheck, hSame⟩
    exact ((Rsa.Numbers.check_eq_ok_iff _ _).mp hCheck).2
  · intro hSizes
    exact ⟨key, (Rsa.Numbers.check_eq_ok_iff _ _).mpr ⟨rfl, hSizes⟩, rfl⟩

/-
  Material as it comes out of every import: exported from a
  key, with a supported algorithm or none.
-/
structure IsExported
    (m : KeyMaterial)
    (key : Rsa.PrivateKey) : Prop where
  eq_ofKey : m = ofKey key m.alg m.kid m.use
  supported : ∀ name, m.alg = some name →
    ∃ a ∈ SigningAlgorithm.all, a.name = name

namespace IsExported

variable {m : KeyMaterial} {key : Rsa.PrivateKey}

/- Such material is that of an RSA key. -/
theorem kty (h : m.IsExported key) :
    m.kty = "RSA" := by
  rw [h.eq_ofKey]
  rfl

/- Its numbers are those of the key. -/
theorem numbers (h : m.IsExported key) :
    m.numbers = .ok key.numbers := by
  rw [h.eq_ofKey]
  exact numbers_ofNumbers key.numbers _ _ _

/- No other numbers can be read from it. -/
theorem numbers_eq
    {k : Rsa.Numbers}
    (h : m.IsExported key)
    (hNumbers : m.numbers = .ok k) :
    key.numbers = k := by
  rw [h.numbers] at hNumbers
  cases hNumbers
  rfl

/- It gives the key back if both exponents are small enough. -/
theorem toKey_eq_ok
    (h : m.IsExported key)
    (hPrivate : key.numbers.d < key.numbers.n)
    (hPublic : key.numbers.e < key.numbers.n) :
    m.toKey = .ok key := by
  rw [h.eq_ofKey, toKey_ofKey, Attempt.mapError_eq_ok_iff]
  exact (Rsa.Numbers.check_eq_ok_iff _ _).mpr ⟨rfl, hPrivate, hPublic⟩

/- It is usable in this case, and only then. -/
theorem isUsable_iff (h : m.IsExported key) :
    m.IsUsable ↔
      key.numbers.d < key.numbers.n ∧ key.numbers.e < key.numbers.n := by
  rw [h.eq_ofKey]
  exact isUsable_ofKey_iff key _ _ _

end IsExported

/- Material without an algorithm is exported from its key. -/
theorem isExported_ofKey_none
    (key : Rsa.PrivateKey)
    (kid use : Option JsonString) :
    (ofKey key none kid use).IsExported key := by
  constructor
  · rfl
  · intro name hName
    cases hName

end KeyMaterial

------------------------------------------------------------
-- JWK
------------------------------------------------------------

namespace SigningAlgorithm

/- An algorithm that is found by its name is a supported one. -/
theorem mem_all_of_ofName?
    {name : String}
    {a : SigningAlgorithm}
    (h : ofName? name = some a) :
    a ∈ all ∧ a.name = name := by
  unfold ofName? at h
  exact ⟨List.mem_of_find?_eq_some h, by simpa using List.find?_some h⟩

/- Every supported algorithm is found by its name. -/
theorem ofName?_name
    {a : SigningAlgorithm}
    (h : a ∈ all) :
    ofName? a.name = some a := by
  have hAll : ∀ a ∈ all, ofName? a.name = some a := by
    decide
  exact hAll a h

/- So an algorithm is found if a supported one has the name. -/
theorem isSome_ofName?_iff (name : String) :
    (ofName? name).isSome = true ↔ ∃ a ∈ all, a.name = name := by
  constructor
  · intro hFound
    rcases Option.isSome_iff_exists.mp hFound with ⟨a, ha⟩
    exact ⟨a, mem_all_of_ofName? ha⟩
  · rintro ⟨a, hMem, rfl⟩
    rw [ofName?_name hMem]
    rfl

end SigningAlgorithm

namespace Jwk

/- A string names a supported algorithm if it is the name of one. -/
theorem supportedName?_eq_some_iff
    (s : JsonString)
    (name : String) :
    supportedName? s = some name ↔
      s = .text name ∧ ∃ a ∈ SigningAlgorithm.all, a.name = name := by
  cases s with
  | text t =>
      simp only [supportedName?, JsonString.text?, Option.filter_eq_some_iff,
        Option.some.injEq, JsonString.text.injEq,
        SigningAlgorithm.isSome_ofName?_iff]
  | broken points h => simp [supportedName?, JsonString.text?]

/- The algorithm that is read is a string that names a supported one. -/
theorem algorithmText_eq_ok_iff
    (jwk : JsonObject)
    (alg : Option String) :
    algorithmText jwk = .ok alg ↔
      optionalText jwk "alg" = .ok (alg.map .text) ∧
        ∀ name, alg = some name →
          ∃ a ∈ SigningAlgorithm.all, a.name = name := by
  unfold algorithmText
  rw [Attempt.bind_eq_ok_iff]
  constructor
  · rintro ⟨given, hText, hRest⟩
    cases given with
    | none =>
        rw [← Except.ok.inj hRest]
        exact ⟨hText, by simp⟩
    | some s =>
        dsimp only at hRest
        split at hRest
        · case _ name hName =>
            rcases (supportedName?_eq_some_iff s name).mp hName with
              ⟨rfl, hSupported⟩
            rw [← Except.ok.inj hRest]
            refine ⟨hText, ?_⟩
            intro other hOther
            rw [← Option.some.inj hOther]
            exact hSupported
        · cases hRest
  · rintro ⟨hText, hSupported⟩
    refine ⟨alg.map .text, hText, ?_⟩
    cases alg with
    | none => rfl
    | some name =>
        have hName : supportedName? (.text name) = some name :=
          (supportedName?_eq_some_iff _ _).mpr ⟨rfl, hSupported name rfl⟩
        simp only [Option.map_some, hName]
        rfl

/- The key of a JWK is that of its numbers, which pass the check. -/
theorem key_eq_ok_iff
    (jwk : JsonObject)
    (k : Rsa.PrivateKey) :
    key jwk = .ok k ↔
      numbers jwk = .ok k.numbers ∧ k.numbers.check = .ok k := by
  unfold key
  simp only [Attempt.bind_eq_ok_iff, Attempt.mapError_eq_ok_iff]
  constructor
  · rintro ⟨given, hGiven, hCheck⟩
    have hSame := ((Rsa.Numbers.check_eq_ok_iff _ _).mp hCheck).1
    rw [hSame]
    exact ⟨hGiven, hCheck⟩
  · rintro ⟨hGiven, hCheck⟩
    exact ⟨k.numbers, hGiven, hCheck⟩

/-
  A JWK is accepted if it has the members that it must have,
  is of the right type, and has an algorithm, a key, a key id
  and a use that can be read.
-/
theorem toMaterial_eq_ok_iff
    (jwk : JsonObject)
    (m : KeyMaterial) :
    toMaterial jwk = .ok m ↔
      (∀ name ∈ requiredMembers, has jwk name = true) ∧
        jwk.memberOrNull "kty" = Json.text "RSA" ∧
        has jwk "d" = true ∧
        ∃ alg k kid use,
          algorithmText jwk = .ok alg ∧
            key jwk = .ok k ∧
            optionalText jwk "kid" = .ok kid ∧
            optionalText jwk "use" = .ok use ∧
            m = KeyMaterial.ofKey k alg kid use := by
  unfold toMaterial
  by_cases hMissing : ∀ name ∈ requiredMembers, has jwk name = true
  case neg =>
    have hSome :
        (requiredMembers.filter fun name => !has jwk name) ≠ [] := by
      simpa using hMissing
    simp [hSome, hMissing, bind, Except.bind]
  have hNone :
      (requiredMembers.filter fun name => !has jwk name) = [] := by
    simpa using hMissing
  by_cases hType : jwk.memberOrNull "kty" = Json.text "RSA"
  case neg =>
    simp only [hNone, hType, List.isEmpty_nil, Bool.not_true,
      Bool.false_eq_true, if_false]
    split
    · case _ hText => exact absurd hText hType
    · simp [bind, Except.bind]
  by_cases hPrivate : has jwk "d" = true
  case neg =>
    simp [hNone, hType, hPrivate, Json.text, Attempt.bind_eq_ok_iff]
  simp only [hNone, hType, hPrivate, Json.text, List.isEmpty_nil,
    Bool.not_true, Bool.false_eq_true, if_false, true_and,
    Attempt.bind_eq_ok_iff, Attempt.mapError_eq_ok_iff]
  constructor
  · rintro ⟨alg, hAlg, k, hKey, kid, hKid, use, hUse, hPure⟩
    cases hPure
    exact ⟨hMissing, alg, k, kid, use, hAlg, hKey, hKid, hUse, rfl⟩
  · rintro ⟨-, alg, k, kid, use, hAlg, hKey, hKid, hUse, rfl⟩
    exact ⟨alg, hAlg, k, hKey, kid, hKid, use, hUse, rfl⟩

/-
  An accepted JWK gives the material of a key whose numbers
  have passed the check.
-/
theorem isExported_of_toMaterial
    {jwk : JsonObject}
    {m : KeyMaterial}
    (h : toMaterial jwk = .ok m) :
    ∃ key : Rsa.PrivateKey,
      m.IsExported key ∧ key.numbers.check = .ok key := by
  rcases (toMaterial_eq_ok_iff _ _).mp h with
    ⟨-, -, -, alg, k, kid, use, hAlg, hKey, -, -, rfl⟩
  refine ⟨k, ⟨rfl, ?_⟩, ((key_eq_ok_iff _ _).mp hKey).2⟩
  exact ((algorithmText_eq_ok_iff _ _).mp hAlg).2

/- So does the text of a JWK. -/
theorem isExported_of_readMaterial
    {text : String}
    {m : KeyMaterial}
    (h : readMaterial text = .ok m) :
    ∃ key : Rsa.PrivateKey,
      m.IsExported key ∧ key.numbers.check = .ok key := by
  unfold readMaterial at h
  split at h
  · rw [Attempt.mapError_eq_ok_iff] at h
    exact isExported_of_toMaterial h
  · cases h
  · cases h
  · cases h
  · cases h

/- The material of a JWK is usable without exception. -/
theorem isUsable_of_readMaterial
    {text : String}
    {m : KeyMaterial}
    (h : readMaterial text = .ok m) :
    m.IsUsable := by
  rcases isExported_of_readMaterial h with ⟨key, hExported, hCheck⟩
  apply hExported.isUsable_iff.mpr
  exact ((Rsa.Numbers.check_eq_ok_iff _ _).mp hCheck).2

end Jwk

------------------------------------------------------------
-- PEM
------------------------------------------------------------

namespace KeyPem

/- A PEM text that is accepted gives the material of its key. -/
theorem isExported_of_toMaterial
    [KeyLibrary]
    {text : String}
    {m : KeyMaterial}
    (h : toMaterial text = .ok m) :
    ∃ key : Rsa.PrivateKey, m.IsExported key := by
  unfold toMaterial at h
  split at h
  · cases h
  · cases h
  · cases h
  · case _ key _ =>
      cases h
      exact ⟨key, KeyMaterial.isExported_ofKey_none key none none⟩
  · cases h

end KeyPem

end KeyAssertion
