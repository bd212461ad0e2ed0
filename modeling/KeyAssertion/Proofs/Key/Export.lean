import KeyAssertion.Proofs.Json.Reading
import KeyAssertion.Proofs.Key.Material

/-
  Material that is written as a JWK and imported again, and the
  public part of a key.

  Key theorems include:
    * `Jwk.number_of_writeMember`
    * `Jwk.readable_present`
    * `KeyMaterial.numbers_toJwk`
    * `KeyMaterial.toMaterial_toJwk`
    * `KeyMaterial.IsExported.number_publicJwk`
-/

namespace KeyAssertion

------------------------------------------------------------
-- Members
------------------------------------------------------------

namespace Jwk

variable {jwk : JsonObject} {name : String}

/- A member that was written for a number is there. -/
theorem has_of_writeMember
    {n : Nat}
    (h : jwk.memberOrNull name = Json.text (Key.writeMember n)) :
    has jwk name = true := by
  have hRead := Key.readMember_writeMember n
  unfold Key.readMember at hRead
  split_ifs at hRead with hEmpty
  unfold has
  rw [h]
  simpa [Json.text, Json.isTruthy] using hEmpty

/- It is read as the number. -/
theorem number_of_writeMember
    {n : Nat}
    (h : jwk.memberOrNull name = Json.text (Key.writeMember n)) :
    number jwk name = .ok n := by
  unfold number
  rw [h, Attempt.mapError_eq_ok_iff]
  exact Key.readMember_writeMember n

/- A member that may be absent is read as it was written. -/
theorem optionalText_of_string?
    {value : Option JsonString}
    (h : jwk.memberOrNull name = Json.string? value) :
    optionalText jwk name = .ok value := by
  unfold optionalText
  rw [h]
  cases value with
  | none => rfl
  | some s => rfl

/- The algorithm is read as it was written if it is supported. -/
theorem algorithmText_of_supported
    {alg : Option String}
    (h : jwk.memberOrNull "alg" = Json.text? alg)
    (hAlg : ∀ name, alg = some name →
      ∃ a ∈ SigningAlgorithm.all, a.name = name) :
    algorithmText jwk = .ok alg :=
  (algorithmText_eq_ok_iff jwk alg).mpr ⟨optionalText_of_string? h, hAlg⟩

/- The names of the members that are there are among those given. -/
theorem names_present_sublist (members : List (String × Option JsonString)) :
    ((present members).map Prod.fst).Sublist
      (members.map fun x => JsonString.text x.1) := by
  induction members with
  | nil => exact .slnil
  | cons x rest ih =>
      rcases x with ⟨name, value?⟩
      cases value? with
      | none => exact ih.cons _
      | some value => exact ih.cons_cons _

/- The members that are there can be read from what is written. -/
theorem readableMembers_present
    (depth : Nat)
    (members : List (String × Option JsonString)) :
    Json.ReadableMembers depth (present members) := by
  induction members with
  | nil => exact trivial
  | cons x rest ih =>
      rcases x with ⟨name, value?⟩
      cases value? with
      | none => exact ih
      | some value => exact ⟨trivial, ih⟩

/- So can the object that they make up if their names are different. -/
theorem readable_present
    {members : List (String × Option JsonString)}
    (hNames : (members.map fun x => JsonString.text x.1).Nodup) :
    Json.Readable Json.maxDepth (.object (present members)) :=
  ⟨by decide, (names_present_sublist members).nodup hNames,
    readableMembers_present _ _⟩

end Jwk

------------------------------------------------------------
-- Private Keys
------------------------------------------------------------

namespace KeyMaterial

/- The members of a private JWK that may be absent. -/
theorem optional_toJwk (m : KeyMaterial) :
    m.toJwk.memberOrNull "alg" = Json.text? m.alg ∧
      m.toJwk.memberOrNull "kid" = Json.string? m.kid ∧
      m.toJwk.memberOrNull "use" = Json.string? m.use := by
  rcases m with ⟨kty, n, e, d, p, q, dp, dq, qi, alg, kid, use⟩
  cases alg <;> cases kid <;> cases use <;> exact ⟨rfl, rfl, rfl⟩

/- A private JWK can be read from what is written for it. -/
theorem readable_toJwk (m : KeyMaterial) :
    Json.Readable Json.maxDepth (.object m.toJwk) :=
  Jwk.readable_present (by simp)

/- The numbers of a private JWK are those of the key. -/
theorem numbers_toJwk
    (k : Rsa.Numbers)
    (alg : Option String)
    (kid use : Option JsonString) :
    Jwk.numbers (ofNumbers k alg kid use).toJwk = .ok k := by
  let jwk := (ofNumbers k alg kid use).toJwk
  have hp : jwk.memberOrNull "p" = Json.text (Key.writeMember k.p) := rfl
  have hq : jwk.memberOrNull "q" = Json.text (Key.writeMember k.q) := rfl
  have hdp : jwk.memberOrNull "dp" = Json.text (Key.writeMember k.dp) := rfl
  have hdq : jwk.memberOrNull "dq" = Json.text (Key.writeMember k.dq) := rfl
  have hqi : jwk.memberOrNull "qi" = Json.text (Key.writeMember k.qi) := rfl
  have hn : jwk.memberOrNull "n" = Json.text (Key.writeMember k.n) := rfl
  have he : jwk.memberOrNull "e" = Json.text (Key.writeMember k.e) := rfl
  have hd : jwk.memberOrNull "d" = Json.text (Key.writeMember k.d) := rfl
  have hGiven : Jwk.factorMembers.all (Jwk.has jwk) = true := by
    simp [Jwk.factorMembers, Jwk.has_of_writeMember hp,
      Jwk.has_of_writeMember hq, Jwk.has_of_writeMember hdp,
      Jwk.has_of_writeMember hdq, Jwk.has_of_writeMember hqi]
  unfold Jwk.numbers
  simp only [Jwk.number_of_writeMember hn, Jwk.number_of_writeMember he,
    Jwk.number_of_writeMember hd, hGiven, if_true, Jwk.givenFactors,
    Jwk.number_of_writeMember hp, Jwk.number_of_writeMember hq,
    Jwk.number_of_writeMember hdp, Jwk.number_of_writeMember hdq,
    Jwk.number_of_writeMember hqi, jwk]
  rfl

/-
  The private JWK of a key is imported as the material that it
  was exported as, if the numbers of the key pass the check.
-/
theorem toMaterial_toJwk
    {key : Rsa.PrivateKey}
    {alg : Option String}
    {kid use : Option JsonString}
    (hCheck : key.numbers.check = .ok key)
    (hAlg : ∀ name, alg = some name →
      ∃ a ∈ SigningAlgorithm.all, a.name = name) :
    Jwk.toMaterial (ofKey key alg kid use).toJwk =
      .ok (ofKey key alg kid use) := by
  let jwk := (ofKey key alg kid use).toJwk
  have hMembers : jwk.memberOrNull "alg" = Json.text? alg ∧
      jwk.memberOrNull "kid" = Json.string? kid ∧
      jwk.memberOrNull "use" = Json.string? use :=
    (ofKey key alg kid use).optional_toJwk
  have hn : jwk.memberOrNull "n" =
      Json.text (Key.writeMember key.numbers.n) := rfl
  have he : jwk.memberOrNull "e" =
      Json.text (Key.writeMember key.numbers.e) := rfl
  have hd : jwk.memberOrNull "d" =
      Json.text (Key.writeMember key.numbers.d) := rfl
  rw [Jwk.toMaterial_eq_ok_iff]
  refine ⟨?_, rfl, Jwk.has_of_writeMember hd, alg, key, kid, use, ?_, ?_,
    Jwk.optionalText_of_string? hMembers.2.1,
    Jwk.optionalText_of_string? hMembers.2.2, rfl⟩
  · have hType : Jwk.has jwk "kty" = true := rfl
    simp [Jwk.requiredMembers, hType, Jwk.has_of_writeMember hn,
      Jwk.has_of_writeMember he, jwk]
  · exact Jwk.algorithmText_of_supported hMembers.1 hAlg
  · rw [Jwk.key_eq_ok_iff]
    exact ⟨numbers_toJwk key.numbers alg kid use, hCheck⟩

------------------------------------------------------------
-- Public Keys
------------------------------------------------------------

/- The names of a public JWK are different. -/
theorem nodup_publicJwk (m : KeyMaterial) :
    (m.publicJwk.map Prod.fst).Nodup :=
  (Jwk.names_present_sublist _).nodup (by simp)

/- The public JWK of exported material holds the numbers of the key. -/
theorem IsExported.number_publicJwk
    {m : KeyMaterial}
    {key : Rsa.PrivateKey}
    (h : m.IsExported key) :
    Jwk.number m.publicJwk "n" = .ok key.numbers.n ∧
      Jwk.number m.publicJwk "e" = .ok key.numbers.e := by
  rw [h.eq_ofKey]
  constructor
  · exact Jwk.number_of_writeMember rfl
  · exact Jwk.number_of_writeMember rfl

end KeyMaterial

end KeyAssertion
