import KeyAssertion.Proofs.Key.Recovery
import KeyAssertion.Proofs.Token.Opening
import KeyAssertion.Proofs.Token.Secrecy

/-
  Keys of which a JWK gives not all members: with the
  deterministic padding every token is, down to its text, the
  one that the key of the full JWK signs.

  Key definitions include:
    * `KeyMaterial.IsRecovered`

  Key theorems include:
    * `ClientAssertion.create_eq_of_sharesFactors`
    * `PossessionProof.create_eq_of_sharesFactors`
    * `KeyMaterial.IsExported.isRecovered`
    * `Jwk.isRecovered_strip`
-/

namespace KeyAssertion

------------------------------------------------------------
-- Tokens
------------------------------------------------------------

section Tokens

variable {m m' : KeyMaterial} {key key' : Rsa.PrivateKey}
variable {a : SigningAlgorithm}

/- Keys with the same factors sign the same token. -/
theorem SignedToken.sign_eq_of_sharesFactors
    (hKey : m.toKey = .ok key)
    (hKey' : m'.toKey = .ok key')
    (hShares : key.numbers.SharesFactors key'.numbers)
    (hPadding : a.padding = .pkcs1)
    (salt : Nat → Bytes)
    (header claims : JsonObject) :
    sign m' a salt header claims = sign m a salt header claims := by
  simp only [sign, hKey, hKey', hPadding, Except.mapError, bind,
    Except.bind, Rsa.sign_eq_of_sharesFactors hShares]

/- So they make the same assertion, or fail alike. -/
theorem ClientAssertion.create_eq_of_sharesFactors
    (hPublic : m.SharesPublic m')
    (hKid : m.kid = m'.kid)
    (hKey : m.toKey = .ok key)
    (hKey' : m'.toKey = .ok key')
    (hShares : key.numbers.SharesFactors key'.numbers)
    (hAlgorithm : m.algorithm = .ok a)
    (hPadding : a.padding = .pkcs1)
    (r : Request)
    (now : Moment)
    (source : TokenSource) :
    create { r with key := m' } now source =
      create { r with key := m } now source := by
  unfold create
  rw [← check_eq hPublic]
  cases hCheck : Request.check { r with key := m } now with
  | error e => rfl
  | ok checked =>
      rcases checked with ⟨given, expiresAt⟩
      have hGiven := ((check_eq_ok_iff _ _ _ _).mp hCheck).2.2.2.1
      have hSame : given = a :=
        Except.ok.inj (hGiven.symm.trans hAlgorithm)
      rw [hSame]
      dsimp only
      rw [SignedToken.sign_eq_of_sharesFactors hKey hKey' hShares hPadding,
        ← kid_eq hKid]
      rfl

/- And the same proof. -/
theorem PossessionProof.create_eq_of_sharesFactors
    (hPublic : m.SharesPublic m')
    (hKey : m.toKey = .ok key)
    (hKey' : m'.toKey = .ok key')
    (hShares : key.numbers.SharesFactors key'.numbers)
    (hAlgorithm : m.algorithm = .ok a)
    (hPadding : a.padding = .pkcs1)
    (r : Request)
    (now : Moment)
    (source : TokenSource) :
    create { r with key := m' } now source =
      create { r with key := m } now source := by
  unfold create
  rw [← check_eq hPublic]
  cases hCheck : Request.check { r with key := m } with
  | error e => rfl
  | ok given =>
      have hGiven := ((check_eq_ok_iff _ _).mp hCheck).2.2
      have hSame : given = a :=
        Except.ok.inj (hGiven.symm.trans hAlgorithm)
      rw [hSame]
      dsimp only
      rw [SignedToken.sign_eq_of_sharesFactors hKey hKey' hShares hPadding,
        ← headerMembers_eq hPublic]
      rfl

end Tokens

------------------------------------------------------------
-- Recovered Keys
------------------------------------------------------------

/-
  What holds of the material of a JWK and of the one that it
  gives after members of its factors were taken:
    * the modulus, the exponents, the algorithm, the key id and
      the use are the same;
    * the factors are the same, now in order, and the last three
      numbers are those of the factors;
    * the factors do not depend on the bases of the search;
    * with the deterministic padding every assertion and every
      proof is the same, or is refused for the same reason.
-/
structure KeyMaterial.IsRecovered
    (m m' : KeyMaterial)
    (k k' : Rsa.Numbers) : Prop where
  members : m'.n = m.n ∧ m'.e = m.e ∧ m'.d = m.d
  texts : m'.alg = m.alg ∧ m'.kid = m.kid ∧ m'.use = m.use
  factors : k.SharesFactors k'
  order : k'.q < k'.p
  dp : k'.dp = k.d % (k'.p - 1)
  dq : k'.dq = k.d % (k'.q - 1)
  qi : k'.qi < k'.p ∧ k'.qi * k'.q % k'.p = 1
  search :
    ∀ bases,
      Rsa.recoverFactorsFrom bases k.n k.e k.d ≠ .error .notFound →
        Rsa.recoverFactorsFrom bases k.n k.e k.d = .ok (k'.p, k'.q)
  assertion :
    ∀ a,
      m.algorithm = .ok a →
        a.padding = .pkcs1 →
          ∀ (r : ClientAssertion.Request) (now : Moment)
            (source : TokenSource),
            ClientAssertion.create { r with key := m' } now source =
              ClientAssertion.create { r with key := m } now source
  proof :
    ∀ a,
      m.algorithm = .ok a →
        a.padding = .pkcs1 →
          ∀ (r : PossessionProof.Request) (now : Moment)
            (source : TokenSource),
            PossessionProof.create { r with key := m' } now source =
              PossessionProof.create { r with key := m } now source

/-
  The material of a key and that of the key with its factors in
  order, if the search for them comes to them or to nothing.
-/
theorem KeyMaterial.IsExported.isRecovered
    {m : KeyMaterial}
    {key : Rsa.PrivateKey}
    (h : m.IsExported key)
    (hCheck : key.numbers.check = .ok key)
    (hSearch :
      ∀ bases,
        Rsa.recoverFactorsFrom bases key.numbers.n key.numbers.e
              key.numbers.d ≠
            .error .notFound →
          Rsa.recoverFactorsFrom bases key.numbers.n key.numbers.e
              key.numbers.d =
            .ok (key.numbers.recovered.p, key.numbers.recovered.q)) :
    m.IsRecovered (.ofKey (Jwk.recoveredKey key) m.alg m.kid m.use)
      key.numbers key.numbers.recovered := by
  let m' := ofKey (Jwk.recoveredKey key) m.alg m.kid m.use
  have hSound := key.isSound
  have hShares := key.numbers.sharesFactors_recovered
  have hKey : m.toKey = .ok key := by
    rw [h.eq_ofKey, toKey_ofKey, hCheck]
    rfl
  have hKey' : m'.toKey = .ok (Jwk.recoveredKey key) := by
    rw [toKey_ofKey, Jwk.check_recoveredKey hCheck]
    rfl
  have hMembers : m'.n = m.n ∧ m'.e = m.e ∧ m'.d = m.d := by
    rw [h.eq_ofKey]
    exact ⟨rfl, rfl, rfl⟩
  have hPublic : m.SharesPublic m' :=
    ⟨h.kty, hMembers.1.symm, hMembers.2.1.symm, rfl, ⟨_, hKey⟩,
      ⟨_, hKey'⟩⟩
  constructor
  · exact hMembers
  · exact ⟨rfl, rfl, rfl⟩
  · exact hShares
  · exact hSound.recovered_q_lt_p
  · rfl
  · rfl
  · exact ⟨hSound.recovered.qi_lt, hSound.recovered.qi_inverse⟩
  · exact hSearch
  · intro a hAlgorithm hPadding r now source
    exact ClientAssertion.create_eq_of_sharesFactors hPublic rfl hKey
      hKey' hShares hAlgorithm hPadding r now source
  · intro a hAlgorithm hPadding r now source
    exact PossessionProof.create_eq_of_sharesFactors hPublic hKey hKey'
      hShares hAlgorithm hPadding r now source

/-
  A JWK that was accepted is accepted without some members of
  its factors, and denotes the same key, if the two factors are
  primes and the search for them comes to an end.
-/
theorem Jwk.isRecovered_strip
    {jwk : JsonObject}
    {m : KeyMaterial}
    {k : Rsa.Numbers}
    (hAccepted : toMaterial jwk = .ok m)
    (hNumbers : m.numbers = .ok k)
    (hp : k.p.Prime)
    (hq : k.q.Prime)
    (hModulus : 17 < k.n)
    (hPrivate : 1 < k.d)
    (hFound : Rsa.recoverFactors k.n k.e k.d ≠ .error .notFound)
    {removals : List (String × Removal)}
    (hNames : ∀ r ∈ removals, r.1 ∈ factorMembers)
    (hSome : removals ≠ []) :
    ∃ m' k',
      toMaterial (strip jwk removals) = .ok m' ∧
        m'.numbers = .ok k' ∧
        m.IsRecovered m' k k' := by
  rcases isExported_of_toMaterial hAccepted with
    ⟨key, hExported, hCheck⟩
  obtain rfl := hExported.numbers_eq hNumbers
  have hSearch :
      ∀ bases,
        Rsa.recoverFactorsFrom bases key.numbers.n key.numbers.e
              key.numbers.d ≠
            .error .notFound →
          Rsa.recoverFactorsFrom bases key.numbers.n key.numbers.e
              key.numbers.d =
            .ok (key.numbers.recovered.p, key.numbers.recovered.q) := by
    intro bases hEnds
    rcases key.isSound.recoverFactorsFrom_cases hp hq hModulus hPrivate
        bases with hComes | hNone
    · exact hComes
    · exact absurd hNone hEnds
  have hFactors :
      Rsa.recoverFactors key.numbers.n key.numbers.e key.numbers.d =
        .ok (key.numbers.recovered.p, key.numbers.recovered.q) := by
    rw [Rsa.recoverFactors_eq] at hFound ⊢
    exact hSearch _ hFound
  have hAccepted' :
      toMaterial (strip jwk removals) =
        .ok (.ofKey (recoveredKey key) m.alg m.kid m.use) :=
    (lacksFactors_strip hNames hSome).toMaterial_eq hAccepted hExported
      hCheck hFactors
  refine ⟨_, key.numbers.recovered, hAccepted', ?_, ?_⟩
  · exact KeyMaterial.numbers_ofNumbers _ _ _ _
  · exact hExported.isRecovered hCheck hSearch

/-
  The sample key is recovered from a JWK without its first
  factor, with null for the inverse and with an empty exponent.
-/
theorem Jwk.isRecovered_strip_of_sampleKey :
    let m := KeyMaterial.ofKey Rsa.sampleKey none none none
    (factorMembers.all (has m.toJwk) = true ∧
        toMaterial m.toJwk = .ok m) ∧
      ∃ m' k',
        toMaterial
            (strip m.toJwk [("p", .erased), ("qi", .null),
              ("dq", .empty)]) =
          .ok m' ∧
          m'.numbers = .ok k' ∧
          m.IsRecovered m' Rsa.sampleNumbers k' := by
  let m := KeyMaterial.ofKey Rsa.sampleKey none none none
  have hPrivate : Rsa.sampleNumbers.d < Rsa.sampleNumbers.n := by
    decide +kernel
  have hPublic : Rsa.sampleNumbers.e < Rsa.sampleNumbers.n := by
    decide +kernel
  have hGiven : factorMembers.all (has m.toJwk) = true := by
    decide +kernel
  have hAccepted : toMaterial m.toJwk = .ok m := by
    apply KeyMaterial.toMaterial_toJwk
    · exact (Rsa.Numbers.check_eq_ok_iff _ _).mpr
        ⟨rfl, hPrivate, hPublic⟩
    · nofun
  refine ⟨⟨hGiven, hAccepted⟩, ?_⟩
  apply isRecovered_strip hAccepted
  · exact KeyMaterial.numbers_ofNumbers Rsa.sampleNumbers _ _ _
  · exact Rsa.prime_p_sampleNumbers
  · exact Rsa.prime_q_sampleNumbers
  · decide +kernel
  · decide +kernel
  · decide +kernel
  · decide
  · decide

end KeyAssertion
