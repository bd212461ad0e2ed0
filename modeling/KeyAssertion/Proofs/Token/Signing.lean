import KeyAssertion.Proofs.Clock.Moment
import KeyAssertion.Proofs.Rsa.Signature
import KeyAssertion.Proofs.Secret.Usable
import KeyAssertion.Rsa.Generation
import KeyAssertion.Token.Assertion
import KeyAssertion.Token.Proof

/-
  When a token is made: the request must be valid and the key
  must have room for the digest of its algorithm.

  Key definitions include:
    * `SignedToken.IsSignedWith`

  Key theorems include:
    * `SignedToken.sign_eq_ok_iff`
    * `ClientAssertion.create_eq_ok_iff`
    * `ClientAssertion.exists_create_iff`
    * `PossessionProof.exists_create_iff`
    * `Secret.resolve_signs_iff`
-/

namespace KeyAssertion

------------------------------------------------------------
-- Algorithms
------------------------------------------------------------

namespace SigningAlgorithm

/- No supported algorithm has an empty name. -/
theorem name_ne_empty
    {a : SigningAlgorithm}
    (h : a ∈ all) :
    a.name ≠ "" := by
  have hAll : ∀ a ∈ all, a.name ≠ "" := by
    decide
  exact hAll a h

/- The algorithm of a key without one is supported, too. -/
theorem ofName?_defaultName :
    ofName? defaultName = some ⟨.pkcs1, .sha256⟩ := by
  decide

end SigningAlgorithm

namespace KeyMaterial

/- Imported material signs with its own algorithm, or the default. -/
theorem IsExported.exists_algorithm
    {m : KeyMaterial}
    {key : Rsa.PrivateKey}
    (h : m.IsExported key) :
    ∃ a ∈ SigningAlgorithm.all,
      a.name = m.alg.getD SigningAlgorithm.defaultName ∧
        m.algorithm = .ok a := by
  unfold algorithm algorithmName
  cases hAlg : m.alg with
  | none =>
      refine ⟨⟨.pkcs1, .sha256⟩, by decide, by decide, ?_⟩
      simp only [SigningAlgorithm.ofName?_defaultName]
  | some name =>
      rcases h.supported name hAlg with ⟨a, hSupported, rfl⟩
      refine ⟨a, hSupported, rfl, ?_⟩
      simp only [SigningAlgorithm.name_ne_empty hSupported, if_false,
        SigningAlgorithm.ofName?_name hSupported]

end KeyMaterial

------------------------------------------------------------
-- Signed Tokens
------------------------------------------------------------

/- A draw has as many random bytes as were asked for. -/
theorem TokenSource.length_nextSalt
    (source : TokenSource)
    (length : Nat) :
    (source.nextSalt length).length = length := by
  simp [nextSalt]

namespace SignedToken

/-
  Whether a token holds a signature of a key over its first two
  segments, with an algorithm that its header names.
-/
def IsSignedWith
    (t : SignedToken)
    (key : Rsa.PrivateKey)
    (a : SigningAlgorithm) : Prop :=
  (∃ members, t.header = headerText a members) ∧
    ∃ salt : Bytes,
      Rsa.sign key a.padding a.digest salt
        (Bytes.ofText t.signingInput) = .ok t.signature

variable {m : KeyMaterial} {key : Rsa.PrivateKey}
variable {a : SigningAlgorithm}

/- A token is what the key of its material has signed. -/
theorem sign_eq_ok_iff
    (hKey : m.toKey = .ok key)
    (salt : Nat → Bytes)
    (header claims : JsonObject)
    (t : SignedToken) :
    sign m a salt header claims = .ok t ↔
      t.header = headerText a header ∧
        t.claims = claimsText claims ∧
        Rsa.sign key a.padding a.digest (salt a.digest.length)
          (Bytes.ofText t.signingInput) = .ok t.signature := by
  unfold sign
  simp only [hKey, Attempt.bind_eq_ok_iff, Attempt.mapError_eq_ok_iff,
    Except.ok.injEq, exists_eq_left']
  constructor
  · rintro ⟨signature, hSign, hToken⟩
    cases hToken
    exact ⟨rfl, rfl, hSign⟩
  · rintro ⟨hHeader, hClaims, hSign⟩
    refine ⟨t.signature, ?_, ?_⟩
    · rw [← hHeader, ← hClaims]
      exact hSign
    · rw [← hHeader, ← hClaims]
      rfl

/- It is then signed with this key. -/
theorem isSignedWith_of_sign
    {salt : Nat → Bytes}
    {header claims : JsonObject}
    {t : SignedToken}
    (hKey : m.toKey = .ok key)
    (h : sign m a salt header claims = .ok t) :
    t.IsSignedWith key a := by
  rcases (sign_eq_ok_iff hKey _ _ _ _).mp h with ⟨hHeader, -, hSign⟩
  exact ⟨⟨header, hHeader⟩, _, hSign⟩

/- A key makes a token if and only if it has room for the digest. -/
theorem exists_sign_iff
    (hKey : m.toKey = .ok key)
    (source : TokenSource)
    (header claims : JsonObject) :
    (∃ t, sign m a source.nextSalt header claims = .ok t) ↔
      Rsa.HasRoom a.padding a.digest key.bits := by
  have hSalt := source.length_nextSalt a.digest.length
  constructor
  · rintro ⟨t, hSigned⟩
    rcases (sign_eq_ok_iff hKey _ _ _ _).mp hSigned with ⟨-, -, hSign⟩
    exact (Rsa.exists_sign_iff _ _ _ hSalt).mp ⟨_, hSign⟩
  · intro hRoom
    let input := Bytes.ofText
      (signingInputOf (headerText a header) (claimsText claims))
    rcases (Rsa.exists_sign_iff key a.padding input hSalt).mpr hRoom with
      ⟨signature, hSign⟩
    exact ⟨⟨headerText a header, claimsText claims, signature⟩,
      (sign_eq_ok_iff hKey _ _ _ _).mpr ⟨rfl, rfl, hSign⟩⟩

end SignedToken

------------------------------------------------------------
-- Assertions
------------------------------------------------------------

namespace ClientAssertion

/-
  A request is valid if its parts are there, its key has an
  algorithm, and the expiry is a moment that is not past.
-/
theorem check_eq_ok_iff
    (r : Request)
    (now expiresAt : Moment)
    (a : SigningAlgorithm) :
    r.check now = .ok (a, expiresAt) ↔
      0 ≤ r.expirySeconds ∧ r.issuer ≠ "" ∧ r.clientId ≠ "" ∧
        r.key.algorithm = .ok a ∧
        expiresAt.micros = now.micros + r.expirySeconds * 1000000 := by
  unfold Request.check
  by_cases hExpiry : r.expirySeconds < 0
  case pos =>
    have hPast : ¬ 0 ≤ r.expirySeconds := by
      omega
    simp [hExpiry, hPast, bind, Except.bind]
  by_cases hIssuer : r.issuer = ""
  case pos =>
    simp [hExpiry, hIssuer, bind, Except.bind]
  by_cases hClient : r.clientId = ""
  case pos =>
    simp [hExpiry, hIssuer, hClient, bind, Except.bind]
  simp only [hExpiry, hIssuer, hClient, if_false, Attempt.bind_eq_ok_iff,
    Attempt.mapError_eq_ok_iff]
  constructor
  · rintro ⟨a', hAlgorithm, lifetime, hLifetime, later, hLater, hPure⟩
    cases hPure
    have hAdd := (Moment.ofMicros_eq_ok_iff _ _).mp hLater
    rw [Duration.micros_of_ofMicros hLifetime] at hAdd
    exact ⟨by omega, hIssuer, hClient, hAlgorithm, hAdd⟩
  · rintro ⟨-, -, -, hAlgorithm, hMicros⟩
    refine ⟨a, hAlgorithm, _, Duration.ofMicros_of_moments hMicros,
      expiresAt, ?_, rfl⟩
    exact (Moment.ofMicros_eq_ok_iff _ _).mpr hMicros

/- An assertion is the signed token of a valid request. -/
theorem create_eq_ok_iff
    (r : Request)
    (now : Moment)
    (source : TokenSource)
    (x : ClientAssertion) :
    (create r now source).1 = .ok x ↔
      ∃ a, r.check now = .ok (a, x.expiresAt) ∧
        SignedToken.sign r.key a source.nextSalt (headerMembers r.kid)
          (claimMembers r now x.expiresAt source.nextIdentifier) =
            .ok x.token := by
  unfold create
  cases hCheck : r.check now with
  | error e => simp
  | ok checked =>
      rcases checked with ⟨a, expiresAt⟩
      simp only [Attempt.map_eq_ok_iff, Except.ok.injEq, Prod.mk.injEq]
      constructor
      · rintro ⟨t, hSigned, rfl⟩
        exact ⟨a, ⟨rfl, rfl⟩, hSigned⟩
      · rintro ⟨_, ⟨rfl, rfl⟩, hSigned⟩
        exact ⟨x.token, hSigned, rfl⟩

section Signed

variable {r : Request} {now : Moment} {source : TokenSource}
variable {key : Rsa.PrivateKey} {a : SigningAlgorithm}

/- It is signed with the algorithm of the key of its request. -/
theorem sign_of_create
    {x : ClientAssertion}
    (hAlgorithm : r.key.algorithm = .ok a)
    (h : (create r now source).1 = .ok x) :
    SignedToken.sign r.key a source.nextSalt (headerMembers r.kid)
      (claimMembers r now x.expiresAt source.nextIdentifier) =
        .ok x.token := by
  rcases (create_eq_ok_iff _ _ _ _).mp h with ⟨a', hCheck, hSigned⟩
  have hSame := ((check_eq_ok_iff _ _ _ _).mp hCheck).2.2.2.1
  rw [hAlgorithm] at hSame
  cases hSame
  exact hSigned

/-
  A valid request gives an assertion if and only if the key
  has room for the digest of its algorithm.
-/
theorem exists_create_iff
    (source : TokenSource)
    (hKey : r.key.toKey = .ok key)
    (hAlgorithm : r.key.algorithm = .ok a)
    (hIssuer : r.issuer ≠ "")
    (hClient : r.clientId ≠ "")
    (hExpiry : 0 ≤ r.expirySeconds)
    (hDate : now.micros + r.expirySeconds * 1000000 ≤ maxMicros) :
    (∃ x, (create r now source).1 = .ok x ∧ x.token.IsSignedWith key a) ↔
      Rsa.HasRoom a.padding a.digest key.bits := by
  constructor
  · rintro ⟨x, hCreated, -⟩
    exact (SignedToken.exists_sign_iff hKey source _ _).mp
      ⟨_, sign_of_create hAlgorithm hCreated⟩
  · intro hRoom
    have hNow := now.inRange.1
    let expiresAt : Moment :=
      ⟨now.micros + r.expirySeconds * 1000000, by omega, hDate⟩
    have hCheck : r.check now = .ok (a, expiresAt) :=
      (check_eq_ok_iff _ _ _ _).mpr
        ⟨hExpiry, hIssuer, hClient, hAlgorithm, rfl⟩
    rcases (SignedToken.exists_sign_iff hKey source (headerMembers r.kid)
        (claimMembers r now expiresAt source.nextIdentifier)).mpr hRoom with
      ⟨t, hSigned⟩
    refine ⟨⟨t, expiresAt⟩, ?_, SignedToken.isSignedWith_of_sign hKey hSigned⟩
    exact (create_eq_ok_iff _ _ _ _).mpr ⟨a, hCheck, hSigned⟩

end Signed

end ClientAssertion

------------------------------------------------------------
-- Proofs of Possession
------------------------------------------------------------

namespace PossessionProof

/- A request is valid if its parts are there and its key has an algorithm. -/
theorem check_eq_ok_iff
    (r : Request)
    (a : SigningAlgorithm) :
    r.check = .ok a ↔
      r.httpMethod ≠ "" ∧ r.httpUrl ≠ "" ∧ r.key.algorithm = .ok a := by
  unfold Request.check
  by_cases hMethod : r.httpMethod = ""
  case pos =>
    simp [hMethod, bind, Except.bind]
  by_cases hUrl : r.httpUrl = ""
  case pos =>
    simp [hMethod, hUrl, bind, Except.bind]
  simp [hMethod, hUrl, Attempt.mapError_eq_ok_iff]

/- A proof is the signed token of a valid request and tells what is in it. -/
theorem create_eq_ok_iff
    (r : Request)
    (now : Moment)
    (source : TokenSource)
    (x : PossessionProof) :
    (create r now source).1 = .ok x ↔
      ∃ a t, r.check = .ok a ∧
        SignedToken.sign r.key a source.nextSalt (headerMembers r.key)
          (claimMembers r now source.nextIdentifier) = .ok t ∧
        x = ⟨r.httpMethod, r.httpUrl, now, source.nextIdentifier,
          r.nonceClaim, r.hashClaim, t⟩ := by
  unfold create
  cases hCheck : r.check with
  | error e => simp
  | ok a =>
      simp only [Attempt.map_eq_ok_iff, Except.ok.injEq]
      constructor
      · rintro ⟨t, hSigned, rfl⟩
        exact ⟨a, t, rfl, hSigned, rfl⟩
      · rintro ⟨_, t, rfl, hSigned, rfl⟩
        exact ⟨t, hSigned, rfl⟩

/- A token is that of a proof if it is signed for a valid request. -/
theorem exists_create_token_iff
    (r : Request)
    (now : Moment)
    (source : TokenSource)
    (t : SignedToken) :
    (∃ x, (create r now source).1 = .ok x ∧ x.token = t) ↔
      ∃ a, r.check = .ok a ∧
        SignedToken.sign r.key a source.nextSalt (headerMembers r.key)
          (claimMembers r now source.nextIdentifier) = .ok t := by
  simp only [create_eq_ok_iff]
  constructor
  · rintro ⟨x, ⟨a, t', hCheck, hSigned, rfl⟩, rfl⟩
    exact ⟨a, hCheck, hSigned⟩
  · rintro ⟨a, hCheck, hSigned⟩
    exact ⟨_, ⟨a, t, hCheck, hSigned, rfl⟩, rfl⟩

section Signed

variable {r : Request} {now : Moment} {source : TokenSource}
variable {key : Rsa.PrivateKey} {a : SigningAlgorithm}

/- It is signed with the algorithm of the key of its request. -/
theorem sign_of_create
    {x : PossessionProof}
    (hAlgorithm : r.key.algorithm = .ok a)
    (h : (create r now source).1 = .ok x) :
    SignedToken.sign r.key a source.nextSalt (headerMembers r.key)
      (claimMembers r now source.nextIdentifier) = .ok x.token := by
  rcases (exists_create_token_iff r now source x.token).mp ⟨x, h, rfl⟩ with
    ⟨a', hCheck, hSigned⟩
  have hSame := ((check_eq_ok_iff _ _).mp hCheck).2.2
  rw [hAlgorithm] at hSame
  cases hSame
  exact hSigned

/- The same decides whether a valid request gives a proof. -/
theorem exists_create_iff
    (now : Moment)
    (source : TokenSource)
    (hKey : r.key.toKey = .ok key)
    (hAlgorithm : r.key.algorithm = .ok a)
    (hMethod : r.httpMethod ≠ "")
    (hUrl : r.httpUrl ≠ "") :
    (∃ x, (create r now source).1 = .ok x ∧ x.token.IsSignedWith key a) ↔
      Rsa.HasRoom a.padding a.digest key.bits := by
  constructor
  · rintro ⟨x, hCreated, -⟩
    exact (SignedToken.exists_sign_iff hKey source _ _).mp
      ⟨_, sign_of_create hAlgorithm hCreated⟩
  · intro hRoom
    have hCheck : r.check = .ok a :=
      (check_eq_ok_iff _ _).mpr ⟨hMethod, hUrl, hAlgorithm⟩
    rcases (SignedToken.exists_sign_iff hKey source (headerMembers r.key)
        (claimMembers r now source.nextIdentifier)).mpr hRoom with
      ⟨t, hSigned⟩
    rcases (exists_create_token_iff r now source t).mpr
      ⟨a, hCheck, hSigned⟩ with ⟨x, hCreated, rfl⟩
    exact ⟨x, hCreated, SignedToken.isSignedWith_of_sign hKey hSigned⟩

end Signed

end PossessionProof

------------------------------------------------------------
-- Resolved Keys
------------------------------------------------------------

/-
  A key can be made of a resolved one whose exponents are both
  below the modulus, and its algorithm is the key's own or the
  default.  Every assertion and every proof that is validly
  asked for is then made and signed with this algorithm if and
  only if the modulus has room for its digest.
-/
theorem Secret.resolve_signs_iff
    [KeyLibrary]
    {store : CertificateStore}
    {now : Moment}
    {raw : Option String}
    {m : KeyMaterial}
    {k : Rsa.Numbers}
    (h : Secret.resolve store now raw = .ok m)
    (hNumbers : m.numbers = .ok k)
    (hPrivate : k.d < k.n)
    (hPublic : k.e < k.n) :
    ∃ key : Rsa.PrivateKey, key.numbers = k ∧
      ∃ a ∈ SigningAlgorithm.all,
        a.name = m.alg.getD SigningAlgorithm.defaultName ∧
        (∀ (r : ClientAssertion.Request) (moment : Moment)
            (source : TokenSource),
          r.key = m → r.issuer ≠ "" → r.clientId ≠ "" →
          0 ≤ r.expirySeconds →
          moment.micros + r.expirySeconds * 1000000 ≤ maxMicros →
          ((∃ x, (ClientAssertion.create r moment source).1 = .ok x ∧
              x.token.IsSignedWith key a) ↔
            Rsa.HasRoom a.padding a.digest key.bits)) ∧
        ∀ (r : PossessionProof.Request) (moment : Moment)
            (source : TokenSource),
          r.key = m → r.httpMethod ≠ "" → r.httpUrl ≠ "" →
          ((∃ x, (PossessionProof.create r moment source).1 = .ok x ∧
              x.token.IsSignedWith key a) ↔
            Rsa.HasRoom a.padding a.digest key.bits) := by
  rcases Secret.isExported_of_resolve h with ⟨key, hExported⟩
  have hSame := hExported.numbers_eq hNumbers
  subst hSame
  have hKey : m.toKey = .ok key :=
    hExported.toKey_eq_ok hPrivate hPublic
  rcases hExported.exists_algorithm with
    ⟨a, hSupported, hName, hAlgorithm⟩
  refine ⟨key, rfl, a, hSupported, hName, ?_, ?_⟩
  · rintro r moment source rfl hIssuer hClient hExpiry hDate
    exact ClientAssertion.exists_create_iff source hKey hAlgorithm
      hIssuer hClient hExpiry hDate
  · rintro r moment source rfl hMethod hUrl
    exact PossessionProof.exists_create_iff moment source hKey hAlgorithm
      hMethod hUrl

------------------------------------------------------------
-- Keys With and Without Room
------------------------------------------------------------

/- The numbers of a key of 63 bytes. -/
def Rsa.sampleNumbers : Rsa.Numbers :=
  .ofFactors 65537 (29 * 2 ^ 245 + 1) (17 * 2 ^ 243 + 1)

/- They belong together. -/
theorem Rsa.isSound_sampleNumbers :
    Rsa.sampleNumbers.isSound = true := by
  decide +kernel

/- The key of these numbers, with room for the shortest digest. -/
def Rsa.sampleKey : Rsa.PrivateKey :=
  ⟨Rsa.sampleNumbers, Rsa.isSound_sampleNumbers⟩

/- It can be made of what is exported of it, whatever its name. -/
theorem KeyMaterial.toKey_sampleKey (kid : Option JsonString) :
    (ofKey Rsa.sampleKey none kid none).toKey = .ok Rsa.sampleKey := by
  apply (isExported_ofKey_none _ kid none).toKey_eq_ok
  · decide +kernel
  · decide +kernel

/- It has room for the digest of its algorithm. -/
theorem Rsa.hasRoom_sampleKey :
    Rsa.HasRoom .pkcs1 .sha256 Rsa.sampleKey.bits := by
  decide +kernel

/- It signs every assertion that is validly asked for. -/
theorem ClientAssertion.exists_create_of_sampleKey
    {r : Request}
    {kid : Option JsonString}
    (now : Moment)
    (source : TokenSource)
    (hKey : r.key = .ofKey Rsa.sampleKey none kid none)
    (hIssuer : r.issuer ≠ "")
    (hClient : r.clientId ≠ "")
    (hExpiry : 0 ≤ r.expirySeconds)
    (hDate : now.micros + r.expirySeconds * 1000000 ≤ maxMicros) :
    ∃ x, (create r now source).1 = .ok x := by
  have hMaterial : r.key.toKey = .ok Rsa.sampleKey := by
    rw [hKey, KeyMaterial.toKey_sampleKey]
  have hAlgorithm : r.key.algorithm = .ok ⟨.pkcs1, .sha256⟩ := by
    rw [hKey]
    rfl
  rcases (exists_create_iff source hMaterial hAlgorithm hIssuer hClient
      hExpiry hDate).mpr Rsa.hasRoom_sampleKey with ⟨x, hCreated, _⟩
  exact ⟨x, hCreated⟩

/- It signs every proof that is validly asked for. -/
theorem PossessionProof.exists_create_of_sampleKey
    {r : Request}
    {kid : Option JsonString}
    (now : Moment)
    (source : TokenSource)
    (hKey : r.key = .ofKey Rsa.sampleKey none kid none)
    (hMethod : r.httpMethod ≠ "")
    (hUrl : r.httpUrl ≠ "") :
    ∃ x, (create r now source).1 = .ok x := by
  have hMaterial : r.key.toKey = .ok Rsa.sampleKey := by
    rw [hKey, KeyMaterial.toKey_sampleKey]
  have hAlgorithm : r.key.algorithm = .ok ⟨.pkcs1, .sha256⟩ := by
    rw [hKey]
    rfl
  rcases (exists_create_iff now source hMaterial hAlgorithm hMethod
      hUrl).mpr Rsa.hasRoom_sampleKey with ⟨x, hCreated, _⟩
  exact ⟨x, hCreated⟩

namespace Secret

/- A store with one certificate, beside which this key lies. -/
def sampleStore : CertificateStore :=
  .memory
    { entries := [⟨⟨[], [], .epoch, .epoch⟩, some (.rsa Rsa.sampleKey)⟩] }

/- The thumbprint of this certificate. -/
def sampleThumbprint : String :=
  "DA39A3EE5E6B4B0D3255BFEF95601890AFD80709"

/- With the key of this certificate an assertion and a proof are made. -/
theorem resolve_signs_of_sampleStore :
    ∃ m, resolve sampleStore .epoch (some sampleThumbprint) = .ok m ∧
      ∃ key : Rsa.PrivateKey, key.numbers = Rsa.sampleNumbers ∧
        ∃ a : SigningAlgorithm, a.name = "RS256" ∧
          (∀ source, ∃ x,
            (ClientAssertion.create
              { issuer := "https://a", clientId := "c", key := m }
              .epoch source).1 = .ok x ∧ x.token.IsSignedWith key a) ∧
          ∀ source, ∃ x,
            (PossessionProof.create
              { httpMethod := "GET", httpUrl := "https://a", key := m }
              .epoch source).1 = .ok x ∧ x.token.IsSignedWith key a := by
  have hResolved :
      resolve sampleStore .epoch (some sampleThumbprint) =
        .ok (.ofKey Rsa.sampleKey none (some (.text sampleThumbprint)) none) := by
    decide +kernel
  have hPrivate : Rsa.sampleNumbers.d < Rsa.sampleNumbers.n := by
    decide +kernel
  have hPublic : Rsa.sampleNumbers.e < Rsa.sampleNumbers.n := by
    decide +kernel
  rcases resolve_signs_iff hResolved
      (KeyMaterial.numbers_ofNumbers Rsa.sampleNumbers _ _ _)
      hPrivate hPublic with
    ⟨key, hKey, a, hSupported, hName, hAssertion, hProof⟩
  have hOnly : ∀ a ∈ SigningAlgorithm.all,
      a.name = "RS256" → a = ⟨.pkcs1, .sha256⟩ := by
    decide
  have hRoom : Rsa.HasRoom a.padding a.digest key.bits := by
    rw [hOnly a hSupported hName, Rsa.PrivateKey.bits, hKey]
    decide +kernel
  refine ⟨_, hResolved, key, hKey, a, hName, ?_, ?_⟩
  · intro source
    exact (hAssertion _ .epoch source rfl (by decide) (by decide)
      (by decide) (by decide)).mpr hRoom
  · intro source
    exact (hProof _ .epoch source rfl (by decide) (by decide)).mpr hRoom

/- A JWK with the modulus 15. -/
def smallJwk : String :=
  "\x7b\"kty\":\"RSA\",\"n\":\"Dw\",\"e\":\"Aw\",\"d\":\"Aw\","
    ++ "\"p\":\"BQ\",\"q\":\"Aw\",\"dp\":\"Aw\",\"dq\":\"AQ\",\"qi\":\"Ag\"\x7d"

/- A key is also resolved if it has no room for any digest. -/
theorem resolve_not_signs_of_smallJwk :
    ∃ m, resolve (.memory {}) .epoch (some smallJwk) = .ok m ∧
      ∀ source, ¬ ∃ x,
        (ClientAssertion.create
          { issuer := "https://a", clientId := "c", key := m }
          .epoch source).1 = .ok x := by
  let key : Rsa.PrivateKey := ⟨⟨15, 3, 3, 5, 3, 3, 1, 2⟩, by decide⟩
  have hResolved :
      resolve (.memory {}) .epoch (some smallJwk) =
        .ok (.ofKey key none none none) := by
    decide +kernel
  have hKey :
      (KeyMaterial.ofKey key none none none).toKey = .ok key := by
    apply (KeyMaterial.isExported_ofKey_none key none none).toKey_eq_ok
    · decide
    · decide
  have hAlgorithm :
      (KeyMaterial.ofKey key none none none).algorithm =
        .ok ⟨.pkcs1, .sha256⟩ := by
    decide
  refine ⟨_, hResolved, ?_⟩
  rintro source ⟨x, hCreated⟩
  have hSigned := ClientAssertion.sign_of_create hAlgorithm hCreated
  have hRoom := (SignedToken.exists_sign_iff hKey source _ _).mp ⟨_, hSigned⟩
  revert hRoom
  decide

end Secret

end KeyAssertion
