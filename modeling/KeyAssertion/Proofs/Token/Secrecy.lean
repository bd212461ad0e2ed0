import KeyAssertion.Proofs.Key.Pair
import KeyAssertion.Proofs.Token.Signing

/-
  What tokens and public keys tell of a private key.  Keys with
  the same public members give the same tokens, signatures
  aside, and fail alike.

  Key definitions include:
    * `KeyMaterial.SharesPublic`
    * `SignedToken.unsigned`

  Key theorems include:
    * `Rsa.sign_fault_eq`
    * `SignedToken.sign_unsigned_eq`
    * `PossessionProof.create_unsigned_eq`
    * `ClientAssertion.create_unsigned_eq`
    * `KeyMaterial.private_members_not_disclosed`
-/

namespace KeyAssertion

------------------------------------------------------------
-- Keys with the Same Public Members
------------------------------------------------------------

namespace KeyMaterial

/-
  Whether the same public members, with the same algorithm, are
  those of two keys.  The private members, the use and the key
  id may differ.
-/
structure SharesPublic (m m' : KeyMaterial) : Prop where
  kty : m.kty = m'.kty
  n : m.n = m'.n
  e : m.e = m'.e
  alg : m.alg = m'.alg
  left : ∃ key, m.toKey = .ok key
  right : ∃ key, m'.toKey = .ok key

namespace SharesPublic

variable {m m' : KeyMaterial}

/- Such keys have the same size. -/
theorem bits_eq
    {key key' : Rsa.PrivateKey}
    (h : m.SharesPublic m')
    (hKey : m.toKey = .ok key)
    (hKey' : m'.toKey = .ok key') :
    key.bits = key'.bits := by
  have hLeft := readMember_n_of_numbers ((toKey_eq_ok_iff _ _).mp hKey).2.1
  have hRight := readMember_n_of_numbers ((toKey_eq_ok_iff _ _).mp hKey').2.1
  rw [h.n, hRight] at hLeft
  unfold Rsa.PrivateKey.bits
  rw [Except.ok.inj hLeft]

/- They sign with the same algorithm. -/
theorem algorithm_eq (h : m.SharesPublic m') :
    m.algorithm = m'.algorithm := by
  unfold algorithm algorithmName
  rw [h.alg]

/- They have the same public JWK. -/
theorem publicJwk_eq (h : m.SharesPublic m') :
    m.publicJwk = m'.publicJwk := by
  unfold publicJwk
  rw [h.kty, h.n, h.e]

end SharesPublic

end KeyMaterial

------------------------------------------------------------
-- Signatures
------------------------------------------------------------

namespace Rsa

/-
  Whether a key signs, and else why it does not, depends on its
  size and on the length of the salt only.
-/
theorem sign_fault_eq
    {key key' : PrivateKey}
    {salt salt' : Bytes}
    (hBits : key.bits = key'.bits)
    (hSalt : salt.length = salt'.length)
    (padding : Padding)
    (h : Digest)
    (message : Bytes) :
    (sign key padding h salt message).map (fun _ => ()) =
      (sign key' padding h salt' message).map (fun _ => ()) := by
  unfold sign
  simp only [hBits]
  cases padding with
  | pkcs1 =>
      cases pkcs1Encode h ((key'.bits + 7) / 8) message with
      | error fault => rfl
      | ok em => rfl
  | pss =>
      simp only [pssEncode, hSalt]
      split_ifs
      · rfl
      · rfl
      · rfl

end Rsa

namespace SignedToken

/- A token without its signature. -/
def unsigned (t : SignedToken) : SignedToken :=
  { t with signature := [] }

/- Signing leaves the header and the claims as they are, or it fails. -/
theorem map_unsigned_sign
    {m : KeyMaterial}
    {key : Rsa.PrivateKey}
    (hKey : m.toKey = .ok key)
    (a : SigningAlgorithm)
    (salt : Nat → Bytes)
    (header claims : JsonObject) :
    (sign m a salt header claims).map unsigned =
      (((Rsa.sign key a.padding a.digest (salt a.digest.length)
          (Bytes.ofText
            (signingInputOf (headerText a header) (claimsText claims)))).map
        fun _ => ()).mapError TokenError.signature).map
        fun _ => ⟨headerText a header, claimsText claims, []⟩ := by
  simp only [sign, hKey, Except.mapError, bind, Except.bind]
  cases Rsa.sign key a.padding a.digest (salt a.digest.length)
      (Bytes.ofText
        (signingInputOf (headerText a header) (claimsText claims))) with
  | error fault => rfl
  | ok signature => rfl

/-
  Keys of the same size give the same token for the same header
  and claims, the signature aside, or fail alike.
-/
theorem sign_unsigned_eq
    {m m' : KeyMaterial}
    {key key' : Rsa.PrivateKey}
    {salt salt' : Nat → Bytes}
    (hKey : m.toKey = .ok key)
    (hKey' : m'.toKey = .ok key')
    (hBits : key.bits = key'.bits)
    (hSalt : ∀ length, (salt length).length = (salt' length).length)
    (a : SigningAlgorithm)
    (header claims : JsonObject) :
    (sign m a salt header claims).map unsigned =
      (sign m' a salt' header claims).map unsigned := by
  rw [map_unsigned_sign hKey, map_unsigned_sign hKey',
    Rsa.sign_fault_eq hBits (hSalt a.digest.length)]

end SignedToken

------------------------------------------------------------
-- Tokens
------------------------------------------------------------

/- Draws from two sources have the same number of bytes. -/
theorem TokenSource.length_nextSalt_eq
    (source source' : TokenSource)
    (length : Nat) :
    (source.nextSalt length).length = (source'.nextSalt length).length := by
  rw [length_nextSalt, length_nextSalt]

variable {m m' : KeyMaterial}

namespace PossessionProof

/- A proof without its signature. -/
def unsigned (x : PossessionProof) : PossessionProof :=
  { x with token := x.token.unsigned }

/- With the same public members the same requests are valid. -/
theorem check_eq
    (h : m.SharesPublic m')
    (r : Request) :
    Request.check { r with key := m } =
      Request.check { r with key := m' } := by
  unfold Request.check
  rw [h.algorithm_eq]

/- The headers are the same, too. -/
theorem headerMembers_eq (h : m.SharesPublic m') :
    headerMembers m = headerMembers m' := by
  unfold headerMembers
  rw [h.publicJwk_eq]

/-
  With the same public members the same proof is made, the
  signature aside, or none for the same reason.
-/
theorem create_unsigned_eq
    (h : m.SharesPublic m')
    (r : Request)
    (now : Moment)
    {source source' : TokenSource}
    (hIdentifier : source.nextIdentifier = source'.nextIdentifier) :
    (create { r with key := m } now source).1.map unsigned =
      (create { r with key := m' } now source').1.map unsigned := by
  rcases h.left with ⟨key, hKey⟩
  rcases h.right with ⟨key', hKey'⟩
  unfold create
  rw [check_eq h]
  cases Request.check { r with key := m' } with
  | error e => rfl
  | ok a =>
      let proof (t : SignedToken) : PossessionProof :=
        { httpMethod := r.httpMethod
          httpUrl := r.httpUrl
          issuedAt := now
          identifier := source'.nextIdentifier
          nonce := r.nonceClaim
          accessTokenHash := r.hashClaim
          token := t }
      have hSigned := congrArg (Except.map proof)
        (SignedToken.sign_unsigned_eq hKey hKey' (h.bits_eq hKey hKey')
          (source.length_nextSalt_eq source') a (headerMembers m')
          (claimMembers r now source'.nextIdentifier))
      simp only [Attempt.map_map] at hSigned
      simp only [headerMembers_eq h, hIdentifier, Attempt.map_map]
      exact hSigned

end PossessionProof

namespace ClientAssertion

/- An assertion without its signature. -/
def unsigned (x : ClientAssertion) : ClientAssertion :=
  { x with token := x.token.unsigned }

/- With the same public members the same requests are valid. -/
theorem check_eq
    (h : m.SharesPublic m')
    (r : Request)
    (now : Moment) :
    Request.check { r with key := m } now =
      Request.check { r with key := m' } now := by
  unfold Request.check
  rw [h.algorithm_eq]

/- With the same key id of the key it is that of the assertion. -/
theorem kid_eq
    (hKid : m.kid = m'.kid)
    (r : Request) :
    Request.kid { r with key := m } =
      Request.kid { r with key := m' } := by
  unfold Request.kid
  rw [hKid]

/-
  With the same public members and the same key id the same
  assertion is made, the signature aside, or none for the same
  reason.
-/
theorem create_unsigned_eq
    (h : m.SharesPublic m')
    (hKid : m.kid = m'.kid)
    (r : Request)
    (now : Moment)
    {source source' : TokenSource}
    (hIdentifier : source.nextIdentifier = source'.nextIdentifier) :
    (create { r with key := m } now source).1.map unsigned =
      (create { r with key := m' } now source').1.map unsigned := by
  rcases h.left with ⟨key, hKey⟩
  rcases h.right with ⟨key', hKey'⟩
  unfold create
  rw [check_eq h]
  cases Request.check { r with key := m' } now with
  | error e => rfl
  | ok checked =>
      rcases checked with ⟨a, expiresAt⟩
      let assertion (t : SignedToken) : ClientAssertion :=
        ⟨t, expiresAt⟩
      have hSigned := congrArg (Except.map assertion)
        (SignedToken.sign_unsigned_eq hKey hKey' (h.bits_eq hKey hKey')
          (source.length_nextSalt_eq source') a
          (headerMembers (Request.kid { r with key := m' }))
          (claimMembers r now expiresAt source'.nextIdentifier))
      simp only [Attempt.map_map] at hSigned
      simp only [kid_eq hKid, hIdentifier, Attempt.map_map]
      exact hSigned

end ClientAssertion

------------------------------------------------------------
-- Private Members
------------------------------------------------------------

namespace KeyMaterial

/-
  Of two keys with the same public members and algorithm every
  proof of possession tells the same, its signature aside, and
  every assertion does if the key ids are the same, too.  The
  public JWK of a new key is made of its modulus and exponent
  and of the algorithm, use and key id asked for.
-/
theorem private_members_not_disclosed :
    (∀ m m' : KeyMaterial, m.SharesPublic m' →
      ∀ (r : PossessionProof.Request) (now : Moment)
        (source source' : TokenSource),
        source.nextIdentifier = source'.nextIdentifier →
        (PossessionProof.create { r with key := m } now source).1.map
            PossessionProof.unsigned =
          (PossessionProof.create { r with key := m' } now source').1.map
            PossessionProof.unsigned) ∧
    (∀ m m' : KeyMaterial, m.SharesPublic m' → m.kid = m'.kid →
      ∀ (r : ClientAssertion.Request) (now : Moment)
        (source source' : TokenSource),
        source.nextIdentifier = source'.nextIdentifier →
        (ClientAssertion.create { r with key := m } now source).1.map
            ClientAssertion.unsigned =
          (ClientAssertion.create { r with key := m' } now source').1.map
            ClientAssertion.unsigned) ∧
    ∀ (r : KeyPair.Request) (s : Rsa.Entropy) (pair : KeyPair),
      KeyPair.generate r s = .ok pair →
      ∃ key algorithm use, Rsa.generate? r.bits.toNat s = some key ∧
        r.algorithm = some algorithm ∧ r.use = some use ∧
        pair.publicText =
          KeyPair.publicTextOf key.numbers.n key.numbers.e algorithm use
            r.kid := by
  refine ⟨?_, ?_, ?_⟩
  · intro m m' h r now source source' hIdentifier
    exact PossessionProof.create_unsigned_eq h r now hIdentifier
  · intro m m' h hKid r now source source' hIdentifier
    exact ClientAssertion.create_unsigned_eq h hKid r now hIdentifier
  · intro r s pair h
    exact KeyPair.publicText_of_generate h

/- The numbers of the sample key with the two factors swapped. -/
def swappedNumbers : Rsa.Numbers :=
  .ofFactors 65537 (17 * 2 ^ 243 + 1) (29 * 2 ^ 245 + 1)

/- The key of these numbers. -/
def swappedKey : Rsa.PrivateKey :=
  ⟨swappedNumbers, by decide +kernel⟩

/- A key of which both exponents are below the modulus imports. -/
theorem exists_toKey_ofKey_none
    {key : Rsa.PrivateKey}
    (kid use : Option JsonString)
    (hPrivate : key.numbers.d < key.numbers.n)
    (hPublic : key.numbers.e < key.numbers.n) :
    ∃ key', (ofKey key none kid use).toKey = .ok key' :=
  ⟨key, (isExported_ofKey_none key kid use).toKey_eq_ok hPrivate hPublic⟩

/- Both orders of the factors have the same public members. -/
theorem sharesPublic_swapped :
    (ofKey Rsa.sampleKey none (some (.text "k")) none).SharesPublic
      (ofKey swappedKey none (some (.text "k")) (some (.text "sig"))) := by
  constructor
  · rfl
  · decide +kernel
  · decide +kernel
  · rfl
  · exact exists_toKey_ofKey_none _ _ (by decide +kernel) (by decide +kernel)
  · exact exists_toKey_ofKey_none _ _ (by decide +kernel) (by decide +kernel)

/- A source whose first two numbers of 512 bits are primes. -/
def sampleEntropy : Rsa.Entropy :=
  ⟨[21, 253], 0⟩

/-
  The tokens of the two keys tell the same, and so it is with
  the public JWK of a key that is drawn.
-/
theorem private_members_not_disclosed_of_swapped :
    (ofKey Rsa.sampleKey none (some (.text "k")) none).p ≠
        (ofKey swappedKey none (some (.text "k")) (some (.text "sig"))).p ∧
      (∀ source : TokenSource,
        (PossessionProof.create
            { httpMethod := "GET"
              httpUrl := "https://a"
              key := ofKey Rsa.sampleKey none (some (.text "k")) none }
            .epoch source).1.map PossessionProof.unsigned =
          (PossessionProof.create
            { httpMethod := "GET"
              httpUrl := "https://a"
              key := ofKey swappedKey none (some (.text "k"))
                (some (.text "sig")) }
            .epoch source).1.map PossessionProof.unsigned) ∧
      (∀ source : TokenSource,
        (ClientAssertion.create
            { issuer := "https://a"
              clientId := "c"
              key := ofKey Rsa.sampleKey none (some (.text "k")) none }
            .epoch source).1.map ClientAssertion.unsigned =
          (ClientAssertion.create
            { issuer := "https://a"
              clientId := "c"
              key := ofKey swappedKey none (some (.text "k"))
                (some (.text "sig")) }
            .epoch source).1.map ClientAssertion.unsigned) ∧
      ∃ (pair : KeyPair) (key : Rsa.PrivateKey),
        KeyPair.generate { bits := 1024 } sampleEntropy = .ok pair ∧
        pair.publicText =
          KeyPair.publicTextOf key.numbers.n key.numbers.e "RS512"
            (.text "sig") none := by
  rcases private_members_not_disclosed with ⟨hProof, hAssertion, hPair⟩
  refine ⟨by decide +kernel, ?_, ?_, ?_⟩
  · intro source
    exact hProof _ _ sharesPublic_swapped
      { httpMethod := "GET", httpUrl := "https://a", key := default }
      .epoch source source rfl
  · intro source
    exact hAssertion _ _ sharesPublic_swapped rfl
      { issuer := "https://a", clientId := "c", key := default }
      .epoch source source rfl
  · have hMade : ((KeyPair.generate { bits := 1024 } sampleEntropy).toBool) =
        true := by
      decide +kernel
    cases hResult : KeyPair.generate { bits := 1024 } sampleEntropy with
    | error e =>
        rw [hResult] at hMade
        cases hMade
    | ok pair =>
        rcases hPair _ _ pair hResult with
          ⟨key, algorithm, use, -, hAlgorithm, hUse, hText⟩
        cases hAlgorithm
        cases hUse
        exact ⟨pair, key, rfl, hText⟩

end KeyMaterial

end KeyAssertion
