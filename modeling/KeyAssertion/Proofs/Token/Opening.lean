import Mathlib.NumberTheory.LucasPrimality
import Mathlib.Tactic.NormNum.Prime
import KeyAssertion.Proofs.Json.Sorting
import KeyAssertion.Proofs.Key.Export
import KeyAssertion.Proofs.Rsa.Inverse
import KeyAssertion.Proofs.Token.Signing
import KeyAssertion.Text.Pieces

/-
  Tokens as those who receive them see them: what their compact
  form is taken apart to, and that the signature found there
  opens, with the numbers of the public key, to the padded
  digest of the first two segments.

  Key definitions include:
    * `OpenedToken`
    * `OpenedToken.ofValue?`
    * `SignedToken.IsReadableHeader`
    * `OpenedToken.IsVerifiedBy`

  Key theorems include:
    * `OpenedToken.ofValue?_value`
    * `SignedToken.IsReadableHeader.read_headerText`
    * `SignedToken.isVerifiedBy_of_sign`
    * `Jwk.tokens_verified_of_toMaterial`
-/

namespace KeyAssertion

------------------------------------------------------------
-- Compact Form
------------------------------------------------------------

/-
  A token taken apart: its header, the text over which the
  signature is taken, and the signature.
-/
structure OpenedToken where
  header : JsonObject
  input : String
  signature : Bytes

namespace OpenedToken

/- The bytes of a segment. -/
def segmentBytes? (segment : List Char) : Option Bytes :=
  (Base64.Lenient.decode
    (segment ++ Key.padding segment.length)).toOption

/- The object of a segment that holds the text of one. -/
def segmentObject? (segment : List Char) : Option JsonObject := do
  let text ← Bytes.toText? (← segmentBytes? segment)
  match Json.read text with
  | .ok (.object members) => some members
  | _ => none

/- The three segments of a compact form, the header read. -/
def ofValue? (value : String) : Option OpenedToken := do
  match Text.pieces (· == '.') value.toList with
  | [header, claims, signature] =>
      some
        { header := ← segmentObject? header
          input := String.ofList (header ++ '.' :: claims)
          signature := ← segmentBytes? signature }
  | _ => none

/- The bytes that were written as a segment are read. -/
theorem segmentBytes?_encode (bytes : Bytes) :
    segmentBytes? (Base64.encodeUnpadded Base64.url bytes) =
      some bytes := by
  have hPadded :
      Base64.encodeUnpadded Base64.url bytes ++
          Key.padding (Base64.encodeUnpadded Base64.url bytes).length =
        Base64.encode Base64.url bytes :=
    (Base64.encode_url_eq bytes).symm
  unfold segmentBytes?
  rw [hPadded, Base64.Lenient.decode_encode_url]
  rfl

/- So is the object whose text was written as a segment. -/
theorem segmentObject?_segment
    {text : String}
    {members : JsonObject}
    (h : Json.read text = .ok (.object members)) :
    segmentObject? (SignedToken.segment text).toList = some members := by
  unfold segmentObject? SignedToken.segment Base64.encodeUrl
  rw [String.toList_ofList, segmentBytes?_encode]
  simp [Bytes.toText?_ofText, h]

/- No segment has a dot in it. -/
theorem ne_dot_of_mem_encodeUrl
    {bytes : Bytes}
    {c : Char}
    (h : c ∈ (Base64.encodeUrl bytes).toList) :
    (c == '.') = false := by
  have hAll : ∀ n : Fin 64, (Base64.url.digit n == '.') = false := by
    decide
  unfold Base64.encodeUrl at h
  rw [String.toList_ofList] at h
  rcases Base64.exists_digit_of_mem_encodeUnpadded h with ⟨n, hn, rfl⟩
  exact hAll ⟨n, hn⟩

/- Three segments with dots between them are told apart. -/
theorem pieces_segments (x y z : Bytes) :
    Text.pieces (· == '.')
        ((Base64.encodeUrl x).toList ++
          '.' :: ((Base64.encodeUrl y).toList ++
            '.' :: (Base64.encodeUrl z).toList)) =
      [(Base64.encodeUrl x).toList, (Base64.encodeUrl y).toList,
        (Base64.encodeUrl z).toList] := by
  have hDot : ('.' == '.') = true := rfl
  rw [Text.pieces_append (fun _ => ne_dot_of_mem_encodeUrl) hDot,
    Text.pieces_append (fun _ => ne_dot_of_mem_encodeUrl) hDot,
    Text.pieces_of_not_separator fun _ => ne_dot_of_mem_encodeUrl]

/- The compact form of a token falls into its three segments. -/
theorem pieces_value (t : SignedToken) :
    Text.pieces (· == '.') t.value.toList =
      [(SignedToken.segment t.header).toList,
        (SignedToken.segment t.claims).toList,
        t.signatureText.toList] := by
  have hValue :
      t.value.toList =
        (SignedToken.segment t.header).toList ++
          '.' :: ((SignedToken.segment t.claims).toList ++
            '.' :: t.signatureText.toList) := by
    simp [SignedToken.value, SignedToken.signingInput,
      SignedToken.signingInputOf]
  rw [hValue]
  exact pieces_segments _ _ _

/- A token is taken apart to what it was put together from. -/
theorem ofValue?_value
    {t : SignedToken}
    {members : JsonObject}
    (h : Json.read t.header = .ok (.object members)) :
    ofValue? t.value = some ⟨members, t.signingInput, t.signature⟩ := by
  have hInput :
      String.ofList ((SignedToken.segment t.header).toList ++
          '.' :: (SignedToken.segment t.claims).toList) =
        t.signingInput := by
    rw [← String.toList_inj]
    simp [SignedToken.signingInput, SignedToken.signingInputOf]
  have hSignature :
      segmentBytes? t.signatureText.toList = some t.signature := by
    unfold SignedToken.signatureText Base64.encodeUrl
    rw [String.toList_ofList, segmentBytes?_encode]
  unfold ofValue?
  rw [pieces_value]
  simp [segmentObject?_segment h, hSignature, hInput]

end OpenedToken

------------------------------------------------------------
-- Headers
------------------------------------------------------------

namespace SignedToken

/- The members of a header, in the order in which they are put together. -/
def allHeaderMembers
    (a : SigningAlgorithm)
    (members : JsonObject) : JsonObject :=
  (.text "alg", Json.text a.name) :: members

/-
  Whether the names of members are different from each other
  and from that of the algorithm, and their values can be read.
-/
structure IsReadableHeader (members : JsonObject) : Prop where
  names : (JsonString.text "alg" :: members.map Prod.fst).Nodup
  values : Json.ReadableMembers (Json.maxDepth - 1) members

/- A header of such members is read as the members in order of names. -/
theorem IsReadableHeader.read_headerText
    {members : JsonObject}
    (h : IsReadableHeader members)
    (a : SigningAlgorithm) :
    Json.read (headerText a members) =
      .ok (.object (Json.sortedMembers (allHeaderMembers a members))) := by
  have hObject :
      Json.Readable Json.maxDepth (.object (allHeaderMembers a members)) :=
    ⟨by decide, h.names, trivial, h.values⟩
  exact Json.read_write Json.compact_isPlain
    (Json.readable_sorted _ _ hObject)

/- A member that is read is the one that was put there. -/
theorem IsReadableHeader.memberOrNull_eq
    {members : JsonObject}
    (h : IsReadableHeader members)
    (a : SigningAlgorithm)
    (name : String) :
    JsonObject.memberOrNull
        (Json.sortedMembers (allHeaderMembers a members)) name =
      Json.sorted ((allHeaderMembers a members).memberOrNull name) := by
  have hNames : ((allHeaderMembers a members).map Prod.fst).Nodup :=
    h.names
  exact Json.memberOrNull_sortedMembers hNames name

end SignedToken

/- The numbers of a JWK are the same with its members in order of names. -/
theorem Jwk.number_sortedMembers
    {jwk : JsonObject}
    {name s : String}
    (hNames : (jwk.map Prod.fst).Nodup)
    (hMember : jwk.memberOrNull name = Json.text s) :
    number (Json.sortedMembers jwk) name = number jwk name := by
  unfold number
  rw [Json.memberOrNull_sortedMembers hNames, hMember]
  rfl

/- The header of an assertion holds strings of different names. -/
theorem ClientAssertion.isReadableHeader (kid : Option JsonString) :
    SignedToken.IsReadableHeader (headerMembers kid) := by
  cases kid with
  | none =>
      constructor
      · simp [headerMembers, Jwk.present]
      · exact ⟨trivial, trivial⟩
  | some kid =>
      constructor
      · simp [headerMembers, Jwk.present]
      · exact ⟨trivial, trivial, trivial⟩

/- The header of a proof holds a text and an object of texts. -/
theorem PossessionProof.isReadableHeader (key : KeyMaterial) :
    SignedToken.IsReadableHeader (headerMembers key) := by
  constructor
  · simp [headerMembers, JsonObject.ofTexts]
  · exact ⟨trivial,
      ⟨by decide, key.nodup_publicJwk, trivial, trivial, trivial, trivial⟩,
      trivial⟩

------------------------------------------------------------
-- Verification
------------------------------------------------------------

/-
  Whether the signature of a token, raised to the public
  exponent of a JWK modulo its modulus, is the padded digest
  of what stands before it.  The hash function is that of the
  algorithm that the header names.
-/
def OpenedToken.IsVerifiedBy
    (t : OpenedToken)
    (jwk : JsonObject) : Prop :=
  ∃ name a n e em,
    t.header.memberOrNull "alg" = Json.text name ∧
      SigningAlgorithm.ofName? name = some a ∧
      a.padding = .pkcs1 ∧
      Jwk.number jwk "n" = .ok n ∧
      Jwk.number jwk "e" = .ok e ∧
      Rsa.pkcs1Encode a.digest ((Bytes.bitLength n + 7) / 8)
        (Bytes.ofText t.input) = .ok em ∧
      Bytes.toNat t.signature ^ e % n = Bytes.toNat em

/-
  What a key has signed is taken apart to a token with the
  given header, and is verified by every JWK that holds the
  modulus and the public exponent of the key.
-/
theorem SignedToken.isVerifiedBy_of_sign
    {m : KeyMaterial}
    {key : Rsa.PrivateKey}
    {a : SigningAlgorithm}
    {salt : Nat → Bytes}
    {header claims : JsonObject}
    {t : SignedToken}
    (hKey : m.toKey = .ok key)
    (hp : key.numbers.p.Prime)
    (hq : key.numbers.q.Prime)
    (hSupported : a ∈ SigningAlgorithm.all)
    (hPadding : a.padding = .pkcs1)
    (hHeader : IsReadableHeader header)
    (h : sign m a salt header claims = .ok t) :
    ∃ o, OpenedToken.ofValue? t.value = some o ∧
      o.header = Json.sortedMembers (allHeaderMembers a header) ∧
      ∀ jwk, Jwk.number jwk "n" = .ok key.numbers.n →
        Jwk.number jwk "e" = .ok key.numbers.e → o.IsVerifiedBy jwk := by
  rcases (sign_eq_ok_iff hKey _ _ _ _).mp h with ⟨hText, -, hSign⟩
  have hRead := hHeader.read_headerText a
  rw [← hText] at hRead
  rw [hPadding] at hSign
  rcases Rsa.pow_of_sign hp hq hSign with ⟨-, -, em, hEncode, hPower⟩
  refine ⟨_, OpenedToken.ofValue?_value hRead, rfl, ?_⟩
  intro jwk hModulus hExponent
  refine ⟨a.name, a, _, _, em, ?_, SigningAlgorithm.ofName?_name hSupported,
    hPadding, hModulus, hExponent, hEncode, hPower⟩
  rw [hHeader.memberOrNull_eq]
  simp [allHeaderMembers, JsonObject.memberOrNull, JsonObject.member?_cons,
    Json.text, Json.sorted]

/-
  Every assertion made with the key of an accepted JWK, for an
  algorithm with the deterministic padding, is verified by the
  public part of the key, and every proof by the JWK in its
  own header, if the two factors of the key are primes.
-/
theorem Jwk.tokens_verified_of_toMaterial
    {jwk : JsonObject}
    {m : KeyMaterial}
    {k : Rsa.Numbers}
    {a : SigningAlgorithm}
    (h : toMaterial jwk = .ok m)
    (hNumbers : m.numbers = .ok k)
    (hp : k.p.Prime)
    (hq : k.q.Prime)
    (hAlgorithm : m.algorithm = .ok a)
    (hPadding : a.padding = .pkcs1) :
    (∀ (r : ClientAssertion.Request) (now : Moment)
        (source : TokenSource) (x : ClientAssertion),
      r.key = m → (ClientAssertion.create r now source).1 = .ok x →
      ∃ o, OpenedToken.ofValue? x.token.value = some o ∧
        o.IsVerifiedBy m.publicJwk) ∧
    ∀ (r : PossessionProof.Request) (now : Moment)
        (source : TokenSource) (x : PossessionProof),
      r.key = m → (PossessionProof.create r now source).1 = .ok x →
      ∃ o published, OpenedToken.ofValue? x.token.value = some o ∧
        o.header.memberOrNull "jwk" = .object published ∧
        o.IsVerifiedBy published := by
  rcases isExported_of_toMaterial h with ⟨key, hExported, hCheck⟩
  rcases (Rsa.Numbers.check_eq_ok_iff _ _).mp hCheck with
    ⟨-, hPrivate, hPublic⟩
  have hSame := hExported.numbers_eq hNumbers
  subst hSame
  have hKey : m.toKey = .ok key :=
    hExported.toKey_eq_ok hPrivate hPublic
  have hSupported : a ∈ SigningAlgorithm.all := by
    rcases hExported.exists_algorithm with ⟨a', hSupported, -, hOwn⟩
    rw [hAlgorithm] at hOwn
    cases hOwn
    exact hSupported
  rcases hExported.number_publicJwk with ⟨hModulus, hExponent⟩
  constructor
  · rintro r now source x rfl hCreated
    rcases SignedToken.isVerifiedBy_of_sign hKey hp hq hSupported hPadding
        (ClientAssertion.isReadableHeader r.kid)
        (ClientAssertion.sign_of_create hAlgorithm hCreated) with
      ⟨o, hOpened, -, hVerified⟩
    exact ⟨o, hOpened, hVerified _ hModulus hExponent⟩
  · rintro r now source x rfl hCreated
    rcases SignedToken.isVerifiedBy_of_sign hKey hp hq hSupported hPadding
        (PossessionProof.isReadableHeader r.key)
        (PossessionProof.sign_of_create hAlgorithm hCreated) with
      ⟨o, hOpened, hHeader, hVerified⟩
    refine ⟨o, Json.sortedMembers r.key.publicJwk, hOpened, ?_, ?_⟩
    · rw [hHeader, (PossessionProof.isReadableHeader r.key).memberOrNull_eq]
      rfl
    · apply hVerified
      · rw [number_sortedMembers r.key.nodup_publicJwk rfl, hModulus]
      · rw [number_sortedMembers r.key.nodup_publicJwk rfl, hExponent]

------------------------------------------------------------
-- A Verified Token
------------------------------------------------------------

/-
  A number is a prime if a root has all the powers that a
  prime allows, where the number less one is a power of two
  times a prime.
-/
theorem Rsa.prime_of_root
    {n j r : Nat}
    (g : Nat)
    (hn : 2 ≤ n)
    (hOrder : n - 1 = j * 2 ^ r)
    (hj : j.Prime)
    (hOne : powMod g (n - 1) n = 1)
    (hHalf : powMod g ((n - 1) / 2) n ≠ 1)
    (hPart : powMod g ((n - 1) / j) n ≠ 1) :
    n.Prime := by
  have hPower (t : Nat) : (g : ZMod n) ^ t = 1 ↔ powMod g t n = 1 := by
    have hMod := ZMod.natCast_eq_natCast_iff (g ^ t) 1 n
    unfold Nat.ModEq at hMod
    rw [Nat.mod_eq_of_lt hn, Nat.cast_pow, Nat.cast_one] at hMod
    rw [powMod_eq, hMod]
  apply lucas_primality n (g : ZMod n) ((hPower _).mpr hOne)
  intro q hq hDvd
  rw [Ne, hPower]
  rw [hOrder] at hDvd
  rcases (Nat.Prime.dvd_mul hq).mp hDvd with hDvd | hDvd
  · rw [(Nat.prime_dvd_prime_iff_eq hq hj).mp hDvd]
    exact hPart
  · have hTwo := (Nat.prime_dvd_prime_iff_eq hq Nat.prime_two).mp
      (hq.dvd_of_dvd_pow hDvd)
    rw [hTwo]
    exact hHalf

/- The first factor of the sample key is a prime. -/
theorem Rsa.prime_p_sampleNumbers :
    Rsa.sampleNumbers.p.Prime := by
  apply prime_of_root (j := 29) (r := 245) 3
  · decide +kernel
  · rfl
  · norm_num
  · decide +kernel
  · decide +kernel
  · decide +kernel

/- So is the second one. -/
theorem Rsa.prime_q_sampleNumbers :
    Rsa.sampleNumbers.q.Prime := by
  apply prime_of_root (j := 17) (r := 243) 3
  · decide +kernel
  · rfl
  · norm_num
  · decide +kernel
  · decide +kernel
  · decide +kernel

/- The tokens made with this key are verified. -/
theorem Jwk.tokens_verified_of_sampleKey :
    ∃ m, toMaterial
        (KeyMaterial.ofKey Rsa.sampleKey none none none).toJwk = .ok m ∧
      (∀ source, ∃ x o,
        (ClientAssertion.create
          { issuer := "https://a", clientId := "c", key := m }
          .epoch source).1 = .ok x ∧
        OpenedToken.ofValue? x.token.value = some o ∧
        o.IsVerifiedBy m.publicJwk) ∧
      ∀ source, ∃ x o published,
        (PossessionProof.create
          { httpMethod := "GET", httpUrl := "https://a", key := m }
          .epoch source).1 = .ok x ∧
        OpenedToken.ofValue? x.token.value = some o ∧
        o.header.memberOrNull "jwk" = .object published ∧
        o.IsVerifiedBy published := by
  let m := KeyMaterial.ofKey Rsa.sampleKey none none none
  have hExported : m.IsExported Rsa.sampleKey :=
    KeyMaterial.isExported_ofKey_none Rsa.sampleKey none none
  have hPrivate : Rsa.sampleNumbers.d < Rsa.sampleNumbers.n := by
    decide +kernel
  have hPublic : Rsa.sampleNumbers.e < Rsa.sampleNumbers.n := by
    decide +kernel
  have hAccepted : toMaterial m.toJwk = .ok m := by
    apply KeyMaterial.toMaterial_toJwk _ hExported.supported
    exact (Rsa.Numbers.check_eq_ok_iff _ _).mpr ⟨rfl, hPrivate, hPublic⟩
  have hKey : m.toKey = .ok Rsa.sampleKey :=
    hExported.toKey_eq_ok hPrivate hPublic
  have hRoom :
      Rsa.HasRoom .pkcs1 .sha256 Rsa.sampleKey.bits := by
    decide +kernel
  let assertion : ClientAssertion.Request :=
    { issuer := "https://a", clientId := "c", key := m }
  let proof : PossessionProof.Request :=
    { httpMethod := "GET", httpUrl := "https://a", key := m }
  rcases tokens_verified_of_toMaterial hAccepted
      (KeyMaterial.numbers_ofNumbers Rsa.sampleNumbers _ _ _)
      Rsa.prime_p_sampleNumbers Rsa.prime_q_sampleNumbers
      rfl rfl with ⟨hAssertion, hProof⟩
  refine ⟨m, hAccepted, ?_, ?_⟩
  · intro source
    have hMade :
        ∃ x, (ClientAssertion.create assertion .epoch source).1 = .ok x ∧
          x.token.IsSignedWith Rsa.sampleKey ⟨.pkcs1, .sha256⟩ :=
      (ClientAssertion.exists_create_iff source hKey rfl (by decide)
        (by decide) (by decide) (by decide)).mpr hRoom
    rcases hMade with ⟨x, hCreated, -⟩
    rcases hAssertion _ _ _ _ rfl hCreated with ⟨o, hOpened, hVerified⟩
    exact ⟨x, o, hCreated, hOpened, hVerified⟩
  · intro source
    have hMade :
        ∃ x, (PossessionProof.create proof .epoch source).1 = .ok x ∧
          x.token.IsSignedWith Rsa.sampleKey ⟨.pkcs1, .sha256⟩ :=
      (PossessionProof.exists_create_iff .epoch source hKey rfl
        (by decide) (by decide)).mpr hRoom
    rcases hMade with ⟨x, hCreated, -⟩
    rcases hProof _ _ _ _ rfl hCreated with
      ⟨o, published, hOpened, hHeader, hVerified⟩
    exact ⟨x, o, published, hCreated, hOpened, hHeader, hVerified⟩

end KeyAssertion
