import KeyAssertion.Proofs.Token.Claims

/-
  An assertion from the outside: three segments of unpadded
  Base64, of which the first two hold what was asked for and
  nothing else, every text as it was given.

  Key definitions include:
    * `KeyMaterial.SignsAs`
    * `ClientAssertion.Request.NamesKey`
    * `ClientAssertion.IsExact`

  Key theorems include:
    * `SignedToken.isUnpadded_encodeUrl`
    * `ClientAssertion.sortedMembers_headerMembers`
    * `ClientAssertion.isExact_of_create`
-/

namespace KeyAssertion

------------------------------------------------------------
-- Segments
------------------------------------------------------------

namespace SignedToken

/- The segments of a token are in unpadded Base64. -/
theorem isUnpadded_encodeUrl (bytes : Bytes) :
    Base64.IsUnpadded (Base64.encodeUrl bytes).toList := by
  unfold Base64.encodeUrl
  rw [String.toList_ofList]
  exact Base64.isUnpadded_encodeUnpadded bytes

end SignedToken

------------------------------------------------------------
-- Headers
------------------------------------------------------------

/- The name of the algorithm of a key: its own, or the default one. -/
inductive KeyMaterial.SignsAs (m : KeyMaterial) : String → Prop
  | own
      (name : String)
      (h : m.alg = some name)
      (hSome : name ≠ "") :
      SignsAs m name
  | default (h : m.alg = none ∨ m.alg = some "") : SignsAs m "RS256"

/- It is the name of the algorithm that is signed with. -/
theorem KeyMaterial.signsAs_of_algorithm
    {m : KeyMaterial}
    {a : SigningAlgorithm}
    (hAlgorithm : m.algorithm = .ok a) :
    m.SignsAs a.name := by
  have hName : a.name = m.algorithmName := by
    unfold algorithm at hAlgorithm
    split at hAlgorithm
    · case _ a' hFound =>
        rw [← Except.ok.inj hAlgorithm]
        exact (SigningAlgorithm.mem_all_of_ofName? hFound).2
    · cases hAlgorithm
  rw [hName]
  unfold algorithmName
  split
  · case _ name hAlg =>
      split_ifs with hEmpty
      · exact .default (Or.inr (hEmpty ▸ hAlg))
      · exact .own name hAlg hEmpty
  · case _ hAlg => exact .default (Or.inl hAlg)

namespace ClientAssertion

/-
  The key id of a request: the one asked for, if it is not
  empty, else that of the key, if it is not empty.
-/
inductive Request.NamesKey (r : Request) : Option JsonString → Prop
  | asked
      (kid : JsonString)
      (h : r.keyId = some kid)
      (hSome : kid ≠ .text "") :
      NamesKey r (some kid)
  | own
      (kid : JsonString)
      (hAsked : r.keyId = none ∨ r.keyId = some (.text ""))
      (h : r.key.kid = some kid)
      (hSome : kid ≠ .text "") :
      NamesKey r (some kid)
  | nobody
      (hAsked : r.keyId = none ∨ r.keyId = some (.text ""))
      (hOwn : r.key.kid = none ∨ r.key.kid = some (.text "")) :
      NamesKey r none

/- What is kept only if it is not blank is absent or blank else. -/
theorem filter_kept_cases
    {α : Type}
    {keeps : α → Bool}
    {blank : α}
    (hKeeps : ∀ x, keeps x = true ↔ x ≠ blank)
    (value : Option α) :
    (value.filter keeps = none ∧ (value = none ∨ value = some blank)) ∨
      ∃ x, value.filter keeps = some x ∧ value = some x ∧ x ≠ blank := by
  cases value with
  | none => exact Or.inl ⟨rfl, Or.inl rfl⟩
  | some x =>
      by_cases hBlank : x = blank
      · left
        have hDropped : ¬ keeps x = true := by
          rw [hKeeps]
          exact not_not.mpr hBlank
        exact ⟨by simp [hDropped], Or.inr (congrArg some hBlank)⟩
      · right
        exact ⟨x, by simp [(hKeeps x).mpr hBlank], rfl, hBlank⟩

/- A string is kept if it is not the empty one. -/
theorem isEmpty_eq_false_iff (s : JsonString) :
    (!s.isEmpty) = true ↔ s ≠ .text "" := by
  rw [Bool.not_eq_true', ← Bool.not_eq_true, s.isEmpty_iff_eq]

/- It is the one in the header. -/
theorem Request.namesKey_kid (r : Request) :
    r.NamesKey r.kid := by
  unfold kid
  rcases filter_kept_cases isEmpty_eq_false_iff r.keyId with
    ⟨hNone, hAsked⟩ | ⟨kid, hSome, hAsked, hNonempty⟩
  · rw [hNone, Option.none_or]
    rcases filter_kept_cases isEmpty_eq_false_iff r.key.kid with
      ⟨hNobody, hOwn⟩ | ⟨kid, hSome, hOwn, hNonempty⟩
    · rw [hNobody]
      exact .nobody hAsked hOwn
    · rw [hSome]
      exact .own kid hAsked hOwn hNonempty
  · rw [hSome, Option.some_or]
    exact .asked kid hAsked hNonempty

/- The header of an assertion: nothing but these members. -/
def headerOf (alg : String) : Option JsonString → JsonObject
  | none =>
      JsonObject.ofTexts
        [("alg", Json.text alg),
          ("typ", Json.text "client-authentication+jwt")]
  | some kid =>
      JsonObject.ofTexts
        [("alg", Json.text alg), ("kid", .string kid),
          ("typ", Json.text "client-authentication+jwt")]

/- The members that are put together come out in this order. -/
theorem sortedMembers_headerMembers
    (a : SigningAlgorithm)
    (kid : Option JsonString) :
    Json.sortedMembers
        (SignedToken.allHeaderMembers a (headerMembers kid)) =
      headerOf a.name kid := by
  cases kid with
  | none => rfl
  | some kid => rfl

------------------------------------------------------------
-- Assertions
------------------------------------------------------------

/-
  Whether an assertion is what was asked for at a moment:
    * its value is three segments in unpadded Base64;
    * the first holds the algorithm, the type and the key id;
    * the second holds the client twice, the issuer, three
      moments and the identifier;
    * it expires after the time asked for.
-/
structure IsExact
    (x : ClientAssertion)
    (r : Request)
    (now : Moment)
    (identifier : String)
    (header claims signature : String) : Prop where
  value : x.token.value = header ++ "." ++ claims ++ "." ++ signature
  unpadded :
    ∀ s ∈ [header, claims, signature], Base64.IsUnpadded s.toList
  header :
    ∃ alg kid,
      r.key.SignsAs alg ∧ r.NamesKey kid ∧
        OpenedToken.segmentObject? header.toList = some (headerOf alg kid)
  claims :
    OpenedToken.segmentObject? claims.toList =
      some
        (JsonObject.ofTexts
          [("sub", Json.text r.clientId), ("iss", Json.text r.clientId),
            ("aud", Json.text r.issuer),
            ("iat", .integer now.unixSeconds),
            ("nbf", .integer now.unixSeconds),
            ("exp", .integer x.expiresAt.unixSeconds),
            ("jti", Json.text identifier)])
  expiry : x.expiresAt.micros = now.micros + r.expirySeconds * 1000000

/- Every assertion that is made is exact. -/
theorem isExact_of_create
    {r : Request}
    {now : Moment}
    {source : TokenSource}
    {x : ClientAssertion}
    (hCreated : (create r now source).1 = .ok x) :
    ∃ header claims signature,
      x.IsExact r now source.nextIdentifier header claims signature := by
  rcases (create_eq_ok_iff _ _ _ _).mp hCreated with ⟨a, hCheck, hSigned⟩
  rcases (check_eq_ok_iff _ _ _ _).mp hCheck with
    ⟨_, _, _, hAlgorithm, hExpiry⟩
  rcases SignedToken.texts_of_sign hSigned with ⟨hHeader, hClaims⟩
  have hReadHeader :
      Json.read x.token.header = .ok (.object (headerOf a.name r.kid)) := by
    rw [hHeader, (isReadableHeader r.kid).read_headerText,
      sortedMembers_headerMembers]
  have hReadClaims :
      Json.read x.token.claims =
        .ok (.object
          (claimMembers r now x.expiresAt source.nextIdentifier)) := by
    rw [hClaims]
    exact Json.read_write Json.compact_isPlain
      (readable_claimMembers _ _ _ _)
  refine ⟨SignedToken.segment x.token.header,
    SignedToken.segment x.token.claims, x.token.signatureText, ?_⟩
  constructor
  · rfl
  · intro s hMem
    fin_cases hMem
    all_goals exact SignedToken.isUnpadded_encodeUrl _
  · exact ⟨a.name, r.kid, KeyMaterial.signsAs_of_algorithm hAlgorithm,
      r.namesKey_kid, OpenedToken.segmentObject?_segment hReadHeader⟩
  · exact OpenedToken.segmentObject?_segment hReadClaims
  · exact hExpiry

/-
  An assertion with quotes, a backslash, a line feed and a
  character beyond the first plane in its texts, and with the
  key id of the key in the place of an empty one.
-/
theorem isExact_of_quoted :
    let r : Request :=
      { issuer := "https://a\"\\\n😀"
        clientId := "é😀"
        key := KeyMaterial.ofKey Rsa.sampleKey none (some (.text "\"k")) none
        expirySeconds := 0
        keyId := some (.text "") }
    let source : TokenSource := ⟨fun _ => "i", fun _ _ => 0, 0⟩
    ∃ x,
      (create r .epoch source).1 = .ok x ∧
        ∃ header claims signature,
          x.IsExact r .epoch "i" header claims signature := by
  intro r source
  have hKey : r.key.toKey = .ok Rsa.sampleKey := by
    apply (KeyMaterial.isExported_ofKey_none _ _ none).toKey_eq_ok
    · decide +kernel
    · decide +kernel
  have hRoom : Rsa.HasRoom .pkcs1 .sha256 Rsa.sampleKey.bits := by
    decide +kernel
  have hCreates :
      ∃ x, (create r .epoch source).1 = .ok x ∧
        x.token.IsSignedWith Rsa.sampleKey ⟨.pkcs1, .sha256⟩ :=
    (exists_create_iff source hKey rfl (by decide) (by decide)
      (by decide) (by decide)).mpr hRoom
  rcases hCreates with ⟨x, hCreated, _⟩
  exact ⟨x, hCreated, isExact_of_create hCreated⟩

end ClientAssertion

end KeyAssertion
