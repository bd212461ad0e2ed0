import KeyAssertion.Proofs.Token.Exactness

/-
  A proof of possession from the outside: its header publishes
  the public part of the key, its claims hold what was asked
  for and nothing else, and its maker is told the same.

  Key definitions include:
    * `PossessionProof.Request.NamesNonce`
    * `PossessionProof.Request.BindsToken`
    * `PossessionProof.IsFaithful`

  Key theorems include:
    * `PossessionProof.sortedMembers_headerMembers`
    * `PossessionProof.claimMembers_eq`
    * `PossessionProof.isFaithful_of_create`
-/

namespace KeyAssertion

namespace PossessionProof

------------------------------------------------------------
-- Optional Claims
------------------------------------------------------------

/- The nonce of a request, if it is not empty. -/
inductive Request.NamesNonce (r : Request) : Option String → Prop
  | given
      (nonce : String)
      (h : r.nonce = some nonce)
      (hSome : nonce ≠ "") :
      NamesNonce r (some nonce)
  | nobody (h : r.nonce = none ∨ r.nonce = some "") : NamesNonce r none

/-
  What binds a request to its access token, if this is not
  empty: the digest of its characters in UTF-8, in unpadded
  Base64.
-/
inductive Request.BindsToken (r : Request) : Option String → Prop
  | given
      (accessToken hash : String)
      (h : r.accessToken = some accessToken)
      (hSome : accessToken ≠ "")
      (hHash :
        hash = Base64.encodeUrl (Hash.sha256 (Bytes.ofText accessToken)))
      (hUnpadded : Base64.IsUnpadded hash.toList)
      (hDigest :
        OpenedToken.segmentBytes? hash.toList =
          some (Hash.sha256 (Bytes.ofText accessToken))) :
      BindsToken r (some hash)
  | nobody (h : r.accessToken = none ∨ r.accessToken = some "") :
      BindsToken r none

/- A text is kept if it is not the empty one. -/
theorem ne_empty_iff (s : String) :
    decide (s ≠ "") = true ↔ s ≠ "" :=
  decide_eq_true_iff

/- The nonce among the claims is that of the request. -/
theorem Request.namesNonce_nonceClaim (r : Request) :
    r.NamesNonce r.nonceClaim := by
  unfold nonceClaim
  rcases ClientAssertion.filter_kept_cases ne_empty_iff r.nonce with
    ⟨hNone, hEmpty⟩ | ⟨nonce, hSome, hGiven, hNonempty⟩
  · rw [hNone]
    exact .nobody hEmpty
  · rw [hSome]
    exact .given nonce hGiven hNonempty

/- The hash among the claims is that of the access token. -/
theorem Request.bindsToken_hashClaim (r : Request) :
    r.BindsToken r.hashClaim := by
  unfold hashClaim
  rcases ClientAssertion.filter_kept_cases ne_empty_iff r.accessToken
    with
    ⟨hNone, hEmpty⟩ | ⟨accessToken, hSome, hGiven, hNonempty⟩
  · rw [hNone]
    exact .nobody hEmpty
  · have hDigest :
        OpenedToken.segmentBytes?
            (Base64.encodeUrl
              (Hash.sha256 (Bytes.ofText accessToken))).toList =
          some (Hash.sha256 (Bytes.ofText accessToken)) := by
      unfold Base64.encodeUrl
      rw [String.toList_ofList, OpenedToken.segmentBytes?_encode]
    rw [hSome]
    exact .given accessToken _ hGiven hNonempty rfl
      (SignedToken.isUnpadded_encodeUrl _) hDigest

------------------------------------------------------------
-- Header and Claims
------------------------------------------------------------

/- The header of a proof: nothing but these members. -/
def headerOf
    (alg : String)
    (key : KeyMaterial) : JsonObject :=
  JsonObject.ofTexts
    [("alg", Json.text alg),
      ("jwk",
        .object
          (JsonObject.ofTexts
            [("e", Json.text key.e), ("kty", Json.text key.kty),
              ("n", Json.text key.n)])),
      ("typ", Json.text "dpop+jwt")]

/- A member that is absent if its value is. -/
def optionalMember (name : String) : Option String → JsonObject
  | none => []
  | some value => JsonObject.ofTexts [(name, Json.text value)]

/- The claims of a proof: nothing but these members. -/
def claimsOf (x : PossessionProof) : JsonObject :=
  JsonObject.ofTexts
    [("jti", Json.text x.identifier),
      ("htm", Json.text x.httpMethod),
      ("htu", Json.text x.httpUrl),
      ("iat", .integer x.issuedAt.unixSeconds)]
    ++ optionalMember "nonce" x.nonce
    ++ optionalMember "ath" x.accessTokenHash

/- The members that are put together come out in this order. -/
theorem sortedMembers_headerMembers
    (a : SigningAlgorithm)
    (key : KeyMaterial) :
    Json.sortedMembers
        (SignedToken.allHeaderMembers a (headerMembers key)) =
      headerOf a.name key := by
  rfl

/- The claims that are put together are those that a proof tells of. -/
theorem claimMembers_eq
    (r : Request)
    (now : Moment)
    (identifier : String)
    (t : SignedToken) :
    claimMembers r now identifier =
      claimsOf
        ⟨r.httpMethod, r.httpUrl, now, identifier, r.nonceClaim,
          r.hashClaim, t⟩ := by
  unfold claimMembers claimsOf
  cases r.nonceClaim with
  | none =>
      cases r.hashClaim with
      | none => rfl
      | some hash => rfl
  | some nonce =>
      cases r.hashClaim with
      | none => rfl
      | some hash => rfl

------------------------------------------------------------
-- Proofs
------------------------------------------------------------

/-
  Whether a proof is what was asked for at a moment:
    * its value is three segments in unpadded Base64;
    * the first holds the algorithm, the type and the public
      part of the key;
    * the second holds what the proof itself tells of;
    * this is the method and URL of the request, the moment,
      the identifier, the nonce and what binds it to the
      access token.
-/
structure IsFaithful
    (x : PossessionProof)
    (r : Request)
    (now : Moment)
    (identifier : String)
    (header claims signature : String) : Prop where
  value : x.token.value = header ++ "." ++ claims ++ "." ++ signature
  unpadded :
    ∀ s ∈ [header, claims, signature], Base64.IsUnpadded s.toList
  header :
    ∃ alg,
      r.key.SignsAs alg ∧
        OpenedToken.segmentObject? header.toList = some (headerOf alg r.key)
  claims : OpenedToken.segmentObject? claims.toList = some x.claimsOf
  method : x.httpMethod = r.httpMethod
  url : x.httpUrl = r.httpUrl
  moment : x.issuedAt = now
  identifier : x.identifier = identifier
  nonce : r.NamesNonce x.nonce
  binding : r.BindsToken x.accessTokenHash

/- Every proof that is made is faithful. -/
theorem isFaithful_of_create
    {r : Request}
    {now : Moment}
    {source : TokenSource}
    {x : PossessionProof}
    (hCreated : (create r now source).1 = .ok x) :
    ∃ header claims signature,
      x.IsFaithful r now source.nextIdentifier header claims signature := by
  rcases (create_eq_ok_iff _ _ _ _).mp hCreated with
    ⟨a, t, hCheck, hSigned, rfl⟩
  rcases (check_eq_ok_iff _ _).mp hCheck with ⟨_, _, hAlgorithm⟩
  rcases SignedToken.texts_of_sign hSigned with ⟨hHeader, hClaims⟩
  have hReadHeader :
      Json.read t.header = .ok (.object (headerOf a.name r.key)) := by
    rw [hHeader, (isReadableHeader r.key).read_headerText,
      sortedMembers_headerMembers]
  have hReadClaims :
      Json.read t.claims =
        .ok (.object (claimMembers r now source.nextIdentifier)) := by
    rw [hClaims]
    exact Json.read_write Json.compact_isPlain
      (readable_claimMembers _ _ _)
  rw [claimMembers_eq r now source.nextIdentifier t] at hReadClaims
  refine ⟨SignedToken.segment t.header, SignedToken.segment t.claims,
    t.signatureText, ?_⟩
  constructor
  case value => rfl
  case unpadded =>
    intro s hMem
    fin_cases hMem
    all_goals exact SignedToken.isUnpadded_encodeUrl _
  case header =>
    exact ⟨a.name, KeyMaterial.signsAs_of_algorithm hAlgorithm,
      OpenedToken.segmentObject?_segment hReadHeader⟩
  case claims => exact OpenedToken.segmentObject?_segment hReadClaims
  case method => rfl
  case url => rfl
  case moment => rfl
  case identifier => rfl
  case nonce => exact r.namesNonce_nonceClaim
  case binding => exact r.bindsToken_hashClaim

/-
  A proof with quotes, a backslash, a line feed and a character
  beyond the first plane in its texts, with an empty nonce and
  an access token that is not ASCII.
-/
theorem isFaithful_of_escaped :
    let r : Request :=
      { httpMethod := "P\"\\"
        httpUrl := "https://a\n😀"
        key := KeyMaterial.ofKey Rsa.sampleKey none none none
        nonce := some ""
        accessToken := some "é😀" }
    let source : TokenSource := ⟨fun _ => "i", fun _ _ => 0, 0⟩
    ∃ x,
      (create r .epoch source).1 = .ok x ∧
        ∃ header claims signature,
          x.IsFaithful r .epoch "i" header claims signature := by
  intro r source
  rcases exists_create_of_sampleKey (r := r) .epoch source rfl (by decide)
      (by decide) with ⟨x, hCreated⟩
  exact ⟨x, hCreated, isFaithful_of_create hCreated⟩

end PossessionProof

end KeyAssertion
