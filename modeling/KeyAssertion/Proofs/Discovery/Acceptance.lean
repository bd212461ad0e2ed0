import KeyAssertion.Proofs.Discovery.Containment

/-
  Which responses are accepted as the metadata of an authority:
  a success whose body is an object with an issuer and with
  endpoints that are texts if they are there.  Every other one
  is refused with an error about the authority, unless it is one
  of those in which a fault passes through.

  Key definitions include:
    * `DiscoveryMetadata.IsDescribedBy`
    * `Discovery.AcceptsExactly`

  Key theorems include:
    * `DiscoveryMetadata.ofMembers_eq_ok_iff`
    * `Discovery.fetch_response_eq_ok_iff`
    * `Discovery.acceptsExactly_iff`
-/

namespace KeyAssertion

------------------------------------------------------------
-- Fields
------------------------------------------------------------

namespace Field

/- A text is read if and only if it is the member of the name. -/
theorem text_eq_ok_iff
    (members : JsonObject)
    (name s : String) :
    text members name = .ok s ↔
      members.memberOrNull name = Json.text s := by
  unfold text JsonObject.memberOrNull
  cases hMember : members.member? name with
  | none => simp [Json.text]
  | some v =>
      cases v with
      | string j => cases j <;> simp [Json.text]
      | _ => simp [Json.text]

/- A text that may be absent is read if there is one or null. -/
theorem text?_eq_ok_iff
    (members : JsonObject)
    (name : String)
    (s : Option String) :
    text? members name = .ok s ↔
      members.memberOrNull name = Json.text? s := by
  unfold text? JsonObject.memberOrNull
  cases hMember : members.member? name with
  | none => cases s <;> simp [Json.text?, Json.string?]
  | some v =>
      cases v with
      | string j =>
          cases j <;> cases s <;> simp [Json.text?, Json.string?]
      | _ => cases s <;> simp [Json.text?, Json.string?]

end Field

------------------------------------------------------------
-- Metadata
------------------------------------------------------------

namespace DiscoveryMetadata

/-
  Whether the members of an object describe metadata: the issuer
  is a text, and every endpoint is a text, or absent or null if
  there is none.  Nothing is said of the other members.
-/
structure IsDescribedBy
    (m : DiscoveryMetadata)
    (members : JsonObject) : Prop where
  issuer :
    members.memberOrNull "issuer" = Json.text m.issuer
  authorization :
    members.memberOrNull "authorization_endpoint" =
      Json.text? m.authorizationEndpoint
  token :
    members.memberOrNull "token_endpoint" = Json.text? m.tokenEndpoint
  userinfo :
    members.memberOrNull "userinfo_endpoint" =
      Json.text? m.userinfoEndpoint
  jwks :
    members.memberOrNull "jwks_uri" = Json.text? m.jwksUri
  endSession :
    members.memberOrNull "end_session_endpoint" =
      Json.text? m.endSessionEndpoint

/- The metadata read are those that are described. -/
theorem ofMembers_eq_ok_iff
    (members : JsonObject)
    (m : DiscoveryMetadata) :
    ofMembers members = .ok m ↔ m.IsDescribedBy members := by
  unfold ofMembers
  dsimp only
  constructor
  · intro h
    split at h
    · next hRecord =>
        cases h
        simp only [Attempt.bind_eq_ok_iff, Field.text_eq_ok_iff,
          Field.text?_eq_ok_iff] at hRecord
        rcases hRecord with
          ⟨_, hIssuer, _, hAuthorization, _, hToken, _, hUserinfo,
            _, hJwks, _, hEndSession, hPure⟩
        cases hPure
        exact ⟨hIssuer, hAuthorization, hToken, hUserinfo, hJwks,
          hEndSession⟩
    · cases h
  · rintro ⟨hIssuer, hAuthorization, hToken, hUserinfo, hJwks,
      hEndSession⟩
    rw [← Field.text_eq_ok_iff] at hIssuer
    rw [← Field.text?_eq_ok_iff] at hAuthorization hToken hUserinfo
    rw [← Field.text?_eq_ok_iff] at hJwks hEndSession
    rw [hIssuer, hAuthorization, hToken, hUserinfo, hJwks, hEndSession]
    rfl

/- They come from an object that describes them. -/
theorem ofJson_eq_ok_iff
    (authority : String)
    (v : Json)
    (m : DiscoveryMetadata) :
    ofJson authority v = .ok m ↔
      ∃ members, v = .object members ∧ m.IsDescribedBy members := by
  cases v with
  | object members =>
      rw [ofJson, Attempt.mapError_eq_ok_iff, ofMembers_eq_ok_iff]
      constructor
      · intro hDescribed
        exact ⟨members, rfl, hDescribed⟩
      · rintro ⟨_, hSame, hDescribed⟩
        cases hSame
        exact hDescribed
  | _ => simp [ofJson]

/- A value that is none is refused in the name of the authority. -/
theorem subject_of_ofJson
    {authority : String}
    {v : Json}
    {e : DiscoveryError}
    (h : ofJson authority v = .error e) :
    e.subject = authority := by
  cases v with
  | object members =>
      rcases (Attempt.mapError_eq_error_iff _ _ _).mp h with
        ⟨_, _, rfl⟩
      rfl
  | _ =>
      cases h
      rfl

end DiscoveryMetadata

------------------------------------------------------------
-- Refusals
------------------------------------------------------------

namespace Discovery

section Subject

variable {authority : String} {u : Url} {e : DiscoveryError}

/- A location that is refused is refused in the name of the authority. -/
theorem subject_of_checkLocation
    {location : String}
    (h : checkLocation authority u location = .error (.discovery e)) :
    e.subject = authority := by
  unfold checkLocation at h
  split at h <;> cases h <;> rfl

/- So is a status. -/
theorem subject_of_checkStatus
    {r : HttpResponse}
    (h : checkStatus authority u r = .error (.discovery e)) :
    e.subject = authority := by
  unfold checkStatus at h
  split at h <;> cases h
  rfl

/- So is a body. -/
theorem subject_of_readBody
    {r : HttpResponse}
    (h : readBody authority r = .error (.discovery e)) :
    e.subject = authority := by
  unfold readBody at h
  split at h <;> cases h
  rfl

/- So is a response. -/
theorem subject_of_readResponse
    {r : HttpResponse}
    (hAbsolute : u.isAbsolute = true)
    (h : readResponse authority u r = .error (.discovery e)) :
    e.subject = authority := by
  -- What follows the location is the same with and without one.
  have hTail :
      (do
        checkStatus authority u r
        let v ← readBody authority r
        (DiscoveryMetadata.ofJson authority v).mapError
          FetchError.discovery) = .error (.discovery e) →
        e.subject = authority := by
    intro hTail
    rcases (Attempt.bind_eq_error_iff _ _ _).mp hTail with
      hStatus | ⟨_, -, hBody⟩
    · exact subject_of_checkStatus hStatus
    · rcases (Attempt.bind_eq_error_iff _ _ _).mp hBody with
        hRead | ⟨v, -, hMetadata⟩
      · exact subject_of_readBody hRead
      · rcases (Attempt.mapError_eq_error_iff _ _ _).mp hMetadata with
          ⟨_, hRefused, hSame⟩
        cases hSame
        exact DiscoveryMetadata.subject_of_ofJson hRefused
  unfold readResponse at h
  simp only [hAbsolute, Bool.not_true] at h
  cases hTold : r.location? with
  | none =>
      rw [hTold] at h
      exact hTail h
  | some location =>
      rw [hTold] at h
      rcases (Attempt.bind_eq_error_iff _ _ _).mp h with
        hLocation | ⟨_, -, hRest⟩
      · exact subject_of_checkLocation hLocation
      · exact hTail hRest

end Subject

end Discovery

------------------------------------------------------------
-- Requests
------------------------------------------------------------

namespace Exchange

variable {raw : Option String} {key : String}

/- A reply is followed by no request. -/
theorem requests_answer
    (x : Exchange)
    (n : Nat)
    (reply : HttpReply) :
    (x.answer n reply).requests = x.requests := by
  unfold answer
  split
  · rfl
  · split <;> rfl

/- The first call for an authority sends the request of its fetch. -/
theorem requests_run_get
    (settings : DiscoverySettings)
    (now : Moment)
    (hKey : Authority.normalize raw = .ok key)
    (caller : Nat)
    (reply : HttpReply) :
    ((start settings now).run
        [.get caller raw, .answer 0 reply]).requests =
      requestOf key 0 := by
  have hGet := get_of_free (x := start settings now) hKey rfl rfl caller
  change
    (((start settings now).get caller raw).answer 0 reply).requests = _
  rw [requests_answer, hGet]
  rfl

end Exchange

------------------------------------------------------------
-- Responses
------------------------------------------------------------

namespace Discovery

/- Whether a response has a body that describes metadata, and succeeds. -/
def Yields
    (r : HttpResponse)
    (m : DiscoveryMetadata) : Prop :=
  200 ≤ r.status ∧ r.status ≤ 299 ∧
    ∃ members,
      Body.read r.body = .ok (.object members) ∧
        m.IsDescribedBy members

/-
  Whether a response for an authority is accepted exactly: one
  request is sent for it, the metadata are those that it yields,
  and without any it is refused with an error of discovery about
  the authority.
-/
structure AcceptsExactly
    (raw : Option String)
    (key : String)
    (r : HttpResponse) : Prop where
  sent : ∃ url, ∀ settings now caller,
    ((Exchange.start settings now).run
        [.get caller raw, .answer 0 (.response r)]).requests =
      [⟨0, key, url⟩]
  accepted : ∀ m,
    fetch key (.response r) = .ok m ↔ Yields r m
  refused :
    (∀ m, ¬ Yields r m) →
      ∃ e, fetch key (.response r) = .error (.discovery e) ∧
        e.subject = key

section Response

variable {raw : Option String} {key : String} {u : Url}

/- The metadata of a response are those that it yields. -/
theorem fetch_response_eq_ok_iff
    (hRequest : request key = .ok u)
    (hAbsolute : u.isAbsolute = true)
    (r : HttpResponse)
    (m : DiscoveryMetadata) :
    fetch key (.response r) = .ok m ↔ Yields r m := by
  have hStatus :
      HttpStatus.isSuccess r.status = true ↔
        200 ≤ r.status ∧ r.status ≤ 299 := by
    simp [HttpStatus.isSuccess]
  simp only [fetch_eq_ok_iff, DiscoveryMetadata.ofJson_eq_ok_iff]
  constructor
  · rintro ⟨_, _, _, _, _, hReply, hSuccess, hBody, members, rfl,
      hDescribed⟩
    cases hReply
    have hRange := hStatus.mp hSuccess
    exact ⟨hRange.1, hRange.2, members, hBody, hDescribed⟩
  · rintro ⟨hLow, hHigh, members, hBody, hDescribed⟩
    exact ⟨u, r, _, hRequest, hAbsolute, rfl, hStatus.mpr ⟨hLow, hHigh⟩,
      hBody, members, rfl, hDescribed⟩

/- A response that yields none is refused unless a fault escapes. -/
theorem refused_of_not_escapes
    (hKey : Authority.normalize raw = .ok key)
    (hRequest : request key = .ok u)
    (hAbsolute : u.isAbsolute = true)
    {r : HttpResponse}
    (hContained : ¬ Escapes key (.response r))
    (hNone : ∀ m, fetch key (.response r) ≠ .ok m) :
    ∃ e, fetch key (.response r) = .error (.discovery e) ∧
      e.subject = key := by
  have hOwn : ¬ Foreign (fetch key (.response r)) := by
    rwa [escapes_iff hKey rfl]
  have hFetch :
      fetch key (.response r) = readResponse key u r := by
    rw [fetch, hRequest]
    rfl
  cases hResult : fetch key (.response r) with
  | ok m => exact absurd hResult (hNone m)
  | error e =>
      cases e with
      | discovery d =>
          rw [hFetch] at hResult
          exact ⟨d, rfl, subject_of_readResponse hAbsolute hResult⟩
      | _ => exact absurd ⟨_, hResult, rfl⟩ hOwn

end Response

/-
  For an authority in normal form a response is accepted exactly
  if and only if none of the faults that pass through a fetch
  occurs: a request that is too long, a location that cannot be
  completed, a body that is nested too deeply.
-/
theorem acceptsExactly_iff
    {raw : Option String}
    {key : String}
    (hKey : Authority.normalize raw = .ok key)
    (r : HttpResponse) :
    AcceptsExactly raw key r ↔ ¬ Escapes key (.response r) := by
  constructor
  · intro hExact hEscapes
    rcases (escapes_iff hKey rfl).mpr hEscapes with
      ⟨error, hError, hForeign⟩
    have hNone : ∀ m, ¬ Yields r m := by
      intro m hYields
      cases hError.symm.trans ((hExact.accepted m).mpr hYields)
    rcases hExact.refused hNone with ⟨e, hRefused, -⟩
    cases hError.symm.trans hRefused
    cases hForeign
  · intro hContained
    rcases request_of_normalize hKey with
      ⟨-, u, hRequest, hAbsolute⟩ | ⟨hLong, -⟩
    · have hAccepted :=
        fetch_response_eq_ok_iff hRequest hAbsolute r
      constructor
      · refine ⟨u.toText, ?_⟩
        intro settings now caller
        rw [Exchange.requests_run_get settings now hKey caller,
          Exchange.requestOf, hRequest]
      · exact hAccepted
      · intro hNone
        apply refused_of_not_escapes hKey hRequest hAbsolute hContained
        intro m hFetch
        exact hNone m ((hAccepted m).mp hFetch)
    · exact absurd (.tooLong hLong) hContained

/- The document of the sample is accepted, the stray location is not. -/
theorem not_acceptsExactly_of_location :
    Authority.normalize (some "http://a/") = .ok "http://a" ∧
      AcceptsExactly (some "http://a/") "http://a"
        { body := Bytes.ofText "\x7b\"issuer\":\"http://a\"\x7d" } ∧
      ¬ AcceptsExactly (some "http://a/") "http://a"
        { status := 302, headers := [("location", "http:b")] } := by
  have hKey : Authority.normalize (some "http://a/") = .ok "http://a" := by
    decide +kernel
  have hRequest : request "http://a" = .ok Exchange.sampleUrl := by
    decide +kernel
  have hIncomplete :
      Location.check Exchange.sampleUrl "http:b" =
        .error (.incomplete .pathAfterHost) := by
    decide +kernel
  have hRead :
      (Body.read (Bytes.ofText
        "\x7b\"issuer\":\"http://a\"\x7d")).toBool = true := by
    decide +kernel
  refine ⟨hKey, ?_, ?_⟩
  · rw [acceptsExactly_iff hKey]
    intro hEscapes
    cases hEscapes with
    | tooLong hLong => exact absurd hLong (by decide +kernel)
    | location hSame hTold hNone => cases hTold
    | tooDeep hSuccess hDeep =>
        rw [hDeep] at hRead
        cases hRead
  · rw [acceptsExactly_iff hKey, not_not]
    exact .location hRequest (by decide +kernel) hIncomplete

end Discovery

end KeyAssertion
