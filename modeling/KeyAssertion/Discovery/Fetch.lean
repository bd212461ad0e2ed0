import KeyAssertion.Attempt
import KeyAssertion.Discovery.Authority
import KeyAssertion.Discovery.Metadata
import KeyAssertion.Http.Body
import KeyAssertion.Http.Reply

/-
  This file defines how the metadata of an authority is
  fetched: the request that is sent, and what is made of the
  reply.

  Key definitions include:
    * `FetchError`
    * `Discovery.request`
    * `Discovery.read`
    * `Discovery.fetch`

  Lemmas on what is accepted include:
    * `Discovery.parse_of_request`
    * `Discovery.readResponse_eq_ok_iff`
    * `Discovery.fetch_eq_ok_iff`
-/

namespace KeyAssertion

/-
  Why a fetch gives no metadata.  Only the first kind belongs
  to discovery; the others pass through it.
-/
inductive FetchError
  | discovery (error : DiscoveryError)
  | url (fault : Url.Fault)
  | tooDeep
  | transport (kind description : String)
deriving DecidableEq, Repr

/- The wording of an error. -/
def FetchError.message : FetchError → String
  | .discovery e => e.message
  | .url fault => fault.message
  | .tooDeep => ""
  | .transport _ description => description

namespace Discovery

------------------------------------------------------------
-- Requests
------------------------------------------------------------

/- A URL without a scheme or a host as one below the root. -/
def belowRoot (u : Url) : Url :=
  let path := u.path.toList.dropWhile fun c => c == '/'
  { u with
    scheme := ""
    userinfo := ""
    host := ""
    port := none
    path := "/" ++ String.ofList path
    fragment := none }

/- The URL that is asked for the metadata of an authority. -/
def request (authority : String) : Except FetchError Url := do
  let u ← (Url.parse (authority ++ Authority.wellKnownPath)).mapError .url
  if u.isAbsolute then
    match Host.check u.host with
    | .ok () => return u
    | .error _ => throw (.discovery (.notJson authority))
  else
    return belowRoot u

------------------------------------------------------------
-- Replies
------------------------------------------------------------

/- Check the location that a response tells to go to. -/
def checkLocation
    (authority : String)
    (u : Url)
    (location : String) : Except FetchError Unit :=
  match Location.check u location with
  | .ok () => .ok ()
  | .error (.unreadable fault) =>
      .error (.discovery (.retrieval authority (.badLocation fault)))
  | .error (.host _) => .error (.discovery (.notJson authority))
  | .error (.incomplete fault) => .error (.url fault)

/- Check that a response tells of success. -/
def checkStatus
    (authority : String)
    (u : Url)
    (r : HttpResponse) : Except FetchError Unit :=
  if HttpStatus.isSuccess r.status then
    .ok ()
  else
    .error (.discovery (.retrieval authority
      (.status ⟨r.status, u.toText, r.location?⟩)))

/- The JSON value of a response. -/
def readBody
    (authority : String)
    (r : HttpResponse) : Except FetchError Json :=
  match Body.read r.body with
  | .ok v => .ok v
  | .error .notJson => .error (.discovery (.notJson authority))
  | .error .tooDeep => .error .tooDeep

/- The metadata in a response to a request. -/
def readResponse
    (authority : String)
    (u : Url)
    (r : HttpResponse) : Except FetchError DiscoveryMetadata := do
  if !u.isAbsolute then
    throw (.discovery (.notJson authority))
  match r.location? with
  | some location => checkLocation authority u location
  | none => pure ()
  checkStatus authority u r
  let v ← readBody authority r
  (DiscoveryMetadata.ofJson authority v).mapError .discovery

/- The metadata in a reply to a request. -/
def read
    (authority : String)
    (u : Url) : HttpReply → Except FetchError DiscoveryMetadata
  | .response r => readResponse authority u r
  | .failure (.protocol message) =>
      .error (.discovery (.retrieval authority (.failure message)))
  | .failure (.value _) => .error (.discovery (.notJson authority))
  | .failure (.other kind message) => .error (.transport kind message)

/-
  The metadata of an authority, when this is what comes back
  for the request, if one can be sent at all.
-/
def fetch
    (authority : String)
    (reply : HttpReply) : Except FetchError DiscoveryMetadata := do
  let u ← request authority
  read authority u reply

------------------------------------------------------------
-- What Is Accepted
------------------------------------------------------------

/- An absolute URL is requested as it is read. -/
theorem parse_of_request
    {authority : String}
    {u : Url}
    (hRequest : request authority = .ok u)
    (hAbsolute : u.isAbsolute = true) :
    Url.parse (authority ++ Authority.wellKnownPath) = .ok u := by
  rcases (Attempt.bind_eq_ok_iff _ _ _).mp hRequest with
    ⟨w, hParse, hCheck⟩
  have hRead := (Attempt.mapError_eq_ok_iff _ _ _).mp hParse
  split at hCheck
  · split at hCheck
    · cases hCheck
      exact hRead
    · cases hCheck
  · cases hCheck
    simp [belowRoot, Url.isAbsolute] at hAbsolute

/- A response that tells of success tells of no other location. -/
theorem location?_of_isSuccess
    {r : HttpResponse}
    (hSuccess : HttpStatus.isSuccess r.status = true) :
    r.location? = none := by
  have hRange : 200 ≤ r.status ∧ r.status ≤ 299 := by
    simpa [HttpStatus.isSuccess] using hSuccess
  have hStays : ¬ HttpStatus.isRedirect r.status = true := by
    simp only [HttpStatus.isRedirect, List.contains_cons,
      List.contains_nil, Bool.or_eq_true, beq_iff_eq]
    simp
    omega
  unfold HttpResponse.location?
  rw [if_neg hStays]

/-
  Metadata is had from a response that tells of success and
  whose body describes them.
-/
theorem readResponse_eq_ok_iff
    (authority : String)
    (u : Url)
    (r : HttpResponse)
    (m : DiscoveryMetadata) :
    readResponse authority u r = .ok m ↔
      u.isAbsolute = true ∧
        HttpStatus.isSuccess r.status = true ∧
        ∃ v,
          Body.read r.body = .ok v ∧
            DiscoveryMetadata.ofJson authority v = .ok m := by
  unfold readResponse
  by_cases hAbsolute : u.isAbsolute = true
  · by_cases hSuccess : HttpStatus.isSuccess r.status = true
    · have hBody :
          ∀ v,
            readBody authority r = .ok v ↔
              Body.read r.body = .ok v := by
        intro v
        unfold readBody
        cases Body.read r.body with
        | ok w => simp
        | error fault => cases fault <;> simp
      simp [hAbsolute, hSuccess, location?_of_isSuccess hSuccess,
        checkStatus, Attempt.bind_eq_ok_iff,
        Attempt.mapError_eq_ok_iff, hBody]
    · cases r.location? with
      | none =>
          simp [hAbsolute, hSuccess, checkStatus,
            Attempt.bind_eq_ok_iff]
      | some location =>
          simp [hAbsolute, hSuccess, checkStatus,
            Attempt.bind_eq_ok_iff]
  · simp [hAbsolute, Attempt.bind_eq_ok_iff]

/-
  Metadata is fetched if and only if the URL of the authority
  is requested and such a response comes back.
-/
theorem fetch_eq_ok_iff
    (authority : String)
    (reply : HttpReply)
    (m : DiscoveryMetadata) :
    fetch authority reply = .ok m ↔
      ∃ u r v,
        request authority = .ok u ∧
          u.isAbsolute = true ∧
          reply = .response r ∧
          HttpStatus.isSuccess r.status = true ∧
          Body.read r.body = .ok v ∧
          DiscoveryMetadata.ofJson authority v = .ok m := by
  unfold fetch
  rw [Attempt.bind_eq_ok_iff]
  constructor
  · rintro ⟨u, hRequest, hRead⟩
    cases reply with
    | failure f =>
        cases f <;> cases hRead
    | response r =>
        rcases (readResponse_eq_ok_iff authority u r m).mp hRead with
          ⟨hAbsolute, hSuccess, v, hBody, hMetadata⟩
        exact
          ⟨u, r, v, hRequest, hAbsolute, rfl, hSuccess, hBody,
            hMetadata⟩
  · rintro
      ⟨u, r, v, hRequest, hAbsolute, rfl, hSuccess, hBody,
        hMetadata⟩
    refine ⟨u, hRequest, ?_⟩
    exact
      (readResponse_eq_ok_iff authority u r m).mpr
        ⟨hAbsolute, hSuccess, v, hBody, hMetadata⟩

end Discovery

end KeyAssertion
