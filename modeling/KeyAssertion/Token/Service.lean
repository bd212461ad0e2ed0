import KeyAssertion.Discovery.Cache
import KeyAssertion.Secret.Resolver
import KeyAssertion.Settings.Assertion
import KeyAssertion.Token.Assertion
import KeyAssertion.Token.Proof

/-
  This file defines how tokens are made for a client: from the
  document of an authority, a secret and a store.

  Key definitions include:
    * `ServiceError`
    * `TokenService`
    * `TokenService.assertion`
    * `TokenService.proof`
-/

namespace KeyAssertion

/- Why no token is made. -/
inductive ServiceError
  | cache (error : CacheError)
  | secret (error : SecretError)
  | token (error : TokenError)
deriving DecidableEq, Repr

/- The wording of an error. -/
def ServiceError.message : ServiceError → String
  | .cache e => e.message
  | .secret e => e.message
  | .token e => e.message

/- What tokens are made with. -/
structure TokenService where
  store : CertificateStore
  settings : AssertionSettings := {}
  now : Moment

namespace TokenService

variable [KeyLibrary]

/-
  Make an assertion for the issuer of a document.  The secret
  is not looked at when there is no document.
-/
def assertion
    (s : TokenService)
    (document : Except CacheError DiscoveryDocument)
    (clientId : String)
    (secret : Option String)
    (source : TokenSource) :
    Except ServiceError ClientAssertion × TokenSource :=
  match document with
  | .error e => (.error (.cache e), source)
  | .ok d =>
      match Secret.resolve s.store s.now secret with
      | .error e => (.error (.secret e), source)
      | .ok key =>
          let request : ClientAssertion.Request :=
            { issuer := d.metadata.issuer
              clientId := clientId
              key := key
              expirySeconds := s.settings.expirationSeconds }
          let (result, source) :=
            ClientAssertion.create request s.now source
          (result.mapError .token, source)

/- Make a proof of possession with the key of a secret. -/
def proof
    (s : TokenService)
    (httpMethod httpUrl : String)
    (secret nonce accessToken : Option String)
    (source : TokenSource) :
    Except ServiceError PossessionProof × TokenSource :=
  match Secret.resolve s.store s.now secret with
  | .error e => (.error (.secret e), source)
  | .ok key =>
      let request : PossessionProof.Request :=
        { httpMethod := httpMethod
          httpUrl := httpUrl
          key := key
          nonce := nonce
          accessToken := accessToken }
      let (result, source) := PossessionProof.create request s.now source
      (result.mapError .token, source)

end TokenService

end KeyAssertion
