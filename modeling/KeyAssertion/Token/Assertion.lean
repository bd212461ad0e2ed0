import KeyAssertion.Token.Signed

/-
  This file defines client assertions: short-lived tokens in
  which a client names itself as issuer and subject and the
  authorization server as audience.

  Key definitions include:
    * `ClientAssertion`
    * `ClientAssertion.Request`
    * `ClientAssertion.create`
-/

namespace KeyAssertion

/- A signed assertion and the moment it expires. -/
structure ClientAssertion where
  token : SignedToken
  expiresAt : Moment

namespace ClientAssertion

/- The type parameter that goes with an assertion. -/
def assertionType : String :=
  "urn:ietf:params:oauth:client-assertion-type:jwt-bearer"

/- The type in the header of an assertion. -/
def headerType : String :=
  "client-authentication+jwt"

/- What an assertion is made of. -/
structure Request where
  issuer : String
  clientId : String
  key : KeyMaterial
  expirySeconds : Int := 10
  keyId : Option JsonString := none
deriving Repr

/- The key id: the one asked for, else the key's own. -/
def Request.kid (r : Request) : Option JsonString :=
  (r.keyId.filter (!·.isEmpty)).or (r.key.kid.filter (!·.isEmpty))

/- The algorithm and the moment of expiry of a valid request. -/
def Request.check
    (r : Request)
    (now : Moment) : Except TokenError (SigningAlgorithm × Moment) := do
  if r.expirySeconds < 0 then
    throw (.negativeExpiry r.expirySeconds)
  if r.issuer = "" then
    throw .noIssuer
  if r.clientId = "" then
    throw .noClient
  let a ← r.key.algorithm.mapError .key
  let lifetime ← (Duration.ofSeconds r.expirySeconds).mapError .date
  let expiresAt ← (now.add lifetime).mapError .date
  return (a, expiresAt)

/- The header members besides the algorithm. -/
def headerMembers (kid : Option JsonString) : JsonObject :=
  Jwk.present [("typ", some (.text headerType)), ("kid", kid)]

/- The claims. -/
def claimMembers
    (r : Request)
    (now expiresAt : Moment)
    (identifier : String) : JsonObject :=
  JsonObject.ofTexts
    [("sub", Json.text r.clientId),
      ("iss", Json.text r.clientId),
      ("aud", Json.text r.issuer),
      ("iat", .integer now.unixSeconds),
      ("nbf", .integer now.unixSeconds),
      ("exp", .integer expiresAt.unixSeconds),
      ("jti", Json.text identifier)]

/-
  Make an assertion.  A request that is refused takes nothing
  from the source; every other one takes one draw, also when
  the key turns out not to sign.
-/
def create
    (r : Request)
    (now : Moment)
    (source : TokenSource) :
    Except TokenError ClientAssertion × TokenSource :=
  match r.check now with
  | .error e => (.error e, source)
  | .ok (a, expiresAt) =>
      let token :=
        SignedToken.sign r.key a source.nextSalt (headerMembers r.kid)
          (claimMembers r now expiresAt source.nextIdentifier)
      (token.map (⟨·, expiresAt⟩), source.next)

end ClientAssertion

end KeyAssertion
