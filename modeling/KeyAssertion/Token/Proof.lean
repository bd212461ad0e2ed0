import KeyAssertion.Token.Signed

/-
  This file defines proofs of possession: tokens bound to one
  HTTP request that carry the public key in their header.

  Key definitions include:
    * `accessTokenHash`
    * `PossessionProof`
    * `PossessionProof.Request`
    * `PossessionProof.create`
-/

namespace KeyAssertion

/- The hash that binds a proof to an access token. -/
def accessTokenHash (accessToken : String) : String :=
  Base64.encodeUrl (Hash.sha256 (Bytes.ofText accessToken))

/- A signed proof and what it says. -/
structure PossessionProof where
  httpMethod : String
  httpUrl : String
  issuedAt : Moment
  identifier : String
  nonce : Option String
  accessTokenHash : Option String
  token : SignedToken

namespace PossessionProof

/- The type in the header of a proof. -/
def headerType : String :=
  "dpop+jwt"

/- What a proof is made of. -/
structure Request where
  httpMethod : String
  httpUrl : String
  key : KeyMaterial
  nonce : Option String := none
  accessToken : Option String := none
deriving Repr

/- The nonce, unless it is empty. -/
def Request.nonceClaim (r : Request) : Option String :=
  r.nonce.filter (· ≠ "")

/- The hash of the access token, unless that is empty. -/
def Request.hashClaim (r : Request) : Option String :=
  (r.accessToken.filter (· ≠ "")).map KeyAssertion.accessTokenHash

/- The algorithm of a valid request. -/
def Request.check
    (r : Request) : Except TokenError SigningAlgorithm := do
  if r.httpMethod = "" then
    throw .noMethod
  if r.httpUrl = "" then
    throw .noUrl
  r.key.algorithm.mapError .key

/- The header members besides the algorithm. -/
def headerMembers (key : KeyMaterial) : JsonObject :=
  JsonObject.ofTexts
    [("typ", Json.text headerType), ("jwk", .object key.publicJwk)]

/- The claims. -/
def claimMembers
    (r : Request)
    (now : Moment)
    (identifier : String) : JsonObject :=
  JsonObject.ofTexts
    [("jti", Json.text identifier),
      ("htm", Json.text r.httpMethod),
      ("htu", Json.text r.httpUrl),
      ("iat", .integer now.unixSeconds)]
    ++ Jwk.present
      [("nonce", r.nonceClaim.map .text), ("ath", r.hashClaim.map .text)]

/-
  Make a proof.  A request that is refused takes nothing from
  the source; every other one takes one draw, also when the
  key turns out not to sign.
-/
def create
    (r : Request)
    (now : Moment)
    (source : TokenSource) :
    Except TokenError PossessionProof × TokenSource :=
  match r.check with
  | .error e => (.error e, source)
  | .ok a =>
      let identifier := source.nextIdentifier
      let token :=
        SignedToken.sign r.key a source.nextSalt (headerMembers r.key)
          (claimMembers r now identifier)
      let proof (t : SignedToken) : PossessionProof :=
        { httpMethod := r.httpMethod
          httpUrl := r.httpUrl
          issuedAt := now
          identifier := identifier
          nonce := r.nonceClaim
          accessTokenHash := r.hashClaim
          token := t }
      (token.map proof, source.next)

end PossessionProof

end KeyAssertion
