import KeyAssertion.Clock.Moment
import KeyAssertion.Key.Jwk

/-
  This file defines signed tokens in their compact form: a
  header and claims, both JSON objects, and a signature over
  the two.

  Key definitions include:
    * `TokenSource`
    * `TokenError`
    * `SignedToken`
    * `SignedToken.sign`
    * `SignedToken.verify`
-/

namespace KeyAssertion

------------------------------------------------------------
-- Sources
------------------------------------------------------------

/-
  What every new token takes from outside: an identifier, and
  random bytes by their position, for each draw.
-/
structure TokenSource where
  identifier : Nat → String
  salt : Nat → Nat → UInt8
  drawn : Nat := 0

namespace TokenSource

/- The source after one draw. -/
def next (s : TokenSource) : TokenSource :=
  { s with drawn := s.drawn + 1 }

/- The identifier of the next draw. -/
def nextIdentifier (s : TokenSource) : String :=
  s.identifier s.drawn

/- The random bytes of the next draw. -/
def nextSalt
    (s : TokenSource)
    (length : Nat) : Bytes :=
  (List.range length).map (s.salt s.drawn)

end TokenSource

------------------------------------------------------------
-- Errors
------------------------------------------------------------

/- Why no token is made. -/
inductive TokenError
  | negativeExpiry (seconds : Int)
  | noIssuer
  | noClient
  | noMethod
  | noUrl
  | key (error : KeyError)
  | date (error : DateError)
  | signature (fault : Rsa.SignFault)
deriving DecidableEq, Repr

/- The wording of an error. -/
def TokenError.message : TokenError → String
  | .negativeExpiry seconds =>
      "Assertion expiry must be >= 0 seconds, got "
        ++ Text.signedDecimal seconds
  | .noIssuer => "Issuer is required for a client assertion"
  | .noClient => "Client id is required for a client assertion"
  | .noMethod => "HTTP method is required for a DPoP proof"
  | .noUrl => "HTTP URL is required for a DPoP proof"
  | .key error => error.message
  | .date error => error.message
  | .signature fault => fault.message

------------------------------------------------------------
-- Signed Tokens
------------------------------------------------------------

/- A header, claims and the signature over both. -/
structure SignedToken where
  header : String
  claims : String
  signature : Bytes
deriving DecidableEq, Repr

namespace SignedToken

/- A text as a segment of a token. -/
def segment (text : String) : String :=
  Base64.encodeUrl (Bytes.ofText text)

/- The first two segments, over which the signature is taken. -/
def signingInputOf (header claims : String) : String :=
  segment header ++ "." ++ segment claims

/- The first two segments of a token. -/
def signingInput (t : SignedToken) : String :=
  signingInputOf t.header t.claims

/- The third segment. -/
def signatureText (t : SignedToken) : String :=
  Base64.encodeUrl t.signature

/- The compact form. -/
def value (t : SignedToken) : String :=
  t.signingInput ++ "." ++ t.signatureText

/- A header with the algorithm, the members in order of names. -/
def headerText
    (a : SigningAlgorithm)
    (members : JsonObject) : String :=
  Json.write Json.compact
    (Json.sorted (.object
      ((.text "alg", Json.text a.name) :: members)))

/- Claims in the order given. -/
def claimsText (members : JsonObject) : String :=
  Json.write Json.compact (.object members)

/- Sign a header and claims with the key of material. -/
def sign
    (m : KeyMaterial)
    (a : SigningAlgorithm)
    (salt : Nat → Bytes)
    (header claims : JsonObject) : Except TokenError SignedToken := do
  let key ← m.toKey.mapError .key
  let header := headerText a header
  let claims := claimsText claims
  let signature ←
    (Rsa.sign key a.padding a.digest (salt a.digest.length)
      (Bytes.ofText (signingInputOf header claims))).mapError .signature
  return ⟨header, claims, signature⟩

/- Whether the signature verifies under a public key. -/
def verify
    (t : SignedToken)
    (n e : Nat)
    (a : SigningAlgorithm) : Bool :=
  Rsa.verify n e a.padding a.digest (Bytes.ofText t.signingInput)
    t.signature

/- Whether the signature verifies under the key of material. -/
def verifyWith
    (t : SignedToken)
    (m : KeyMaterial) : Bool :=
  match m.numbers, m.algorithm with
  | .ok k, .ok a => t.verify k.n k.e a
  | _, _ => false

end SignedToken

end KeyAssertion
