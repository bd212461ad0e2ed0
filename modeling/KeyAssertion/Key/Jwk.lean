import KeyAssertion.Hash.Sha256
import KeyAssertion.Json.Reader
import KeyAssertion.Json.Writer
import KeyAssertion.Key.Material

/-
  This file defines the import of a private key from a JWK,
  its export, the public part of a key and its thumbprint.

  Key definitions include:
    * `Jwk.toMaterial`
    * `Jwk.readMaterial`
    * `KeyMaterial.toJwk`
    * `KeyMaterial.publicJwk`
    * `Jwk.thumbprint`
-/

namespace KeyAssertion

namespace Jwk

------------------------------------------------------------
-- Import
------------------------------------------------------------

/- The members that every JWK must have. -/
def requiredMembers : List String :=
  ["kty", "n", "e"]

/- The members that are recovered when one of them is absent. -/
def factorMembers : List String :=
  ["p", "q", "dp", "dq", "qi"]

/- Whether a member is there and not null, false, zero or empty. -/
def has
    (jwk : JsonObject)
    (name : String) : Bool :=
  (jwk.memberOrNull name).isTruthy

/- A member that may be absent or null and is else a string. -/
def optionalText
    (jwk : JsonObject)
    (name : String) : Except KeyError (Option JsonString) :=
  match jwk.memberOrNull name with
  | .null => .ok none
  | .string s => .ok (some s)
  | _ => .error (.memberNotText name)

/- A string that is the name of a supported algorithm. -/
def supportedName? (s : JsonString) : Option String :=
  s.text?.filter fun name => (SigningAlgorithm.ofName? name).isSome

/- The algorithm, which must be a supported one. -/
def algorithmText
    (jwk : JsonObject) : Except KeyError (Option String) := do
  match ← optionalText jwk "alg" with
  | none => return none
  | some s =>
      match supportedName? s with
      | some name => return some name
      | none => throw (.algorithm s.toText)

/- The number of a member. -/
def number
    (jwk : JsonObject)
    (name : String) : Except Key.NumbersFault Nat :=
  (Key.readValue (jwk.memberOrNull name)).mapError .member

/- The remaining numbers as the JWK gives them. -/
def givenFactors
    (jwk : JsonObject)
    (n e d : Nat) : Except Key.NumbersFault Rsa.Numbers := do
  let p ← number jwk "p"
  let q ← number jwk "q"
  let dp ← number jwk "dp"
  let dq ← number jwk "dq"
  let qi ← number jwk "qi"
  return ⟨n, e, d, p, q, dp, dq, qi⟩

/- The remaining numbers computed from the first three. -/
def recoveredFactors
    (n e d : Nat) : Except Key.NumbersFault Rsa.Numbers := do
  let (p, q) ← (Rsa.recoverFactors n e d).mapError .factors
  return ⟨n, e, d, p, q, d % (p - 1), d % (q - 1), Rsa.inverseMod q p⟩

/- The numbers of a JWK, the last five given or recovered. -/
def numbers (jwk : JsonObject) : Except Key.NumbersFault Rsa.Numbers := do
  let n ← number jwk "n"
  let e ← number jwk "e"
  let d ← number jwk "d"
  if factorMembers.all (has jwk) then
    givenFactors jwk n e d
  else
    recoveredFactors n e d

/- The key of a JWK. -/
def key (jwk : JsonObject) : Except Key.NumbersFault Rsa.PrivateKey := do
  let k ← numbers jwk
  k.check.mapError .numbers

/- The normalized material of a JWK. -/
def toMaterial (jwk : JsonObject) : Except KeyError KeyMaterial := do
  let missing := requiredMembers.filter fun name => !has jwk name
  if !missing.isEmpty then
    throw (.missingMembers missing)
  match jwk.memberOrNull "kty" with
  | .string (.text "RSA") => pure ()
  | kty => throw (.jwkType kty.display)
  let alg ← algorithmText jwk
  if !has jwk "d" then
    throw .noPrivateExponent
  let key ← (key jwk).mapError .jwkNumbers
  let kid ← optionalText jwk "kid"
  let use ← optionalText jwk "use"
  return KeyMaterial.ofKey key alg kid use

/- Why the text of a JWK is refused. -/
inductive TextError
  | malformed (fault : Json.Fault)
  | notObject
  | longInteger (digits : Nat)
  | tooDeep
  | key (error : KeyError)
deriving DecidableEq, Repr

/- The wording of an error. -/
def TextError.message : TextError → String
  | .malformed fault => "Invalid JWK JSON: " ++ fault.message
  | .notObject => "JWK JSON must be an object"
  | .longInteger digits => Json.longIntegerMessage digits
  | .tooDeep => ""
  | .key error => error.message

/- The material of the text of a JWK. -/
def readMaterial (text : String) : Except TextError KeyMaterial :=
  match Json.read text with
  | .ok (.object jwk) => (toMaterial jwk).mapError .key
  | .ok _ => .error .notObject
  | .error (.malformed fault) => .error (.malformed fault)
  | .error (.longInteger digits) => .error (.longInteger digits)
  | .error .tooDeep => .error .tooDeep

------------------------------------------------------------
-- Export
------------------------------------------------------------

/- The members that are there. -/
def present (members : List (String × Option JsonString)) : JsonObject :=
  members.filterMap fun (name, value?) =>
    value?.map fun value => (.text name, .string value)

end Jwk

namespace KeyMaterial

/- The private JWK of material. -/
def toJwk (m : KeyMaterial) : JsonObject :=
  Jwk.present
    [("kty", some (.text m.kty)), ("n", some (.text m.n)),
      ("e", some (.text m.e)), ("d", some (.text m.d)),
      ("p", some (.text m.p)), ("q", some (.text m.q)),
      ("dp", some (.text m.dp)), ("dq", some (.text m.dq)),
      ("qi", some (.text m.qi)), ("alg", m.alg.map .text),
      ("kid", m.kid), ("use", m.use)]

/- The members that a verifier needs. -/
def publicJwk (m : KeyMaterial) : JsonObject :=
  Jwk.present
    [("kty", some (.text m.kty)), ("n", some (.text m.n)),
      ("e", some (.text m.e))]

end KeyMaterial

------------------------------------------------------------
-- Thumbprints
------------------------------------------------------------

namespace Jwk

/-
  The text that a thumbprint is taken of: the members `e`,
  `kty` and `n` in order of names and without blanks.  The
  name of the first absent member is the error.
-/
def canonicalText (jwk : JsonObject) : Except String String := do
  let get (name : String) : Except String Json :=
    match jwk.member? name with
    | some v => .ok v
    | none => .error name
  let e ← get "e"
  let kty ← get "kty"
  let n ← get "n"
  return Json.write Json.compact
    (Json.sorted (.object
      (JsonObject.ofTexts [("e", e), ("kty", kty), ("n", n)])))

/- The SHA-256 thumbprint of a JWK. -/
def thumbprint (jwk : JsonObject) : Except String String := do
  let text ← canonicalText jwk
  return Base64.encodeUrl (Hash.sha256 (Bytes.ofText text))

end Jwk

/- The thumbprint of the public part of material. -/
def KeyMaterial.thumbprint (m : KeyMaterial) : String :=
  match Jwk.thumbprint m.publicJwk with
  | .ok t => t
  | .error _ => ""

end KeyAssertion
