import KeyAssertion.Key.Jwk
import KeyAssertion.Rsa.Generation

/-
  This file defines the making of a new key pair and its two
  texts, the public and the private JWK.

  Key definitions include:
    * `KeyPair`
    * `KeyPair.Request`
    * `KeyPair.ofKey`
    * `KeyPair.generate`
-/

namespace KeyAssertion

/- The texts of the two JWKs of a key. -/
structure KeyPair where
  publicText : String
  privateText : String
deriving DecidableEq, Repr

namespace KeyPair

/- What is asked for. -/
structure Request where
  algorithm : Option String := some "RS512"
  use : Option JsonString := some (.text "sig")
  kid : Option JsonString := none
  bits : Int := 4096
deriving DecidableEq, Repr

/- Why no pair is made. -/
inductive Error
  | key (error : KeyError)
  | smallSize
  | absentMember (name : String)
  | noPrime
deriving DecidableEq, Repr

/- The wording of an error. -/
def Error.message : Error → String
  | .key error => error.message
  | .smallSize => "key_size must be at least 1024-bits."
  | .absentMember name => Text.quoted name
  | .noPrime => "no prime found"

/- The members of the public JWK, in order. -/
def publicMembers : List String :=
  ["kty", "n", "e", "alg", "use", "kid"]

/- The material of a new key; without a key id it has its thumbprint. -/
def material
    (key : Rsa.PrivateKey)
    (algorithm : String)
    (use kid : Option JsonString) : KeyMaterial :=
  let m := KeyMaterial.ofKey key (some algorithm) none use
  let kid :=
    match kid with
    | some k => if k.isEmpty then .text m.thumbprint else k
    | none => .text m.thumbprint
  { m with kid := some kid }

/- The named members of an object, or the first name that is absent. -/
def select
    (members : JsonObject) :
    List String → Except String JsonObject
  | [] => .ok []
  | name :: rest => do
      match members.member? name with
      | none => throw name
      | some v => return (.text name, v) :: (← select members rest)

/- The two texts of a key. -/
def ofKey
    (key : Rsa.PrivateKey)
    (algorithm : String)
    (use kid : Option JsonString) : Except Error KeyPair := do
  let jwk := (material key algorithm use kid).toJwk
  let shared ← (select jwk publicMembers).mapError .absentMember
  return ⟨Json.write Json.spaced (.object shared),
    Json.write Json.spaced (.object jwk)⟩

/- The algorithm asked for, which must be a supported one. -/
def Request.algorithmName (r : Request) : Except Error String :=
  match r.algorithm with
  | none => .error (.key (.algorithm "None"))
  | some name =>
      if (SigningAlgorithm.ofName? name).isSome then
        .ok name
      else
        .error (.key (.algorithm name))

/- A new pair from a source of random bytes. -/
def generate
    (r : Request)
    (s : Rsa.Entropy) : Except Error KeyPair := do
  let algorithm ← r.algorithmName
  if r.bits < 1024 then
    throw .smallSize
  match Rsa.generate? r.bits.toNat s with
  | none => throw .noPrime
  | some key => ofKey key algorithm r.use r.kid

end KeyPair

end KeyAssertion
