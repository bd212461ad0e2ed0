import KeyAssertion.Key.Algorithm
import KeyAssertion.Key.Member
import KeyAssertion.Record.Fault
import KeyAssertion.Rsa.Factor
import KeyAssertion.Rsa.Numbers

/-
  This file defines key material: an RSA private key written
  as the members of a JWK, with an optional algorithm, key id
  and use.

  Key definitions include:
    * `KeyMaterial`
    * `KeyError`
    * `KeyMaterial.ofKey`
    * `KeyMaterial.toKey`
    * `KeyMaterial.ofMembers`
-/

namespace KeyAssertion

/- A private key as the members of a JWK. -/
structure KeyMaterial where
  kty : String := "RSA"
  n : String
  e : String
  d : String
  p : String
  q : String
  dp : String
  dq : String
  qi : String
  alg : Option String := none
  kid : Option JsonString := none
  use : Option JsonString := none
deriving DecidableEq, Repr, Inhabited

------------------------------------------------------------
-- Errors
------------------------------------------------------------

namespace Key

/- Why the numbers of a key are not accepted. -/
inductive NumbersFault
  | member (fault : MemberFault)
  | factors (fault : Rsa.FactorFault)
  | numbers (fault : Rsa.Fault)
deriving DecidableEq, Repr

/- The wording of a fault. -/
def NumbersFault.message : NumbersFault → String
  | .member fault => fault.message
  | .factors fault => fault.message
  | .numbers fault => fault.message

end Key

/- Why a key is refused. -/
inductive KeyError
  | missingMembers (names : List String)
  | jwkType (shown : String)
  | memberNotText (name : String)
  | algorithm (name : String)
  | noPrivateExponent
  | jwkNumbers (fault : Key.NumbersFault)
  | materialType (kty : String)
  | materialNumbers (fault : Key.NumbersFault)
deriving DecidableEq, Repr

namespace KeyError

/- The wording of an error. -/
def message : KeyError → String
  | .missingMembers names =>
      "JWK is missing required members: "
        ++ String.intercalate ", " names
  | .jwkType shown => "Unsupported JWK key type: " ++ shown
  | .memberNotText name =>
      "JWK member '" ++ name ++ "' must be a string"
  | .algorithm name => "Unsupported signing algorithm: " ++ name
  | .noPrivateExponent =>
      "JWK has no private exponent; a public key cannot sign"
  | .jwkNumbers fault =>
      "JWK does not describe a valid RSA private key: "
        ++ fault.message
  | .materialType kty => "Unsupported key type: " ++ kty
  | .materialNumbers fault =>
      "Inconsistent RSA key material: " ++ fault.message

/- Whether the key is of a kind that is not supported. -/
def isUnsupported : KeyError → Bool
  | .jwkType _ => true
  | .algorithm _ => true
  | .materialType _ => true
  | _ => false

end KeyError

------------------------------------------------------------
-- Material and Keys
------------------------------------------------------------

namespace KeyMaterial

/- The material of a set of numbers. -/
def ofNumbers
    (k : Rsa.Numbers)
    (alg : Option String)
    (kid use : Option JsonString) : KeyMaterial :=
  { n := Key.writeMember k.n
    e := Key.writeMember k.e
    d := Key.writeMember k.d
    p := Key.writeMember k.p
    q := Key.writeMember k.q
    dp := Key.writeMember k.dp
    dq := Key.writeMember k.dq
    qi := Key.writeMember k.qi
    alg := alg
    kid := kid
    use := use }

/- The material of a key. -/
def ofKey
    (key : Rsa.PrivateKey)
    (alg : Option String)
    (kid use : Option JsonString) : KeyMaterial :=
  ofNumbers key.numbers alg kid use

/- The numbers of material, the first fault in the order read. -/
def numbers (m : KeyMaterial) : Except Key.MemberFault Rsa.Numbers := do
  let p ← Key.readMember (.text m.p)
  let q ← Key.readMember (.text m.q)
  let d ← Key.readMember (.text m.d)
  let dp ← Key.readMember (.text m.dp)
  let dq ← Key.readMember (.text m.dq)
  let qi ← Key.readMember (.text m.qi)
  let e ← Key.readMember (.text m.e)
  let n ← Key.readMember (.text m.n)
  return ⟨n, e, d, p, q, dp, dq, qi⟩

/- The key of material. -/
def toKey (m : KeyMaterial) : Except KeyError Rsa.PrivateKey :=
  if m.kty ≠ "RSA" then
    .error (.materialType m.kty)
  else
    match m.numbers with
    | .error fault => .error (.materialNumbers (.member fault))
    | .ok k =>
        match k.check with
        | .error fault => .error (.materialNumbers (.numbers fault))
        | .ok key => .ok key

/- The name of the algorithm to sign with. -/
def algorithmName (m : KeyMaterial) : String :=
  match m.alg with
  | some name => if name = "" then SigningAlgorithm.defaultName else name
  | none => SigningAlgorithm.defaultName

/- The algorithm to sign with. -/
def algorithm (m : KeyMaterial) : Except KeyError SigningAlgorithm :=
  match SigningAlgorithm.ofName? m.algorithmName with
  | some a => .ok a
  | none => .error (.algorithm m.algorithmName)

/- Material from named values, or the faults of its fields in order. -/
def ofMembers
    (members : JsonObject) : Except (List FieldFault) KeyMaterial :=
  let kty := Field.text members "kty" (some "RSA")
  let n := Field.text members "n"
  let e := Field.text members "e"
  let d := Field.text members "d"
  let p := Field.text members "p"
  let q := Field.text members "q"
  let dp := Field.text members "dp"
  let dq := Field.text members "dq"
  let qi := Field.text members "qi"
  let alg := Field.text? members "alg"
  let kid := Field.string? members "kid"
  let use := Field.string? members "use"
  let record : Except FieldFault KeyMaterial := do
    return ⟨← kty, ← n, ← e, ← d, ← p, ← q, ← dp, ← dq, ← qi,
      ← alg, ← kid, ← use⟩
  match record with
  | .ok m => .ok m
  | .error _ =>
      .error (FieldFault.sort
        ([kty, n, e, d, p, q, dp, dq, qi].flatMap Field.fault?
          ++ Field.fault? alg ++ [kid, use].flatMap Field.fault?))

end KeyMaterial

end KeyAssertion
