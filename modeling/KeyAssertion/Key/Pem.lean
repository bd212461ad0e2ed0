import KeyAssertion.Key.Loaded
import KeyAssertion.Key.Material
import KeyAssertion.Pem.Armor

/-
  This file defines the reading of private keys from PEM.

  Key definitions include:
    * `LoadedKey.ofPem`
    * `KeyPem.Error`
    * `KeyPem.toMaterial`
-/

namespace KeyAssertion

namespace LoadedKey

/- The labels of private keys that are read. -/
def keyLabels : List String :=
  ["PRIVATE KEY", "ENCRYPTED PRIVATE KEY", "RSA PRIVATE KEY",
    "EC PRIVATE KEY", "DSA PRIVATE KEY"]

variable [KeyLibrary]

/- The key of data under a label. -/
def ofLabel
    (label : String)
    (data : Bytes) : Except LoadFault LoadedKey :=
  match label with
  | "PRIVATE KEY" => ofPkcs8 data
  | "RSA PRIVATE KEY" => checked (ofPkcs1? data)
  | "EC PRIVATE KEY" => checked (ofSec1? none data)
  | "DSA PRIVATE KEY" => checked (ofDsa? data)
  | "ENCRYPTED PRIVATE KEY" =>
      if isEncryptedStructure data then
        .error .encrypted
      else
        .error .malformed
  | _ => .error .malformed

/- The key of a block; headers may say that it is encrypted. -/
def ofArmor (a : Pem.Armor) : Except LoadFault LoadedKey :=
  match a.header? "Proc-Type" with
  | none => ofLabel a.label a.contents
  | some kind =>
      if kind = "4,ENCRYPTED" ∧ (a.header? "DEK-Info").isSome then
        .error .encrypted
      else
        .error .malformed

/- The first private key of a text. -/
def ofPem (bytes : Bytes) : Except LoadFault LoadedKey :=
  match Pem.readArmor? bytes with
  | none => .error .malformed
  | some blocks =>
      match blocks.find? fun a => keyLabels.contains a.label with
      | none => .error .malformed
      | some a => ofArmor a

end LoadedKey

namespace KeyPem

/- Why a PEM secret gives no key material. -/
inductive Error
  | encrypted
  | malformed
  | unknownAlgorithm (algorithm : LoadedKey.UnknownAlgorithm)
  | unsupported (kindName : String)
deriving DecidableEq, Repr

/- The wording of an error. -/
def Error.message : Error → String
  | .encrypted => "Encrypted PEM private keys are not supported"
  | .malformed => "Invalid PEM private key:"
  | .unknownAlgorithm algorithm => algorithm.message
  | .unsupported kindName => "Unsupported PEM key type: " ++ kindName

/- The material of the key that a PEM text holds. -/
def toMaterial
    [KeyLibrary]
    (text : String) : Except Error KeyMaterial :=
  match LoadedKey.ofPem (Bytes.ofText (Text.strip text)) with
  | .error .encrypted => .error .encrypted
  | .error .malformed => .error .malformed
  | .error (.unknownAlgorithm algorithm) =>
      .error (.unknownAlgorithm algorithm)
  | .ok (.rsa key) => .ok (KeyMaterial.ofKey key none none none)
  | .ok key => .error (.unsupported key.kindName)

end KeyPem

end KeyAssertion
