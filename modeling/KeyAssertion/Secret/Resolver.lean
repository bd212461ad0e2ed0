import KeyAssertion.Certificate.Store
import KeyAssertion.Key.Jwk
import KeyAssertion.Secret.Format

/-
  This file defines the key that a secret stands for: the one
  it spells out, or the one of a certificate in a store.

  Key definitions include:
    * `SecretError`
    * `Secret.base64Text`
    * `Secret.material`
    * `Secret.resolve`
-/

namespace KeyAssertion

/- Why a secret gives no key. -/
inductive SecretError
  | empty
  | text (error : Jwk.TextError)
  | pem (error : KeyPem.Error)
  | certificate (error : CertificateError)
deriving DecidableEq, Repr

namespace SecretError

/- The wording of an error. -/
def message : SecretError → String
  | .empty => Secret.emptyMessage
  | .text e => e.message
  | .pem e => e.message
  | .certificate e => e.message

end SecretError

namespace Secret

/-
  The JSON text that a Base64 text holds, none if it holds
  something else.
-/
def base64Text (text : String) : Except Jwk.TextError (Option String) :=
  match (Base64.Strict.decode text.toList).bind Bytes.toText? with
  | none => .ok none
  | some decoded =>
      match Json.read decoded with
      | .ok _ => .ok (some decoded)
      | .error (.malformed _) => .ok none
      | .error (.longInteger digits) => .error (.longInteger digits)
      | .error .tooDeep => .error .tooDeep

variable [KeyLibrary]

/- The material of the certificate of a thumbprint. -/
def certificateMaterial
    (store : CertificateStore)
    (now : Moment)
    (thumbprint : String) : Except SecretError KeyMaterial := do
  let handle ← (store.certificate now thumbprint).mapError .certificate
  handle.toMaterial.mapError .certificate

/-
  The material of a secret.  A Base64 text that does not hold
  JSON is taken for a thumbprint.
-/
def material
    (store : CertificateStore)
    (now : Moment) : Secret → Except SecretError KeyMaterial
  | .jwk text => (Jwk.readMaterial text).mapError .text
  | .pem text => (KeyPem.toMaterial text).mapError .pem
  | .base64 text => do
      match ← (base64Text text).mapError .text with
      | some decoded => (Jwk.readMaterial decoded).mapError .text
      | none =>
          certificateMaterial store now (Thumbprint.normalize text)
  | .thumbprint text => certificateMaterial store now text

/- The material of the secret that a text is. -/
def resolve
    (store : CertificateStore)
    (now : Moment)
    (raw : Option String) : Except SecretError KeyMaterial :=
  match detect? raw with
  | none => .error .empty
  | some secret => secret.material store now

end Secret

end KeyAssertion
