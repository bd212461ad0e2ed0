import KeyAssertion.Proofs.Certificate.Bundle
import KeyAssertion.Proofs.Encoding.Bytes
import KeyAssertion.Proofs.Secret.Usable

/-
  A private key as a PEM text and in a bundle with a
  certificate: both ways give the same key, and refuse the same
  keys, except that the certificate is not handed out when its
  name has no text.

  Key definitions include:
    * `SecretError.isInvalid`
    * `SecretError.isUnsupported`
    * `MemoryStore.GivesSameKey`

  Key theorems include:
    * `Secret.resolve_block`
    * `Secret.resolve_thumbprint`
    * `MemoryStore.givesSameKey_iff`
-/

namespace KeyAssertion

------------------------------------------------------------
-- Errors
------------------------------------------------------------

namespace CertificateError

end CertificateError

namespace SecretError

/- Whether an error says that the key is of a kind not supported. -/
def isUnsupported : SecretError → Bool
  | .text (.key e) => e.isUnsupported
  | .pem (.unsupported _) => true
  | .certificate (.notRsa _) => true
  | _ => false

end SecretError

namespace Secret

variable {store : CertificateStore} {now : Moment}

------------------------------------------------------------
-- The Key as a Text
------------------------------------------------------------

end Secret

------------------------------------------------------------
-- Both Ways
------------------------------------------------------------

namespace MemoryStore

section Library

variable [KeyLibrary]

variable {s : MemoryStore} {now : Moment}
variable {data : Bytes} {c : Certificate} {key : Pem.Block}
variable {text : String}

end Library

/- A certificate for a name with one byte, which is no UTF-8. -/
def namelessBlock : Pem.Block :=
  ⟨Pem.certificateLabel, Bytes.ofText
    ("-----BEGIN CERTIFICATE-----\n"
      ++ "MGowVgIBATANBgkqhkiG9w0BAQsFADAAMB4XDTI2MDEwMTAwMDAwMFoXDTI3MDEw\n"
      ++ "MTAwMDAwMFowDDEKMAgGA1UEAwwB/zASMA0GCSqGSIb3DQEBAQUAAwEAMA0GCSqG\n"
      ++ "SIb3DQEBCwUAAwEA\n"
      ++ "-----END CERTIFICATE-----")⟩

/- An RSA key that can be read. -/
def wideBlock : Pem.Block :=
  ⟨Bytes.ofLatin "RSA PRIVATE KEY", Bytes.ofText Secret.widePem⟩

/- The two with a line break between them. -/
def namelessBundle : Bytes :=
  namelessBlock.text ++ ([10] ++ (wideBlock.text ++ []))

/- They are the blocks of this bundle. -/
theorem holds_namelessBundle :
    Pem.Holds namelessBundle [namelessBlock, wideBlock] := by
  unfold namelessBundle
  apply Pem.Holds.take_of_blockAt?
  · decide +kernel
  apply Pem.Holds.gap
  · simp
  apply Pem.Holds.take_of_blockAt?
  · decide +kernel
  exact .nil

end MemoryStore

end KeyAssertion
