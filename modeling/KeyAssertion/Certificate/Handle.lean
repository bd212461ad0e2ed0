import KeyAssertion.Certificate.Basic
import KeyAssertion.Key.Pem
import KeyAssertion.Pem.Blocks

/-
  This file defines certificates together with their private
  keys as stores hand them out, how a bundle of the two is
  read, and when a certificate may be used.

  Key definitions include:
    * `StoreLocation`
    * `CertificateEntry`
    * `CertificateHandle`
    * `CertificateError`
    * `CertificateEntry.ofBundle`
    * `CertificateHandle.validate`
    * `CertificateHandle.toMaterial`
-/

namespace KeyAssertion

/- The two scopes of a store. -/
inductive StoreLocation
  | currentUser
  | localMachine
deriving DecidableEq, Repr, Inhabited

namespace StoreLocation

/- The name of a scope. -/
def name : StoreLocation → String
  | .currentUser => "current_user"
  | .localMachine => "local_machine"

/- The scope of a name. -/
def ofName? (s : String) : Option StoreLocation :=
  [currentUser, localMachine].find? fun l => l.name == s

end StoreLocation

/- A certificate and the private key beside it. -/
structure CertificateEntry where
  certificate : Certificate
  key : Option LoadedKey

/- What a store tells about a certificate it has found. -/
structure CertificateHandle where
  thumbprint : String
  location : StoreLocation
  subject : String
  notBefore : Moment
  notAfter : Moment
  key : Option LoadedKey

------------------------------------------------------------
-- Errors
------------------------------------------------------------

/- Why a certificate cannot be had or used. -/
inductive CertificateError
  | noCertificate
  | malformedBundle
  | version (number : Nat)
  | unknownAlgorithm (algorithm : LoadedKey.UnknownAlgorithm)
  | unreadableName (fault : SubjectFault)
  | emptyThumbprint
  | notFound (thumbprint : String) (location : StoreLocation)
  | expired (thumbprint subject stamp : String)
  | notYetValid (thumbprint subject stamp : String)
  | noKey (thumbprint subject : String)
  | notRsa (thumbprint : String)
deriving DecidableEq, Repr

namespace CertificateError

/- The wording of an error. -/
def message : CertificateError → String
  | .noCertificate => "PEM bundle contains no certificate"
  | .malformedBundle => "Invalid PEM certificate bundle:"
  | .version number =>
      Text.decimal number ++ " is not a valid X509 version"
  | .unknownAlgorithm algorithm => algorithm.message
  | .unreadableName fault => fault.message
  | .emptyThumbprint => "Certificate thumbprint cannot be empty"
  | .notFound thumbprint location =>
      "No certificate found for thumbprint " ++ thumbprint
        ++ " in the " ++ location.name ++ " store"
  | .expired _ subject stamp =>
      "Certificate " ++ subject ++ " has expired on " ++ stamp
  | .notYetValid _ subject stamp =>
      "Certificate " ++ subject ++ " is not valid until " ++ stamp
  | .noKey _ subject =>
      "Certificate " ++ subject ++ " has no private key available"
  | .notRsa thumbprint =>
      "Certificate " ++ thumbprint ++ " does not hold an RSA private key"

/- The certificate that an error is about. -/
def thumbprint? : CertificateError → Option String
  | .notFound t _ => some t
  | .expired t _ _ => some t
  | .notYetValid t _ _ => some t
  | .noKey t _ => some t
  | _ => none

end CertificateError

------------------------------------------------------------
-- Bundles
------------------------------------------------------------

namespace CertificateEntry

/- The error of a certificate that cannot be read. -/
def certificateError : Certificate.Fault → CertificateError
  | .malformed => .malformedBundle
  | .version number => .version number

/-
  The certificate of a bundle and, if there is one, its private
  key, which must then be readable.
-/
def ofBundle
    [KeyLibrary]
    (bytes : Bytes) : Except CertificateError CertificateEntry :=
  let blocks := Pem.firstBlocks bytes
  match Pem.certificateBlock? blocks with
  | none => .error .noCertificate
  | some text =>
      match Certificate.ofPem text with
      | .error fault => .error (certificateError fault)
      | .ok certificate =>
          match Pem.keyBlock? blocks with
          | none => .ok ⟨certificate, none⟩
          | some text =>
              match LoadedKey.ofPem text with
              | .error (.unknownAlgorithm algorithm) =>
                  .error (.unknownAlgorithm algorithm)
              | .error _ => .error .malformedBundle
              | .ok key => .ok ⟨certificate, some key⟩

/- The handle of a certificate and key in a store. -/
def handle
    (e : CertificateEntry)
    (location : StoreLocation) :
    Except CertificateError CertificateHandle := do
  let subject ← e.certificate.subject.text.mapError .unreadableName
  return { thumbprint := e.certificate.thumbprint
           location := location
           subject := subject
           notBefore := e.certificate.notBefore
           notAfter := e.certificate.notAfter
           key := e.key }

end CertificateEntry

------------------------------------------------------------
-- Use
------------------------------------------------------------

namespace CertificateHandle

/-
  Refuse a certificate that has expired, that is not yet valid
  or that has no key, in this order.
-/
def validate
    (h : CertificateHandle)
    (now : Moment) : Except CertificateError Unit :=
  if h.notAfter < now then
    .error (.expired h.thumbprint h.subject (Calendar.stamp h.notAfter))
  else if now < h.notBefore then
    .error (.notYetValid h.thumbprint h.subject
      (Calendar.stamp h.notBefore))
  else if h.key.isNone then
    .error (.noKey h.thumbprint h.subject)
  else
    .ok ()

/- The material of a certificate's RSA key, named by the thumbprint. -/
def toMaterial
    (h : CertificateHandle) : Except CertificateError KeyMaterial :=
  match h.key with
  | none => .error (.noKey h.thumbprint h.subject)
  | some (.rsa key) =>
      .ok (KeyMaterial.ofKey key none (some (.text h.thumbprint)) none)
  | some (.other _) => .error (.notRsa h.thumbprint)

end CertificateHandle

end KeyAssertion
