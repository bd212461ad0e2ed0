import KeyAssertion.Certificate.Name
import KeyAssertion.Certificate.Thumbprint
import KeyAssertion.Clock.Calendar
import KeyAssertion.Hash.Sha1
import KeyAssertion.Key.Loaded
import KeyAssertion.Pem.Armor

/-
  This file defines certificates and their reading.  The
  signature is not verified.

  Key definitions include:
    * `Certificate`
    * `Certificate.Fault`
    * `Certificate.ofDer`
    * `Certificate.ofPem`
    * `Certificate.thumbprint`
-/

namespace KeyAssertion

/- A certificate: its encoding, the name it is for, its validity. -/
structure Certificate where
  encoding : Bytes
  subject : DistinguishedName
  notBefore : Moment
  notAfter : Moment

namespace Certificate

/- Why something is no certificate. -/
inductive Fault
  | malformed
  | version (number : Nat)
deriving DecidableEq, Repr

------------------------------------------------------------
-- Dates
------------------------------------------------------------

/- The number of two digits. -/
def twoDigits? (a b : UInt8) : Option Nat :=
  if 48 ≤ a ∧ a ≤ 57 ∧ 48 ≤ b ∧ b ≤ 57 then
    some ((a.toNat - 48) * 10 + (b.toNat - 48))
  else
    none

/- The numbers of pairs of digits up to a final `Z`. -/
def pairs? : Bytes → Option (List Nat)
  | [z] => if z = 90 then some [] else none
  | a :: b :: rest => do
      some ((← twoDigits? a b) :: (← pairs? rest))
  | [] => none

/- A date with two or four digits of the year. -/
def moment? (e : Der.Element) : Option Moment := do
  if e.tag = Der.utcTime then
    match ← pairs? e.content with
    | [year, month, day, hour, minute, second] =>
        let year := if 50 ≤ year then 1900 + year else 2000 + year
        Calendar.toMoment? year month day hour minute second
    | _ => none
  else if e.tag = Der.generalizedTime then
    match ← pairs? e.content with
    | [century, year, month, day, hour, minute, second] =>
        Calendar.toMoment? (century * 100 + year) month day
          hour minute second
    | _ => none
  else
    none

/- The two dates of a validity. -/
def validity? (e : Der.Element) : Option (Moment × Moment) := do
  match ← e.inner? Der.sequence with
  | [first, last] => return (← moment? first, ← moment? last)
  | _ => none

------------------------------------------------------------
-- Structure
------------------------------------------------------------

/- The signature algorithms whose parameters must be null or absent. -/
def plainAlgorithms : List (List Nat) :=
  [4, 5, 11, 12, 13, 14].map fun n => [1, 2, 840, 113549, 1, 1, n]

/- Whether an element is a signature algorithm. -/
def isAlgorithm (e : Der.Element) : Bool :=
  match LoadedKey.algorithm? e with
  | none => false
  | some (oid, parameters) =>
      !plainAlgorithms.contains oid || LoadedKey.areNull parameters

/- Whether an element is a public key with its algorithm. -/
def isPublicKey (e : Der.Element) : Bool :=
  match e.inner? Der.sequence with
  | some [algorithm, bits] =>
      (LoadedKey.algorithm? algorithm).isSome && Der.isBitString bits
  | _ => false

/- Whether an element is an extension. -/
def isExtension (e : Der.Element) : Bool :=
  match e.inner? Der.sequence with
  | some [oid, value] =>
      (Der.objectId? oid).isSome && value.tag == Der.octetString
  | some [oid, critical, value] =>
      (Der.objectId? oid).isSome && critical.tag == Der.boolean
        && critical.content == [0xff] && value.tag == Der.octetString
  | _ => false

/- Whether an element holds a list of extensions. -/
def areExtensions (e : Der.Element) : Bool :=
  match e.inner? (Der.context 3) with
  | some [list] =>
      match list.inner? Der.sequence with
      | some extensions => extensions.all isExtension
      | none => false
  | _ => false

/- Whether an element is a string of bits under a context tag. -/
def isIdentifier
    (n : UInt8)
    (e : Der.Element) : Bool :=
  e.tag == Der.contextPrimitive n
    && Der.isBitString { e with tag := Der.bitString }

/- Drop the first element if it passes a test. -/
def dropIf
    (p : Der.Element → Bool) :
    List Der.Element → List Der.Element
  | [] => []
  | e :: rest => if p e then rest else e :: rest

/- Whether the elements after the public key are what may follow. -/
def isTail (elements : List Der.Element) : Bool :=
  (dropIf areExtensions
    (dropIf (isIdentifier 2) (dropIf (isIdentifier 1) elements))).isEmpty

/- The version and the elements after it; the first may be left out. -/
def versionOf?
    (elements : List Der.Element) : Option (Nat × List Der.Element) := do
  match elements with
  | e :: rest =>
      if e.tag = Der.context 0 then
        match ← Der.elements? e.content with
        | [v] =>
            let version ← Der.natural? v
            if version = 0 ∨ 255 < version then
              none
            else
              some (version, rest)
        | _ => none
      else
        some (0, elements)
  | [] => none

/- The name and the validity that the signed part holds, and its version. -/
def signedPart?
    (e : Der.Element) :
    Option (Nat × DistinguishedName × Moment × Moment) := do
  let (version, elements) ← versionOf? (← e.inner? Der.sequence)
  match elements with
  | serial :: algorithm :: issuer :: validity :: subject :: key :: tail =>
      let _ ← DistinguishedName.ofElement? issuer
      let (first, last) ← validity? validity
      let subject ← DistinguishedName.ofElement? subject
      if Der.isInteger serial && isAlgorithm algorithm
          && isPublicKey key && isTail tail then
        some (version, subject, first, last)
      else
        none
  | _ => none

/- The certificate of an encoding, and its version. -/
def parse? (bytes : Bytes) : Option (Nat × Certificate) := do
  match ← Der.sequence? bytes with
  | [signed, algorithm, signature] =>
      let (version, subject, first, last) ← signedPart? signed
      if isAlgorithm algorithm && Der.isBitString signature then
        some (version, ⟨bytes, subject, first, last⟩)
      else
        none
  | _ => none

/- The versions of certificates that are read, the first and the third. -/
def versions : List Nat :=
  [0, 2]

/- The certificate of an encoding, which must be of one of the versions. -/
def ofDer (bytes : Bytes) : Except Fault Certificate :=
  match parse? bytes with
  | none => .error .malformed
  | some (version, certificate) =>
      if versions.contains version then
        .ok certificate
      else
        .error (.version version)

/- The labels of certificates. -/
def labels : List String :=
  ["CERTIFICATE", "X509 CERTIFICATE"]

/- The first certificate of a PEM text. -/
def ofPem (bytes : Bytes) : Except Fault Certificate :=
  match Pem.readArmor? bytes with
  | none => .error .malformed
  | some blocks =>
      match blocks.find? fun a => labels.contains a.label with
      | none => .error .malformed
      | some a => ofDer a.contents

/- The thumbprint: the SHA-1 digest of the encoding. -/
def thumbprint (c : Certificate) : String :=
  Bytes.upperHex (Hash.sha1 c.encoding)

end Certificate

end KeyAssertion
