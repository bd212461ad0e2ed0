import KeyAssertion.Asn1.Der
import KeyAssertion.Rsa.Numbers

/-
  This file defines private keys as files hold them: an RSA
  key, or a key of another kind, of which only the kind is
  kept.  The algorithms that a key may have are an open list;
  what becomes of those that are not described here is left to
  the library that loads the keys.

  Key definitions include:
    * `KeyKind`
    * `LoadedKey`
    * `LoadedKey.LoadFault`
    * `KeyLibrary`
    * `LoadedKey.ofPkcs1?`
    * `LoadedKey.ofSec1?`
    * `LoadedKey.ofDsa?`
    * `LoadedKey.ofPkcs8`
-/

namespace KeyAssertion

/-
  The kinds of keys besides RSA; an elliptic-curve key names its
  curve, and a key of a kind not described here names the kind.
-/
inductive KeyKind
  | ec (curve : List Nat)
  | dsa
  | ed25519
  | x25519
  | ed448
  | x448
  | foreign (name : String)
deriving DecidableEq, Repr

/- A private key. -/
inductive LoadedKey
  | rsa (key : Rsa.PrivateKey)
  | other (kind : KeyKind)

namespace LoadedKey

/- The name of a key's kind. -/
def kindName : LoadedKey → String
  | .rsa _ => "RSAPrivateKey"
  | .other (.ec _) => "ECPrivateKey"
  | .other .dsa => "DSAPrivateKey"
  | .other .ed25519 => "Ed25519PrivateKey"
  | .other .x25519 => "X25519PrivateKey"
  | .other .ed448 => "Ed448PrivateKey"
  | .other .x448 => "X448PrivateKey"
  | .other (.foreign name) => name

/- What a library has no support for, as its own error tells. -/
inductive UnknownAlgorithm
  | curve (oid : List Nat)
  | key (message : String)
deriving DecidableEq, Repr

/- The wording of that error. -/
def UnknownAlgorithm.message : UnknownAlgorithm → String
  | .curve oid => "Curve " ++ Der.dotted oid ++ " is not supported"
  | .key message => message

/- Why a file holds no usable private key. -/
inductive LoadFault
  | encrypted
  | malformed
  | unknownAlgorithm (algorithm : UnknownAlgorithm)
deriving DecidableEq, Repr

------------------------------------------------------------
-- RSA
------------------------------------------------------------

/- The RSA numbers of a PKCS#1 structure of version zero. -/
def pkcs1Numbers? (bytes : Bytes) : Option Rsa.Numbers := do
  let elements ← Der.sequence? bytes
  match ← elements.mapM Der.natural? with
  | [0, n, e, d, p, q, dp, dq, qi] => some ⟨n, e, d, p, q, dp, dq, qi⟩
  | _ => none

/- The RSA key of a PKCS#1 structure. -/
def ofPkcs1? (bytes : Bytes) : Option LoadedKey := do
  let k ← pkcs1Numbers? bytes
  return .rsa (← k.toKey?)

------------------------------------------------------------
-- Elliptic Curves and DSA
------------------------------------------------------------

/- The curves that are known by name. -/
def namedCurves : List (List Nat) :=
  [[1, 2, 840, 10045, 3, 1, 1], [1, 2, 840, 10045, 3, 1, 7],
    [1, 3, 132, 0, 33], [1, 3, 132, 0, 34], [1, 3, 132, 0, 35],
    [1, 3, 132, 0, 10], [1, 3, 132, 0, 1], [1, 3, 132, 0, 15],
    [1, 3, 132, 0, 26], [1, 3, 132, 0, 27], [1, 3, 132, 0, 16],
    [1, 3, 132, 0, 17], [1, 3, 132, 0, 36], [1, 3, 132, 0, 37],
    [1, 3, 132, 0, 38], [1, 3, 132, 0, 39],
    [1, 3, 36, 3, 3, 2, 8, 1, 1, 7],
    [1, 3, 36, 3, 3, 2, 8, 1, 1, 11],
    [1, 3, 36, 3, 3, 2, 8, 1, 1, 13]]

/-
  A key that has been read, or nothing if it could not be, as a
  library hands it out: it must not be on a curve without name.
-/
def checked : Option LoadedKey → Except LoadFault LoadedKey
  | none => .error .malformed
  | some (.other (.ec curve)) =>
      if namedCurves.contains curve then
        .ok (.other (.ec curve))
      else
        .error (.unknownAlgorithm (.curve curve))
  | some key => .ok key

/- The curve and the public key that may follow the private number. -/
def sec1Options? :
    List Der.Element → Option (Option (List Nat))
  | [] => some none
  | [e] => do
      match ← e.inner? e.tag with
      | [x] =>
          if e.tag = Der.context 0 then
            return some (← Der.objectId? x)
          else if e.tag = Der.context 1 ∧ Der.isBitString x then
            return none
          else
            none
      | _ => none
  | [e, f] => do
      match ← e.inner? (Der.context 0), ← f.inner? (Der.context 1) with
      | [x], [y] =>
          if Der.isBitString y then
            return some (← Der.objectId? x)
          else
            none
      | _, _ => none
  | _ => none

/-
  The elliptic-curve key of a SEC 1 structure of version one.
  Its curve is named inside, outside, or alike in both places.
-/
def ofSec1?
    (outer : Option (List Nat))
    (bytes : Bytes) : Option LoadedKey := do
  match ← Der.sequence? bytes with
  | version :: number :: options =>
      let version ← Der.natural? version
      let _ ← number.contentIf? Der.octetString
      let inner ← sec1Options? options
      let curve ← inner.or outer
      if version = 1
          ∧ (inner = none ∨ outer = none ∨ inner = outer) then
        some (.other (.ec curve))
      else
        none
  | _ => none

/- The DSA key of the structure of version zero with five numbers. -/
def ofDsa? (bytes : Bytes) : Option LoadedKey := do
  let elements ← Der.sequence? bytes
  match ← elements.mapM Der.natural? with
  | [0, _, _, _, _, _] => some (.other .dsa)
  | _ => none

end LoadedKey

------------------------------------------------------------
-- Further Algorithms
------------------------------------------------------------

/-
  What becomes of a key of an algorithm that is not described
  here: it is malformed, it is refused by an error of the
  library's own, its data are those of an RSA key, or it is a
  key of some other kind.
-/
inductive ForeignKey
  | malformed
  | unknown (message : String)
  | rsa
  | other (kindName : String)
deriving DecidableEq, Repr

/-
  A library that loads keys: how it takes those of an algorithm
  that is not described here, by the object identifier and the
  parameters of the algorithm and by the data of the key.
-/
class KeyLibrary where
  foreign : List Nat → Option Der.Element → Bytes → ForeignKey

namespace KeyLibrary

/- Whether parameters are those of signatures with salt, or absent. -/
def areSalted : Option Der.Element → Bool
  | none => true
  | some e =>
      match e.inner? Der.sequence with
      | none => false
      | some parts => parts.all fun part =>
          [0, 1, 2, 3].any fun n => part.tag == Der.context n

/- Whether parameters are a sequence of so many numbers at least. -/
def areNumbers
    (count : Nat) : Option Der.Element → Bool
  | none => false
  | some e =>
      match (e.inner? Der.sequence).bind (·.mapM Der.natural?) with
      | none => false
      | some numbers => count ≤ numbers.length

/- Whether the data of a key are one number. -/
def isNumber (bytes : Bytes) : Bool :=
  ((Der.single? bytes).bind Der.natural?).isSome

/-
  The usual library: keys for signatures with salt only are read
  as any other RSA key, those for an agreement of Diffie and
  Hellman are of a kind of their own, and the rest is malformed.
-/
instance usual : KeyLibrary where
  foreign oid parameters bytes :=
    match oid with
    | [1, 2, 840, 113549, 1, 1, 10] =>
        if areSalted parameters then .rsa else .malformed
    | [1, 2, 840, 113549, 1, 3, 1] =>
        if areNumbers 2 parameters && isNumber bytes then
          .other "DHPrivateKey"
        else
          .malformed
    | [1, 2, 840, 10046, 2, 1] =>
        if areNumbers 3 parameters && isNumber bytes then
          .other "DHPrivateKey"
        else
          .malformed
    | _ => .malformed

end KeyLibrary

namespace LoadedKey

variable [KeyLibrary]

------------------------------------------------------------
-- PKCS#8
------------------------------------------------------------

/- Whether parameters are null or absent. -/
def areNull : Option Der.Element → Bool
  | none => true
  | some e => Der.isNull e

/- The key of an octet string of fixed length in another. -/
def ofOctets?
    (kind : KeyKind)
    (length : Nat)
    (parameters : Option Der.Element)
    (bytes : Bytes) : Option LoadedKey := do
  let content ← (← Der.single? bytes).contentIf? Der.octetString
  if parameters.isNone ∧ content.length = length then
    some (.other kind)
  else
    none

/- The key of the data of a PKCS#8 structure by its algorithm. -/
def ofAlgorithm
    (oid : List Nat)
    (parameters : Option Der.Element)
    (bytes : Bytes) : Except LoadFault LoadedKey :=
  match oid with
  | [1, 2, 840, 113549, 1, 1, 1] =>
      checked (if areNull parameters then ofPkcs1? bytes else none)
  | [1, 2, 840, 10045, 2, 1] =>
      checked do
        ofSec1? (some (← Der.objectId? (← parameters))) bytes
  | [1, 2, 840, 10040, 4, 1] =>
      checked do
        let elements ← (← parameters).inner? Der.sequence
        let numbers ← elements.mapM Der.natural?
        let _ ← Der.natural? (← Der.single? bytes)
        if numbers.length = 3 then some (.other .dsa) else none
  | [1, 3, 101, 110] => checked (ofOctets? .x25519 32 parameters bytes)
  | [1, 3, 101, 111] => checked (ofOctets? .x448 56 parameters bytes)
  | [1, 3, 101, 112] => checked (ofOctets? .ed25519 32 parameters bytes)
  | [1, 3, 101, 113] => checked (ofOctets? .ed448 57 parameters bytes)
  | _ =>
      match KeyLibrary.foreign oid parameters bytes with
      | .malformed => .error .malformed
      | .unknown message => .error (.unknownAlgorithm (.key message))
      | .rsa => checked (ofPkcs1? bytes)
      | .other name => .ok (.other (.foreign name))

/- An algorithm identifier: an object identifier and parameters. -/
def algorithm?
    (e : Der.Element) : Option (List Nat × Option Der.Element) := do
  match ← e.inner? Der.sequence with
  | [oid] => return (← Der.objectId? oid, none)
  | [oid, parameters] => return (← Der.objectId? oid, some parameters)
  | _ => none

/- Whether elements are a sorted set of attributes, or nothing. -/
def areAttributes : List Der.Element → Bool
  | [] => true
  | [e] =>
      e.tag == Der.context 0 &&
        match Der.elements? e.content with
        | none => false
        | some attributes => attributes.all fun a =>
            match a.inner? Der.sequence with
            | some [oid, values] =>
                (Der.objectId? oid).isSome && values.tag == Der.set
            | _ => false
  | _ => false

/- The algorithm and the data of a PKCS#8 structure of version zero. -/
def pkcs8Parts?
    (bytes : Bytes) :
    Option ((List Nat × Option Der.Element) × Bytes) := do
  match ← Der.sequence? bytes with
  | version :: algorithm :: data :: attributes =>
      let version ← Der.natural? version
      let algorithm ← algorithm? algorithm
      let data ← data.contentIf? Der.octetString
      if version = 0 ∧ areAttributes attributes then
        some (algorithm, data)
      else
        none
  | _ => none

/- The key of a PKCS#8 structure. -/
def ofPkcs8 (bytes : Bytes) : Except LoadFault LoadedKey :=
  match pkcs8Parts? bytes with
  | none => .error .malformed
  | some ((oid, parameters), data) => ofAlgorithm oid parameters data

/- Whether the bytes are the structure of an encrypted key. -/
def isEncryptedStructure (bytes : Bytes) : Bool :=
  match Der.sequence? bytes with
  | some [algorithm, data] =>
      (algorithm? algorithm).isSome && data.tag == Der.octetString
  | _ => false

end LoadedKey

end KeyAssertion
