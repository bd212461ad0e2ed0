import KeyAssertion.Rsa.Signature

/-
  This file defines the signature algorithms of tokens.

  Key definitions include:
    * `SigningAlgorithm`
    * `SigningAlgorithm.name`
    * `SigningAlgorithm.ofName?`
-/

namespace KeyAssertion

/- A padding together with a hash function. -/
structure SigningAlgorithm where
  padding : Rsa.Padding
  digest : Rsa.Digest
deriving DecidableEq, Repr

namespace SigningAlgorithm

/- The name of an algorithm. -/
def name (a : SigningAlgorithm) : String :=
  let family :=
    match a.padding with
    | .pkcs1 => "RS"
    | .pss => "PS"
  let size :=
    match a.digest with
    | .sha256 => "256"
    | .sha384 => "384"
    | .sha512 => "512"
  family ++ size

/- The algorithms that are supported. -/
def all : List SigningAlgorithm :=
  [⟨.pkcs1, .sha256⟩, ⟨.pkcs1, .sha384⟩, ⟨.pkcs1, .sha512⟩,
    ⟨.pss, .sha256⟩, ⟨.pss, .sha384⟩, ⟨.pss, .sha512⟩]

/- The algorithm of a name. -/
def ofName? (name : String) : Option SigningAlgorithm :=
  all.find? fun a => a.name == name

/- The name that stands for a key without an algorithm. -/
def defaultName : String := "RS256"

end SigningAlgorithm

end KeyAssertion
