import KeyAssertion.Encoding.Bytes
import KeyAssertion.Rsa.Prime

/-
  This file defines the numbers of an RSA private key and the
  check that they belong together.  A key is a set of numbers
  that do.

  Key definitions include:
    * `Rsa.Numbers`
    * `Rsa.Fault`
    * `Rsa.Numbers.sizeFault?`
    * `Rsa.Numbers.isSound`
    * `Rsa.PrivateKey`
    * `Rsa.Numbers.toKey?`
    * `Rsa.Numbers.check`
-/

namespace KeyAssertion

namespace Rsa

/-
  The numbers of a private key: modulus, public and private
  exponent, the two factors, the private exponent reduced for
  each of them, and the inverse of the second factor modulo
  the first.
-/
structure Numbers where
  n : Nat
  e : Nat
  d : Nat
  p : Nat
  q : Nat
  dp : Nat
  dq : Nat
  qi : Nat
deriving DecidableEq, Repr, Inhabited

/- Why numbers are no key. -/
inductive Fault
  | smallModulus
  | notBelowModulus (name : String)
  | exponentRange
  | exponentEven
  | reducedEven (name : String)
  | product
  | inconsistent
deriving DecidableEq, Repr

/- The wording of a fault. -/
def Fault.message : Fault → String
  | .smallModulus => "modulus must be >= 3."
  | .notBelowModulus name => name ++ " must be < modulus."
  | .exponentRange => "public_exponent must be >= 3 and < modulus."
  | .exponentEven => "public_exponent must be odd."
  | .reducedEven name => name ++ " must be odd."
  | .product => "p*q must equal modulus."
  | .inconsistent => "Invalid private key"

namespace Numbers

/- The numbers that must be below the modulus, in the order checked. -/
def bounded (k : Numbers) : List (String × Nat) :=
  [("p", k.p), ("q", k.q), ("dmp1", k.dp), ("dmq1", k.dq),
    ("iqmp", k.qi), ("private_exponent", k.d)]

/- The first fault of size, parity or product. -/
def sizeFault? (k : Numbers) : Option Fault :=
  if k.n < 3 then
    some .smallModulus
  else
    match k.bounded.find? fun x => decide (k.n ≤ x.2) with
    | some (name, _) => some (.notBelowModulus name)
    | none =>
        if k.e < 3 ∨ k.n ≤ k.e then
          some .exponentRange
        else if k.e % 2 = 0 then
          some .exponentEven
        else if k.dp % 2 = 0 then
          some (.reducedEven "dmp1")
        else if k.dq % 2 = 0 then
          some (.reducedEven "dmq1")
        else if k.p * k.q ≠ k.n then
          some .product
        else
          none

/-
  Whether the numbers belong together: the modulus is the
  product of two odd primes, the exponents are inverse to each
  other, and the reduced exponents and the inverse are those
  of the factors.
-/
def isSound (k : Numbers) : Bool :=
  k.e % 2 == 1
    && k.e != 1
    && k.p * k.q == k.n
    && k.p % 2 == 1
    && k.q % 2 == 1
    && isProbablePrime k.p
    && isProbablePrime k.q
    && k.d * k.e % Nat.lcm (k.p - 1) (k.q - 1) == 1
    && k.dp == k.d % (k.p - 1)
    && k.dq == k.d % (k.q - 1)
    && decide (k.qi < k.p)
    && k.qi * k.q % k.p == 1

end Numbers

/- Numbers that belong together. -/
structure PrivateKey where
  numbers : Numbers
  sound : numbers.isSound = true

/-
  The key of numbers that come with a file, which are only
  asked to belong together.
-/
def Numbers.toKey? (k : Numbers) : Option PrivateKey :=
  if h : k.isSound = true then some ⟨k, h⟩ else none

/-
  The key of numbers that come one by one, which are also
  asked to be of the right size; else their first fault.
-/
def Numbers.check (k : Numbers) : Except Fault PrivateKey :=
  match k.sizeFault? with
  | some f => .error f
  | none =>
      match k.toKey? with
      | some key => .ok key
      | none => .error .inconsistent

/- The size of a key in bits. -/
def PrivateKey.bits (key : PrivateKey) : Nat :=
  Bytes.bitLength key.numbers.n

end Rsa

end KeyAssertion
