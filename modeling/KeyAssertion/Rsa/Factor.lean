import KeyAssertion.Rsa.Prime

/-
  This file defines the recovery of the two factors of a
  modulus from its exponents.  A square root of one other than
  one and minus one shares a factor with the modulus.

  Key definitions include:
    * `Rsa.FactorFault`
    * `Rsa.recoverFactors`
-/

namespace KeyAssertion

namespace Rsa

/- Why the factors cannot be recovered. -/
inductive FactorFault
  | smallExponent
  | zeroModulus
  | exponentsMismatch
  | notFound
deriving DecidableEq, Repr

/- The wording of a fault. -/
def FactorFault.message : FactorFault → String
  | .smallExponent => "d, e can't be <= 1"
  | .zeroModulus => "pow() 3rd argument cannot be 0"
  | .exponentsMismatch => "n, d, e don't match"
  | .notFound =>
      "Unable to compute factors p and q from exponent d."

/-
  Square `x` up to `count` times, the first time only looked
  at, until it is a root of one other than one and minus one.
-/
def rootOfOne?
    (n : Nat)
    (count : Nat)
    (x : Nat) : Option Nat :=
  match count with
  | 0 => none
  | count + 1 =>
      let y := x * x % n
      if x ≠ 1 ∧ x ≠ n - 1 ∧ y = 1 then
        some x
      else
        rootOfOne? n count y

/- The first root that one of the bases leads to. -/
def searchRoot?
    (n odd count : Nat) :
    List Nat → Option Nat
  | [] => none
  | base :: rest =>
      match rootOfOne? n count (powMod base odd n) with
      | some x => some x
      | none => searchRoot? n odd count rest

/- The bases tried. -/
def factorBases : List Nat :=
  List.range' 2 500

/- The factors of the modulus, the greater first. -/
def recoverFactors (n e d : Nat) : Except FactorFault (Nat × Nat) :=
  if d ≤ 1 ∨ e ≤ 1 then
    .error .smallExponent
  else if n = 0 then
    .error .zeroModulus
  else if powMod 17 (e * d) n ≠ 17 then
    .error .exponentsMismatch
  else
    let total := d * e - 1
    let count := twoPower (total.log2 + 1) total
    match searchRoot? n (total / Nat.pow 2 count) count factorBases with
    | none => .error .notFound
    | some x =>
        let p := Nat.gcd (x + 1) n
        let q := n / p
        .ok (max p q, min p q)

end Rsa

end KeyAssertion
