/-
  This file defines powers and inverses modulo a number.

  Key definitions include:
    * `Rsa.powMod`
    * `Rsa.inverseMod`
-/

namespace KeyAssertion

namespace Rsa

/- Square and multiply over the bits of the exponent, lowest first. -/
def powModFrom
    (fuel : Nat)
    (base exponent modulus acc : Nat) : Nat :=
  match fuel with
  | 0 => acc
  | fuel + 1 =>
      if exponent = 0 then
        acc
      else
        powModFrom fuel (base * base % modulus) (exponent / 2) modulus
          (if exponent % 2 = 1 then acc * base % modulus else acc)

/- A power modulo a number, by as many squarings as it has bits. -/
def powMod (base exponent modulus : Nat) : Nat :=
  powModFrom (exponent.log2 + 1) (base % modulus) exponent modulus
    (1 % modulus)

/-
  The steps of Euclid's algorithm on `a` and `b`, with the
  coefficients of the first number kept beside both.
-/
def euclid
    (fuel : Nat)
    (a b : Nat)
    (x y : Int) : Int :=
  match fuel with
  | 0 => x
  | fuel + 1 =>
      if b = 0 then
        x
      else
        euclid fuel b (a % b) y (x - ((a / b : Nat) : Int) * y)

/-
  The number below `m` whose product with `a` is one modulo
  `m`, if `a` and `m` have no common factor.  Two steps halve
  the second number, so the fuel suffices.
-/
def inverseMod (a m : Nat) : Nat :=
  (euclid (2 * m.log2 + 4) a m 1 0 % (m : Int)).toNat

end Rsa

end KeyAssertion
