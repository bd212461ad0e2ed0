/-
  This file defines the 64-bit binary floating-point numbers
  by sign, whole mantissa and exponent, and the rounding of a
  fraction to the nearest of them, a tie going to the even
  mantissa.  All arithmetic is on whole numbers.

  Key definitions include:
    * `Binary64`
    * `roundHalfEven`
    * `Binary64.ofFraction`
    * `Binary64.ofDecimal`
    * `Binary64.truncate`
    * `Binary64.isPositive`
-/

namespace KeyAssertion

/-
  A binary floating-point number.  The finite number of
  mantissa `m` and exponent `e` has magnitude `m * 2 ^ e`.
-/
inductive Binary64
  | finite (negative : Bool) (mantissa : Nat) (exponent : Int)
  | infinite (negative : Bool)
  | nan
deriving DecidableEq, Repr, Inhabited

/-
  The whole number nearest to a fraction, the even one of two
  equally near.
-/
def roundHalfEven (num den : Nat) : Nat :=
  let q := num / den
  let r := num % den
  if 2 * r < den then
    q
  else if 2 * r > den then
    q + 1
  else if q % 2 = 0 then
    q
  else
    q + 1

namespace Binary64

/- The least exponent, that of the subnormal numbers. -/
def minExponent : Int := -1074

/- The greatest exponent of a finite number. -/
def maxExponent : Int := 971

/- Zero. -/
def zero (negative : Bool) : Binary64 :=
  .finite negative 0 minExponent

/- The fraction `num / den` divided by `2 ^ e`. -/
def scaled
    (num den : Nat)
    (e : Int) : Nat × Nat :=
  match e with
  | .ofNat k => (num, den * Nat.pow 2 k)
  | .negSucc k => (num * Nat.pow 2 (k + 1), den)

/-
  The exponent at which the fraction has a mantissa of 53
  bits, or the least exponent if that is greater.
-/
def exponentFor (num den : Nat) : Int :=
  let guess : Int := (num.log2 : Int) - den.log2 - 52
  let (n, d) := scaled num den guess
  let e := if n < d * Nat.pow 2 52 then guess - 1 else guess
  max e minExponent

/- The number with a rounded mantissa, which may be `2 ^ 53`. -/
def normalize
    (negative : Bool)
    (mantissa : Nat)
    (e : Int) : Binary64 :=
  let (m, e) :=
    if mantissa = Nat.pow 2 53 then
      (Nat.pow 2 52, e + 1)
    else
      (mantissa, e)
  if e > maxExponent then
    .infinite negative
  else
    .finite negative m e

/- The number nearest to a fraction with a positive denominator. -/
def ofFraction
    (negative : Bool)
    (num den : Nat) : Binary64 :=
  if num = 0 then
    zero negative
  else
    let e := exponentFor num den
    let (n, d) := scaled num den e
    normalize negative (roundHalfEven n d) e

/-
  The number nearest to `digits * 10 ^ e`.  Magnitudes from
  `10 ^ 310` on are infinite and those below `10 ^ -330` are
  zero, so no power beyond these is computed.
-/
def ofDecimal
    (negative : Bool)
    (digits : Nat)
    (e : Int) : Binary64 :=
  let places : Int := (digits.log2 * 30103 / 100000 : Nat)
  if digits = 0 then
    zero negative
  else if places + e > 310 then
    .infinite negative
  else if places + e < -330 then
    zero negative
  else
    match e with
    | .ofNat k => ofFraction negative (digits * Nat.pow 10 k) 1
    | .negSucc k => ofFraction negative digits (Nat.pow 10 (k + 1))

/- The number nearest to a quotient of whole numbers. -/
def ofQuotient
    (num : Int)
    (den : Nat) : Binary64 :=
  ofFraction (num < 0) num.natAbs den

/- The magnitude of a finite number as a fraction. -/
def fraction
    (mantissa : Nat)
    (e : Int) : Nat × Nat :=
  match e with
  | .ofNat k => (mantissa * Nat.pow 2 k, 1)
  | .negSucc k => (mantissa, Nat.pow 2 (k + 1))

/- The whole part of a finite number, toward zero. -/
def truncate : Binary64 → Option Int
  | .finite negative m e =>
      let (n, d) := fraction m e
      some (if negative then -((n / d : Nat) : Int) else (n / d : Nat))
  | .infinite _ => none
  | .nan => none

/- The whole number that a finite number is equal to. -/
def toInt? : Binary64 → Option Int
  | .finite negative m e =>
      let (n, d) := fraction m e
      if n % d = 0 then
        some (if negative then -((n / d : Nat) : Int) else (n / d : Nat))
      else
        none
  | .infinite _ => none
  | .nan => none

/- Whether a number is greater than zero. -/
def isPositive : Binary64 → Bool
  | .finite negative m _ => !negative && m != 0
  | .infinite negative => !negative
  | .nan => false

/- Whether a number is zero of either sign. -/
def isZero : Binary64 → Bool
  | .finite _ m _ => m == 0
  | .infinite _ => false
  | .nan => false

end Binary64

end KeyAssertion
