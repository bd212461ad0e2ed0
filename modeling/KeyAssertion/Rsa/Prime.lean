import KeyAssertion.Rsa.Power

/-
  This file defines the Miller-Rabin test: a prime always
  passes, a composite number fails for most bases.

  Key definitions include:
    * `Rsa.isProbablePrime`
-/

namespace KeyAssertion

namespace Rsa

/- The bases of the test. -/
def witnessBases : List Nat :=
  [2, 3, 5, 7, 11, 13, 17, 19, 23, 29, 31, 37]

/- The power of two that divides a positive number. -/
def twoPower
    (fuel : Nat)
    (n : Nat) : Nat :=
  match fuel with
  | 0 => 0
  | fuel + 1 =>
      if n % 2 = 0 then twoPower fuel (n / 2) + 1 else 0

/- Whether one of the first `count` squarings of `x` meets `n - 1`. -/
def meetsMinusOne
    (n : Nat)
    (count : Nat)
    (x : Nat) : Bool :=
  match count with
  | 0 => false
  | count + 1 => x == n - 1 || meetsMinusOne n count (x * x % n)

/- Whether an odd number passes for one base. -/
def passesBase
    (n s odd base : Nat) : Bool :=
  let x := powMod base odd n
  x == 1 || meetsMinusOne n s x

/- Whether a number passes the test for all bases. -/
def isProbablePrime (n : Nat) : Bool :=
  if n < 2 then
    false
  else if witnessBases.contains n then
    true
  else if witnessBases.any fun p => n % p == 0 then
    false
  else
    let s := twoPower (n.log2 + 1) (n - 1)
    let odd := (n - 1) / Nat.pow 2 s
    witnessBases.all fun base => passesBase n s odd base

end Rsa

end KeyAssertion
