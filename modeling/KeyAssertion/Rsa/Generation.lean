import KeyAssertion.Hash.Sha256
import KeyAssertion.Rsa.Numbers

/-
  This file defines the making of RSA keys from a seed.  The
  same seed gives the same key.

  Key definitions include:
    * `Rsa.Entropy`
    * `Rsa.randomPrime?`
    * `Rsa.generate?`
-/

namespace KeyAssertion

namespace Rsa

/- A source of random bytes: a seed and a count of blocks drawn. -/
structure Entropy where
  seed : Bytes
  drawn : Nat := 0
deriving Repr

namespace Entropy

/- Draw blocks of 32 bytes, put before the bytes already there. -/
def blocks
    (count : Nat)
    (s : Entropy)
    (bytes : Bytes) : Bytes × Entropy :=
  match count with
  | 0 => (bytes, s)
  | count + 1 =>
      let block := Hash.sha256 (s.seed ++ Bytes.ofNatWidth 8 s.drawn)
      blocks count { s with drawn := s.drawn + 1 } (block ++ bytes)

/- A number of so many bits, the two highest and the lowest set. -/
def oddNumber
    (bits : Nat)
    (s : Entropy) : Nat × Entropy :=
  let (bytes, s) := blocks (bits / 256 + 1) s []
  let low := Bytes.toNat bytes % Nat.pow 2 (bits - 2)
  (3 * Nat.pow 2 (bits - 2) + low / 2 * 2 + 1, s)

end Entropy

/- The public exponent of every key that is made. -/
def generatedExponent : Nat := 65537

/- Odd numbers below 2000 that no smaller one divides. -/
def smallPrimes : List Nat :=
  (List.range' 3 998 2).filter fun n =>
    (List.range' 3 21 2).all fun k => n == k || n % k != 0

/- Whether a number can be a factor of a key. -/
def isUsablePrime (n : Nat) : Bool :=
  smallPrimes.all (fun p => n % p != 0)
    && Nat.gcd (n - 1) generatedExponent == 1
    && isProbablePrime n

/- The first usable prime at or after an odd number. -/
def primeFrom?
    (fuel : Nat)
    (n : Nat) : Option Nat :=
  match fuel with
  | 0 => none
  | fuel + 1 =>
      if isUsablePrime n then some n else primeFrom? fuel (n + 2)

/- A random prime of so many bits. -/
def randomPrime?
    (bits : Nat)
    (s : Entropy) : Option (Nat × Entropy) := do
  let (start, s) := s.oddNumber bits
  let p ← primeFrom? 100000 start
  return (p, s)

/- The numbers of the key with two given factors. -/
def Numbers.ofFactors
    (e p q : Nat) : Numbers :=
  let d := inverseMod e (Nat.lcm (p - 1) (q - 1))
  { n := p * q
    e := e
    d := d
    p := p
    q := q
    dp := d % (p - 1)
    dq := d % (q - 1)
    qi := inverseMod q p }

/- A key with a modulus of so many bits. -/
def generate?
    (bits : Nat)
    (s : Entropy) : Option PrivateKey := do
  let (p, s) ← randomPrime? (bits - bits / 2) s
  let (q, _) ← randomPrime? (bits / 2) s
  match (Numbers.ofFactors generatedExponent p q).check with
  | .ok key => some key
  | .error _ => none

end Rsa

end KeyAssertion
