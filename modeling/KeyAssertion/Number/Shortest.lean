import KeyAssertion.Number.Binary64
import KeyAssertion.Text.Digits

/-
  This file defines the text of a floating-point number: the
  fewest decimal digits that read back as the number, the
  nearest to it of those.

  Key definitions include:
    * `Binary64.shortest`
    * `Binary64.toText`
-/

namespace KeyAssertion

namespace Binary64

/-
  The least `t` from `start` on, within `fuel` steps, with
  `num / den < 10 ^ t`.
-/
def pointFrom
    (num den : Nat)
    (fuel : Nat)
    (start : Int) : Int :=
  match fuel with
  | 0 => start
  | fuel + 1 =>
      let below : Bool :=
        match start with
        | .ofNat k => num < den * Nat.pow 10 k
        | .negSucc k => num * Nat.pow 10 (k + 1) < den
      if below then start else pointFrom num den fuel (start + 1)

/-
  The place of the decimal point: the least `t` with
  `num / den < 10 ^ t`.
-/
def decimalPoint (num den : Nat) : Int :=
  let bits : Int := (num.log2 : Int) - den.log2
  pointFrom num den 6 (Int.fdiv (bits * 30103) 100000 - 2)

/- The fraction `num / den` divided by `10 ^ e`. -/
def scaledTen
    (num den : Nat)
    (e : Int) : Nat × Nat :=
  match e with
  | .ofNat k => (num, den * Nat.pow 10 k)
  | .negSucc k => (num * Nat.pow 10 (k + 1), den)

/-
  The decimal with the given count of digits that reads back
  as a number of mantissa `m` and exponent `e`, if there is
  one: the nearer of the two neighbours when both do.
-/
def withDigits?
    (m : Nat)
    (e : Int)
    (count : Nat) : Option (Nat × Int) :=
  let (num, den) := fraction m e
  let unit : Int := decimalPoint num den - count
  let (n, d) := scaledTen num den unit
  let low := n / d
  let near := roundHalfEven n d
  let far := if near = low then low + 1 else low
  let readsBack (c : Nat) : Bool :=
    ofDecimal false c unit == .finite false m e
  if readsBack near then
    some (near, unit)
  else if readsBack far then
    some (far, unit)
  else
    none

/- The shortest decimal from a count of digits on. -/
def shortestFrom
    (m : Nat)
    (e : Int)
    (fuel count : Nat) : Nat × Int :=
  match fuel with
  | 0 => (0, 0)
  | fuel + 1 =>
      match withDigits? m e count with
      | some r => r
      | none => shortestFrom m e fuel (count + 1)

/-
  The fewest digits, and the power of ten of the last of them,
  that read back as the number.  Seventeen always do.
-/
def shortest
    (m : Nat)
    (e : Int) : Nat × Int :=
  shortestFrom m e 17 1

/- The digits of a number without the zeros at the end. -/
def significant (digits : Nat) : List Char :=
  ((Nat.toDigits 10 digits).reverse.dropWhile (· == '0')).reverse

/- An exponent: its sign and at least two digits. -/
def exponentText (e : Int) : String :=
  (if e < 0 then "-" else "+") ++
    Text.padLeft '0' 2 (Text.decimal e.natAbs)

/-
  Digits with the decimal point after the first `point` of
  them.  Points from -3 to 16 are written positionally and
  others with an exponent; a whole number keeps `.0`.
-/
def placed
    (digits : List Char)
    (point : Int) : String :=
  if -4 < point ∧ point ≤ 16 then
    match point with
    | .ofNat 0 => "0." ++ String.ofList digits
    | .ofNat k =>
        let whole := digits.take k
        let rest := digits.drop k
        String.ofList whole
          ++ String.ofList (List.replicate (k - whole.length) '0')
          ++ "."
          ++ (if rest.isEmpty then "0" else String.ofList rest)
    | .negSucc k =>
        "0." ++ String.ofList (List.replicate (k + 1) '0')
          ++ String.ofList digits
  else
    let tail := digits.drop 1
    String.ofList (digits.take 1)
      ++ (if tail.isEmpty then "" else "." ++ String.ofList tail)
      ++ "e" ++ exponentText (point - 1)

/- The text of a number. -/
def toText : Binary64 → String
  | .nan => "nan"
  | .infinite negative => if negative then "-inf" else "inf"
  | .finite negative m e =>
      let sign := if negative then "-" else ""
      if m = 0 then
        sign ++ "0.0"
      else
        let (c, unit) := shortest m e
        let point : Int := unit + (Nat.toDigits 10 c).length
        sign ++ placed (significant c) point

end Binary64

end KeyAssertion
