/-
  This file defines digits of a base and the texts of numbers
  in base ten and sixteen.

  Key definitions include:
    * `Text.hexValue?`
    * `Text.hexDigits`
    * `Text.decimal`
    * `Text.padLeft`
-/

namespace KeyAssertion

namespace Text

/- The digit of a value below sixteen, in lower case. -/
def lowerHexDigit (n : Nat) : Char :=
  if n < 10 then
    Char.ofNat (48 + n)
  else
    Char.ofNat (87 + n)

/- The digit of a value below sixteen, in upper case. -/
def upperHexDigit (n : Nat) : Char :=
  if n < 10 then
    Char.ofNat (48 + n)
  else
    Char.ofNat (55 + n)

/- The value of a hexadecimal digit of either case. -/
def hexValue? (c : Char) : Option Nat :=
  let n := c.toNat
  if 48 ≤ n ∧ n ≤ 57 then
    some (n - 48)
  else if 97 ≤ n ∧ n ≤ 102 then
    some (n - 87)
  else if 65 ≤ n ∧ n ≤ 70 then
    some (n - 55)
  else
    none

/- Whether a character is an ASCII decimal digit. -/
def isDigit (c : Char) : Bool :=
  48 ≤ c.toNat && c.toNat ≤ 57

/- The value of a list of ASCII decimal digits. -/
def digitsValue (cs : List Char) : Nat :=
  cs.foldl (fun acc c => acc * 10 + (c.toNat - 48)) 0

/- The last `width` hexadecimal digits of a number, in lower case. -/
def hexDigits (width n : Nat) : List Char :=
  match width with
  | 0 => []
  | w + 1 => lowerHexDigit (n / Nat.pow 16 w % 16) :: hexDigits w n

/- A number in base ten. -/
def decimal (n : Nat) : String :=
  String.ofList (Nat.toDigits 10 n)

/- An integer in base ten. -/
def signedDecimal (n : Int) : String :=
  if n < 0 then
    "-" ++ decimal n.natAbs
  else
    decimal n.toNat

/- A text with `fill` put before it up to a width. -/
def padLeft
    (fill : Char)
    (width : Nat)
    (s : String) : String :=
  String.ofList (List.replicate (width - s.length) fill) ++ s

end Text

end KeyAssertion
