import KeyAssertion.Text.Blank
import KeyAssertion.Text.DecimalDigit

/-
  This file defines how the number of a port is read: a sign
  and decimal digits of any script, with single underscores
  between digits and blanks around.

  Key definitions include:
    * `Port.ofText?`
    * `Port.standard?`
-/

namespace KeyAssertion

namespace Port

/-
  The values of digits, between which single underscores may
  stand.
-/
def digits? : List Char → Option (List Nat)
  | [] => none
  | [c] => do some [← Text.digitValue? c]
  | c :: '_' :: rest => do
      some ((← Text.digitValue? c) :: (← digits? rest))
  | c :: rest => do
      some ((← Text.digitValue? c) :: (← digits? rest))

/- The most digits that a number may have. -/
def mostDigits : Nat := 4300

/- The number of digits. -/
def ofDigits? (cs : List Char) : Option Nat := do
  let ds ← digits? cs
  if mostDigits < ds.length then
    none
  else
    some (ds.foldl (fun n d => n * 10 + d) 0)

/- The number of a port, which no range limits. -/
def ofText? (s : String) : Option Int := do
  match Text.trimList Text.isBlank s.toList with
  | '-' :: rest => return -((← ofDigits? rest : Nat) : Int)
  | '+' :: rest => return ((← ofDigits? rest : Nat) : Int)
  | cs => return ((← ofDigits? cs : Nat) : Int)

/- The port that a scheme uses when none is given. -/
def standard? (scheme : String) : Option Int :=
  [("ftp", 21), ("http", 80), ("https", 443), ("ws", 80),
    ("wss", 443)].lookup scheme

end Port

end KeyAssertion
