import KeyAssertion.Record.Fault
import KeyAssertion.Text.Blank

/-
  This file defines how the numbers of settings are read from
  texts and from JSON values.

  Key definitions include:
    * `Settings.wholeText?`
    * `Settings.whole`
    * `Settings.realText?`
    * `Settings.real`
-/

namespace KeyAssertion

namespace Settings

/- Whether a character may surround a number. -/
def isPadding (c : Char) : Bool :=
  Text.isBlank c && !(0x1c ≤ c.toNat && c.toNat ≤ 0x1f)

/- Characters without the padding at their ends. -/
def unpadded (s : String) : List Char :=
  Text.trimList isPadding s.toList

------------------------------------------------------------
-- Whole Numbers
------------------------------------------------------------

/-
  The digits of a whole number in which single underscores may
  stand between digits.
-/
def groupedDigits? : List Char → Option (List Char)
  | [] => none
  | [c] => if Text.isDigit c then some [c] else none
  | c :: '_' :: rest => do
      if Text.isDigit c then some (c :: (← groupedDigits? rest)) else none
  | c :: rest => do
      if Text.isDigit c then some (c :: (← groupedDigits? rest)) else none

/- The characters before a fraction of zeros. -/
def withoutZeroFraction (cs : List Char) : List Char :=
  let zeros := cs.reverse.takeWhile (· == '0')
  match cs.reverse.drop zeros.length with
  | '.' :: before => if zeros.isEmpty then cs else before.reverse
  | _ => cs

/- The sign and the rest of a number's characters. -/
def splitSign (cs : List Char) : Bool × List Char :=
  match cs with
  | '-' :: rest => (true, rest)
  | '+' :: rest => (false, rest)
  | _ => (false, cs)

/-
  The whole number of a text: a sign, digits with single
  underscores between them, and a fraction of zeros.
-/
def wholeText? (s : String) : Option Int := do
  let (negative, cs) := splitSign (unpadded s)
  let digits ← groupedDigits? (withoutZeroFraction cs)
  let n : Int := Text.digitsValue digits
  return if negative then -n else n

/- The most digits that a whole number may have in a text. -/
def longestWhole : Nat := 4300

/- The whole number that a value stands for. -/
def whole : Json → Except FieldProblem Int
  | .integer n => .ok n
  | .bool b => .ok (if b then 1 else 0)
  | .real x =>
      match x.truncate with
      | none => .error .finiteNumber
      | some _ =>
          match x.toInt? with
          | none => .error .intFromFloat
          | some n =>
              if n.natAbs < Nat.pow 2 63 then
                .ok n
              else
                .error .intParsingSize
  | .string s =>
      match wholeText? s.toText with
      | none => .error .intParsing
      | some n =>
          if n.natAbs < Nat.pow 10 longestWhole then
            .ok n
          else
            .error .intParsingSize
  | _ => .error .intType

/- A whole number that is not negative. -/
def natural (v : Json) : Except FieldProblem Int := do
  let n ← whole v
  if n < 0 then throw .greaterThanEqual
  return n

------------------------------------------------------------
-- Real Numbers
------------------------------------------------------------

/-
  The digits of a real number, before and after a point, and
  what follows them.
-/
def mantissa? (cs : List Char) : Option (List Char × Nat × List Char) :=
  let (wholePart, rest) := cs.span Text.isDigit
  let (fraction, rest) :=
    match rest with
    | '.' :: more => more.span Text.isDigit
    | _ => ([], rest)
  if wholePart.isEmpty && fraction.isEmpty then
    none
  else
    some (wholePart ++ fraction, fraction.length, rest)

/- The exponent that ends a real number. -/
def exponent? : List Char → Option Int
  | [] => some 0
  | e :: rest =>
      if e = 'e' ∨ e = 'E' then
        let (negative, ds) := splitSign rest
        if ds.isEmpty || !ds.all Text.isDigit then
          none
        else
          let n : Int := Text.digitsValue ds
          some (if negative then -n else n)
      else
        none

/- The words for numbers that are not finite, in any case. -/
def realWord?
    (negative : Bool)
    (cs : List Char) : Option Binary64 :=
  match String.ofList (cs.map Char.toLower) with
  | "inf" => some (.infinite negative)
  | "infinity" => some (.infinite negative)
  | "nan" => some .nan
  | _ => none

/- The real number of characters without padding. -/
def realList? (cs : List Char) : Option Binary64 :=
  let (negative, rest) := splitSign cs
  match realWord? negative rest with
  | some x => some x
  | none => do
      let (digits, places, rest) ← mantissa? rest
      let e ← exponent? rest
      return Binary64.ofDecimal negative (Text.digitsValue digits)
        (e - places)

/-
  Characters without their underscores, none when these are at
  an end or two in a row.
-/
def withoutUnderscores? (cs : List Char) : Option (List Char) :=
  let doubled := (cs.zip (cs.drop 1)).any fun p =>
    p.1 == '_' && p.2 == '_'
  if cs.head? = some '_' ∨ cs.getLast? = some '_' ∨ doubled then
    none
  else
    some (cs.filter (· != '_'))

/- The real number of a text. -/
def realText? (s : String) : Option Binary64 := do
  realList? (← withoutUnderscores? (unpadded s))

/- The real number that a value stands for. -/
def real : Json → Except FieldProblem Binary64
  | .integer n => .ok (Binary64.ofQuotient n 1)
  | .bool b => .ok (Binary64.ofQuotient (if b then 1 else 0) 1)
  | .real x => .ok x
  | .string s =>
      match realText? s.toText with
      | some x => .ok x
      | none => .error .floatParsing
  | _ => .error .floatType

/- A real number greater than zero. -/
def positive (v : Json) : Except FieldProblem Binary64 := do
  let x ← real v
  if !x.isPositive then throw .greaterThan
  return x

end Settings

end KeyAssertion
