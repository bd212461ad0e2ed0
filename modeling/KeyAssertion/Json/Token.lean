import KeyAssertion.Json.Value

/-
  This file defines the tokens of a JSON text and how the next
  one is read off a list of characters.

  Key definitions include:
    * `Json.Fault`
    * `Json.ReadError`
    * `Json.Token`
    * `Json.scanString`
    * `Json.scanNumber`
    * `Json.nextToken`
-/

namespace KeyAssertion

namespace Json

------------------------------------------------------------
-- Errors
------------------------------------------------------------

/- What is wrong with a text that is not JSON. -/
inductive Fault
  | expectedValue
  | expectedName
  | expectedColon
  | expectedComma
  | unterminatedString
  | controlCharacter
  | badEscape
  | badUnicodeEscape
  | extraData
  | byteOrderMark
deriving DecidableEq, Repr

/- The wording of a fault. -/
def Fault.message : Fault → String
  | .expectedValue => "Expecting value"
  | .expectedName =>
      "Expecting property name enclosed in double quotes"
  | .expectedColon => "Expecting ':' delimiter"
  | .expectedComma => "Expecting ',' delimiter"
  | .unterminatedString => "Unterminated string starting at"
  | .controlCharacter => "Invalid control character at"
  | .badEscape => "Invalid \\escape"
  | .badUnicodeEscape => "Invalid \\uXXXX escape"
  | .extraData => "Extra data"
  | .byteOrderMark =>
      "Unexpected UTF-8 BOM (decode using utf-8-sig)"

/-
  Why a text cannot be read: it is not JSON, or it is JSON
  beyond the limits on whole numbers and on nesting.
-/
inductive ReadError
  | malformed (fault : Fault)
  | longInteger (digits : Nat)
  | tooDeep
deriving DecidableEq, Repr

/- The most digits that a whole number may have. -/
def maxIntegerDigits : Nat := 4300

/- The wording of the limit on whole numbers. -/
def longIntegerMessage (digits : Nat) : String :=
  "Exceeds the limit (" ++ toString maxIntegerDigits
    ++ " digits) for integer string conversion: value has "
    ++ toString digits
    ++ " digits; use sys.set_int_max_str_digits() to increase the limit"

------------------------------------------------------------
-- Tokens
------------------------------------------------------------

/- A token; `faulty` begins like a string or number and fails. -/
inductive Token
  | openBrace
  | closeBrace
  | openBracket
  | closeBracket
  | colon
  | comma
  | scalar (v : Json)
  | string (s : JsonString)
  | faultyString (fault : Fault)
  | faultyNumber (digits : Nat)
  | unknown
deriving Repr

/- Whether a character may stand between tokens. -/
def isSpace (c : Char) : Bool :=
  c == ' ' || c == '\t' || c == '\n' || c == '\r'

------------------------------------------------------------
-- Strings
------------------------------------------------------------

/- The value of four hexadecimal digits. -/
def hexFour? (a b c d : Char) : Option Nat := do
  let a ← Text.hexValue? a
  let b ← Text.hexValue? b
  let c ← Text.hexValue? c
  let d ← Text.hexValue? d
  return ((a * 16 + b) * 16 + c) * 16 + d

/- The character that an escape other than `\u` stands for. -/
def simpleEscape? (c : Char) : Option Nat :=
  if c = '"' then some 0x22
  else if c = '\\' then some 0x5c
  else if c = '/' then some 0x2f
  else if c = 'b' then some 0x08
  else if c = 'f' then some 0x0c
  else if c = 'n' then some 0x0a
  else if c = 'r' then some 0x0d
  else if c = 't' then some 0x09
  else none

/- What the characters after a backslash stand for. -/
inductive Escape
  | point (c : Nat) (length : Nat)
  | fault (f : Fault)
deriving DecidableEq, Repr

/-
  Read a `\u` escape from the characters after the `u`.  Four
  digits must be there and be followed by a character.  An
  escaped high surrogate with an escaped low one right after
  it is one code point.
-/
def unicodeEscape : List Char → Escape
  | a :: b :: c :: d :: e :: rest =>
      match hexFour? a b c d with
      | none => .fault .badUnicodeEscape
      | some high =>
          if JsonString.isHighSurrogate high then
            match e :: rest with
            | '\\' :: 'u' :: p :: q :: r :: s :: _ :: _ =>
                match hexFour? p q r s with
                | none => .fault .badUnicodeEscape
                | some low =>
                    if JsonString.isLowSurrogate low then
                      .point (JsonString.joinSurrogates high low) 10
                    else
                      .point high 4
            | _ => .point high 4
          else
            .point high 4
  | _ => .fault .badUnicodeEscape

/-
  Read the rest of a string.  `skip` characters still belong
  to an escape already taken; `done` holds the code points so
  far in reverse.
-/
def scanString
    (skip : Nat)
    (done : List Nat) :
    List Char → Except Fault (JsonString × List Char)
  | [] => .error .unterminatedString
  | c :: rest =>
      match skip with
      | skip + 1 => scanString skip done rest
      | 0 =>
          if c = '"' then
            .ok (JsonString.ofPoints done.reverse, rest)
          else if c = '\\' then
            match rest with
            | [] => .error .unterminatedString
            | 'u' :: more =>
                match unicodeEscape more with
                | .point p length => scanString (length + 1) (p :: done) rest
                | .fault f => .error f
            | x :: _ =>
                match simpleEscape? x with
                | some p => scanString 1 (p :: done) rest
                | none => .error .badEscape
          else if c.toNat ≤ 0x1f then
            .error .controlCharacter
          else
            scanString 0 (c.toNat :: done) rest

------------------------------------------------------------
-- Numbers
------------------------------------------------------------

/- The digits after a point, if there are any. -/
def scanFraction (cs : List Char) : List Char × List Char :=
  match cs with
  | '.' :: rest =>
      match rest.span Text.isDigit with
      | ([], _) => ([], cs)
      | (ds, more) => (ds, more)
  | _ => ([], cs)

/- The digits of an exponent, the sign taken as `negative`. -/
def scanExponentDigits
    (negative : Bool)
    (rest : List Char) : Option (Int × List Char) :=
  match rest.span Text.isDigit with
  | ([], _) => none
  | (ds, more) =>
      let n : Int := Text.digitsValue ds
      some (if negative then -n else n, more)

/- The exponent, if there is one. -/
def scanExponent (cs : List Char) : Option (Int × List Char) :=
  match cs with
  | e :: rest =>
      if e = 'e' ∨ e = 'E' then
        match rest with
        | '-' :: more => scanExponentDigits true more
        | '+' :: more => scanExponentDigits false more
        | _ => scanExponentDigits false rest
      else
        none
  | [] => none

/- The digits before the point: a zero, or digits after another. -/
def scanWhole (cs : List Char) : Option (List Char × List Char) :=
  match cs with
  | '0' :: rest => some (['0'], rest)
  | _ =>
      match cs.span Text.isDigit with
      | ([], _) => none
      | (ds, rest) => some (ds, rest)

/-
  Read a number.  With a fraction or an exponent it is a
  floating-point number, and a whole number otherwise.
-/
def scanNumber
    (negative : Bool)
    (cs : List Char) : Option (Token × List Char) :=
  match scanWhole cs with
  | none => none
  | some (whole, rest) =>
      let (fraction, rest) := scanFraction rest
      let real (e : Int) : Json :=
        .real (Binary64.ofDecimal negative
          (Text.digitsValue (whole ++ fraction))
          (e - fraction.length))
      match scanExponent rest with
      | some (e, rest) => some (.scalar (real e), rest)
      | none =>
          if !fraction.isEmpty then
            some (.scalar (real 0), rest)
          else if maxIntegerDigits < whole.length then
            some (.faultyNumber whole.length, rest)
          else
            let n : Int := Text.digitsValue whole
            some (.scalar (.integer (if negative then -n else n)), rest)

------------------------------------------------------------
-- The Next Token
------------------------------------------------------------

/- The words that stand for values. -/
def words : List (List Char × Json) :=
  [("null".toList, .null),
    ("true".toList, .bool true),
    ("false".toList, .bool false),
    ("NaN".toList, .real .nan),
    ("Infinity".toList, .real (.infinite false)),
    ("-Infinity".toList, .real (.infinite true))]

/- Read one of the words. -/
def scanWord (cs : List Char) : Option (Token × List Char) :=
  match words.find? fun w => w.1.isPrefixOf cs with
  | some (w, v) => some (.scalar v, cs.drop w.length)
  | none => none

/- Read a word or a number. -/
def scanScalar (cs : List Char) : Token × List Char :=
  match scanWord cs with
  | some r => r
  | none =>
      let number :=
        match cs with
        | '-' :: rest => scanNumber true rest
        | _ => scanNumber false cs
      match number with
      | some r => r
      | none => (.unknown, cs.drop 1)

/- The first token of a text that does not begin with a space. -/
def tokenAt (cs : List Char) : Option (Token × List Char) :=
  match cs with
  | [] => none
  | '{' :: rest => some (.openBrace, rest)
  | '}' :: rest => some (.closeBrace, rest)
  | '[' :: rest => some (.openBracket, rest)
  | ']' :: rest => some (.closeBracket, rest)
  | ':' :: rest => some (.colon, rest)
  | ',' :: rest => some (.comma, rest)
  | '"' :: rest =>
      match scanString 0 [] rest with
      | .ok (s, rest) => some (.string s, rest)
      | .error f => some (.faultyString f, [])
  | _ => some (scanScalar cs)

/- The first token of a text, none when only spaces are left. -/
def nextToken (cs : List Char) : Option (Token × List Char) :=
  tokenAt (cs.dropWhile isSpace)

end Json

end KeyAssertion
