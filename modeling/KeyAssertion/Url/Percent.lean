import KeyAssertion.Encoding.Bytes
import KeyAssertion.Text.Digits

/-
  This file defines percent-encoding: characters outside a safe
  set are written as their bytes, and what is encoded already
  is left as it is.

  Key definitions include:
    * `Percent.encode`
-/

namespace KeyAssertion

namespace Percent

/- Whether a character is visible ASCII or a space. -/
def isPrintableAscii (c : Char) : Bool :=
  0x20 ≤ c.toNat && c.toNat ≤ 0x7e

/- Visible ASCII without the characters listed. -/
def except
    (excluded : String)
    (c : Char) : Bool :=
  isPrintableAscii c && !excluded.toList.contains c

/- A byte as a percent sign and two digits. -/
def byte (b : UInt8) : List Char :=
  ['%', Text.upperHexDigit (b.toNat / 16), Text.upperHexDigit (b.toNat % 16)]

/- A character, encoded unless it is safe. -/
def character
    (isSafe : Char → Bool)
    (c : Char) : List Char :=
  if isSafe c then
    [c]
  else
    (Bytes.ofText (String.singleton c)).flatMap byte

/- Whether a character is a digit of base sixteen. -/
def isHexDigit (c : Char) : Bool :=
  (Text.hexValue? c).isSome

/- Characters, encoded unless they are safe or encoded already. -/
def encodeList (isSafe : Char → Bool) : List Char → List Char
  | '%' :: a :: b :: rest =>
      if isHexDigit a && isHexDigit b then
        '%' :: a :: b :: encodeList isSafe rest
      else
        character isSafe '%' ++ encodeList isSafe (a :: b :: rest)
  | c :: rest => character isSafe c ++ encodeList isSafe rest
  | [] => []

/- A text, encoded unless it is safe or encoded already. -/
def encode
    (isSafe : Char → Bool)
    (s : String) : String :=
  String.ofList (encodeList isSafe s.toList)

end Percent

end KeyAssertion
