import KeyAssertion.Text.Printable
import KeyAssertion.Text.Digits

/-
  This file defines the quoted form in which messages show a
  text: between single quotes, or between double quotes when
  the text has a single quote and no double one, with escapes
  for the quote, the backslash and what is not printable.

  Key definitions include:
    * `Text.escapePoint`
    * `Text.quotedPoints`
    * `Text.quoted`
-/

namespace KeyAssertion

namespace Text

/-
  A code point as an escape: two hexadecimal digits after `\x`,
  four after `\u` or eight after `\U`, the shortest that fits.
-/
def escapePoint (c : Nat) : List Char :=
  if c ≤ 0xff then
    '\\' :: 'x' :: hexDigits 2 c
  else if c ≤ 0xffff then
    '\\' :: 'u' :: hexDigits 4 c
  else
    '\\' :: 'U' :: hexDigits 8 c

/- One code point inside the quotes. -/
def quotedPoint
    (quote : Char)
    (c : Nat) : List Char :=
  if c = quote.toNat ∨ c = 0x5c then
    ['\\', Char.ofNat c]
  else if c = 0x09 then
    ['\\', 't']
  else if c = 0x0a then
    ['\\', 'n']
  else if c = 0x0d then
    ['\\', 'r']
  else if isPrintable c then
    [Char.ofNat c]
  else
    escapePoint c

/- The quote that a text is written between. -/
def quoteFor (points : List Nat) : Char :=
  if points.contains 0x27 && !points.contains 0x22 then
    '"'
  else
    '\''

/- The quoted form of a list of code points. -/
def quotedPoints (points : List Nat) : String :=
  let quote := quoteFor points
  String.ofList
    (quote :: points.flatMap (quotedPoint quote) ++ [quote])

/- The quoted form of a text. -/
def quoted (s : String) : String :=
  quotedPoints (s.toList.map Char.toNat)

end Text

end KeyAssertion
