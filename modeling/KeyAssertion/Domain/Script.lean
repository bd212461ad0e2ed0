import KeyAssertion.Text.CodeRange

/-
  This file defines the scripts that allow certain code points
  in labels.

  Key definitions include:
    * `Domain.isGreek`
    * `Domain.isHebrew`
    * `Domain.isJapaneseOrHan`
-/

namespace KeyAssertion

namespace Domain

/- The Greek script. -/
def greekRanges : List CodeRange :=
  [⟨0x370, 0x373⟩, ⟨0x375, 0x377⟩, ⟨0x37a, 0x37d⟩, ⟨0x37f, 0x37f⟩,
    ⟨0x384, 0x384⟩, ⟨0x386, 0x386⟩, ⟨0x388, 0x38a⟩, ⟨0x38c, 0x38c⟩,
    ⟨0x38e, 0x3a1⟩, ⟨0x3a3, 0x3e1⟩, ⟨0x3f0, 0x3ff⟩, ⟨0x1d26, 0x1d2a⟩,
    ⟨0x1d5d, 0x1d61⟩, ⟨0x1d66, 0x1d6a⟩, ⟨0x1dbf, 0x1dbf⟩,
    ⟨0x1f00, 0x1f15⟩, ⟨0x1f18, 0x1f1d⟩, ⟨0x1f20, 0x1f45⟩,
    ⟨0x1f48, 0x1f4d⟩, ⟨0x1f50, 0x1f57⟩, ⟨0x1f59, 0x1f59⟩,
    ⟨0x1f5b, 0x1f5b⟩, ⟨0x1f5d, 0x1f5d⟩, ⟨0x1f5f, 0x1f7d⟩,
    ⟨0x1f80, 0x1fb4⟩, ⟨0x1fb6, 0x1fc4⟩, ⟨0x1fc6, 0x1fd3⟩,
    ⟨0x1fd6, 0x1fdb⟩, ⟨0x1fdd, 0x1fef⟩, ⟨0x1ff2, 0x1ff4⟩,
    ⟨0x1ff6, 0x1ffe⟩, ⟨0x2126, 0x2126⟩, ⟨0xab65, 0xab65⟩,
    ⟨0x10140, 0x1018e⟩, ⟨0x101a0, 0x101a0⟩, ⟨0x1d200, 0x1d245⟩]

/- The Hebrew script. -/
def hebrewRanges : List CodeRange :=
  [⟨0x591, 0x5c7⟩, ⟨0x5d0, 0x5ea⟩, ⟨0x5ef, 0x5f4⟩, ⟨0xfb1d, 0xfb36⟩,
    ⟨0xfb38, 0xfb3c⟩, ⟨0xfb3e, 0xfb3e⟩, ⟨0xfb40, 0xfb41⟩,
    ⟨0xfb43, 0xfb44⟩, ⟨0xfb46, 0xfb4f⟩]

/- The Hiragana script. -/
def hiraganaRanges : List CodeRange :=
  [⟨0x3041, 0x3096⟩, ⟨0x309d, 0x309f⟩, ⟨0x1b001, 0x1b11f⟩,
    ⟨0x1b132, 0x1b132⟩, ⟨0x1b150, 0x1b152⟩, ⟨0x1f200, 0x1f200⟩]

/- The Katakana script. -/
def katakanaRanges : List CodeRange :=
  [⟨0x30a1, 0x30fa⟩, ⟨0x30fd, 0x30ff⟩, ⟨0x31f0, 0x31ff⟩,
    ⟨0x32d0, 0x32fe⟩, ⟨0x3300, 0x3357⟩, ⟨0xff66, 0xff6f⟩,
    ⟨0xff71, 0xff9d⟩, ⟨0x1aff0, 0x1aff3⟩, ⟨0x1aff5, 0x1affb⟩,
    ⟨0x1affd, 0x1affe⟩, ⟨0x1b000, 0x1b000⟩, ⟨0x1b120, 0x1b122⟩,
    ⟨0x1b155, 0x1b155⟩, ⟨0x1b164, 0x1b167⟩]

/- The Han script. -/
def hanRanges : List CodeRange :=
  [⟨0x2e80, 0x2e99⟩, ⟨0x2e9b, 0x2ef3⟩, ⟨0x2f00, 0x2fd5⟩,
    ⟨0x3005, 0x3005⟩, ⟨0x3007, 0x3007⟩, ⟨0x3021, 0x3029⟩,
    ⟨0x3038, 0x303b⟩, ⟨0x3400, 0x4dbf⟩, ⟨0x4e00, 0x9fff⟩,
    ⟨0xf900, 0xfa6d⟩, ⟨0xfa70, 0xfad9⟩, ⟨0x16fe2, 0x16fe3⟩,
    ⟨0x16ff0, 0x16ff6⟩, ⟨0x20000, 0x2a6df⟩, ⟨0x2a700, 0x2b81d⟩,
    ⟨0x2b820, 0x2cead⟩, ⟨0x2ceb0, 0x2ebe0⟩, ⟨0x2ebf0, 0x2ee5d⟩,
    ⟨0x2f800, 0x2fa1d⟩, ⟨0x30000, 0x3134a⟩, ⟨0x31350, 0x33479⟩]

/- Whether a code point is of the Greek script. -/
def isGreek (c : Nat) : Bool :=
  CodeRange.covers greekRanges c

/- Whether a code point is of the Hebrew script. -/
def isHebrew (c : Nat) : Bool :=
  CodeRange.covers hebrewRanges c

/- Whether a code point is of a script of Japanese. -/
def isJapaneseOrHan (c : Nat) : Bool :=
  CodeRange.covers hiraganaRanges c || CodeRange.covers katakanaRanges c
    || CodeRange.covers hanRanges c

end Domain

end KeyAssertion
