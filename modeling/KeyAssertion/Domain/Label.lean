import KeyAssertion.Domain.Direction
import KeyAssertion.Domain.Joining
import KeyAssertion.Domain.Permitted
import KeyAssertion.Domain.Punycode
import KeyAssertion.Domain.Script
import KeyAssertion.Text.Composition
import KeyAssertion.Text.Quoted
import KeyAssertion.Text.Digits

/-
  This file defines the labels of domain names: which code
  points make a label, and how a label is spelled by letters,
  digits and hyphens.

  Key definitions include:
    * `Domain.Fault`
    * `Domain.checkLabel`
    * `Domain.encodeLabel`
    * `Domain.decodeLabel`
-/

namespace KeyAssertion

namespace Domain

/- A label as code points; not all of them need be characters. -/
abbrev Label :=
  List Nat

------------------------------------------------------------
-- Faults
------------------------------------------------------------

/- Why a label mixes directions badly. -/
inductive DirectionFault
  | unknown (position : Nat) (label : Label)
  | opening (label : Label)
  | inRightToLeft (position : Nat)
  | mixedNumbers
  | inLeftToRight (position : Nat)
  | ending
deriving DecidableEq, Repr

/- The wording of a fault. -/
def DirectionFault.message : DirectionFault → String
  | .unknown position label =>
      "Unknown directionality in label " ++ Text.quotedPoints label
        ++ " at position " ++ Text.decimal position
  | .opening label =>
      "First codepoint in label " ++ Text.quotedPoints label
        ++ " must be directionality L, R or AL"
  | .inRightToLeft position =>
      "Invalid direction for codepoint at position "
        ++ Text.decimal position ++ " in a right-to-left label"
  | .mixedNumbers =>
      "Can not mix numeral types in a right-to-left label"
  | .inLeftToRight position =>
      "Invalid direction for codepoint at position "
        ++ Text.decimal position ++ " in a left-to-right label"
  | .ending => "Label ends with illegal codepoint directionality"

/- Why something is no domain name. -/
inductive Fault
  | emptyDomain
  | longDomain
  | emptyLabel
  | longLabel
  | notComposed
  | middleHyphens
  | outerHyphen
  | leadingMark
  | notPermitted (point position : Nat) (label : Label)
  | badNeighbours (point position : Nat) (label : Label)
  | badJoin (point position : Nat) (label : Label)
  | namelessNeighbour (point position : Nat) (label : Label)
  | badDirection (fault : DirectionFault)
  | emptySpelling
  | hyphenSpelling
  | badSpelling
  | otherSpelling
deriving DecidableEq, Repr

/- The name of a code point: its number with four digits or more. -/
def pointName (c : Nat) : String :=
  let ds := (Nat.toDigits 16 c).map Char.toUpper
  "U+" ++ Text.padLeft '0' 4 (String.ofList ds)

/- The wording of a fault. -/
def Fault.message : Fault → String
  | .emptyDomain => "Empty domain"
  | .longDomain => "Domain too long"
  | .emptyLabel => "Empty Label"
  | .longLabel => "Label too long"
  | .notComposed => "Label must be in Normalization Form C"
  | .middleHyphens =>
      "Label has disallowed hyphens in 3rd and 4th position"
  | .outerHyphen => "Label must not start or end with a hyphen"
  | .leadingMark => "Label begins with an illegal combining character"
  | .notPermitted point position label =>
      "Codepoint " ++ pointName point ++ " at position "
        ++ Text.decimal position ++ " of " ++ Text.quotedPoints label
        ++ " not allowed"
  | .badNeighbours point position label =>
      "Codepoint " ++ pointName point ++ " not allowed at position "
        ++ Text.decimal position ++ " in " ++ Text.quotedPoints label
  | .badJoin point position label =>
      "Joiner " ++ pointName point ++ " not allowed at position "
        ++ Text.decimal position ++ " in " ++ Text.quotedPoints label
  | .namelessNeighbour point position label =>
      "Unknown codepoint adjacent to joiner " ++ pointName point
        ++ " at position "
        ++ Text.decimal position ++ " in " ++ Text.quotedPoints label
  | .badDirection fault => fault.message
  | .emptySpelling =>
      "Malformed A-label, no Punycode eligible content found"
  | .hyphenSpelling => "A-label must not end with a hyphen"
  | .badSpelling => "Invalid A-label"
  | .otherSpelling =>
      "A-label is not the canonical Punycode encoding of its U-label"

------------------------------------------------------------
-- Directions
------------------------------------------------------------

/- Whether a direction makes a label one from right to left. -/
def Direction.isRightward : Direction → Bool
  | .rightToLeft => true
  | .arabicLetter => true
  | .arabicNumber => true
  | _ => false

/-
  Check the directions of a label from right to left; `number?`
  is the kind of number met before.
-/
def checkRightToLeft
    (position : Nat)
    (number? : Option Direction) :
    List Direction → Except DirectionFault Unit
  | [] => .ok ()
  | d :: rest =>
      if d = .leftToRight then
        .error (.inRightToLeft position)
      else if d = .arabicNumber ∨ d = .europeanNumber then
        match number? with
        | some n =>
            if n = d then
              checkRightToLeft (position + 1) number? rest
            else
              .error .mixedNumbers
        | none => checkRightToLeft (position + 1) (some d) rest
      else
        checkRightToLeft (position + 1) number? rest

/- Check the directions of a label from left to right. -/
def checkLeftToRight
    (position : Nat) : List Direction → Except DirectionFault Unit
  | [] => .ok ()
  | d :: rest =>
      if d.isRightward then
        .error (.inLeftToRight position)
      else
        checkLeftToRight (position + 1) rest

/- Whether the last direction apart from marks passes a test. -/
def endsWith
    (p : Direction → Bool)
    (ds : List Direction) : Bool :=
  match ds.reverse.dropWhile fun d => d == .mark with
  | d :: _ => p d
  | [] => false

/- Check the directions of a label that holds one from right to left. -/
def checkMixed
    (label : Label)
    (ds : List Direction) : Except DirectionFault Unit := do
  let first := ds.headD .neutral
  if first = .rightToLeft ∨ first = .arabicLetter then
    checkRightToLeft 1 none ds
    if !endsWith (fun d => d.isRightward || d == .europeanNumber) ds then
      throw .ending
  else if first = .leftToRight then
    checkLeftToRight 1 ds
    if !endsWith (fun d => d == .leftToRight || d == .europeanNumber) ds then
      throw .ending
  else
    throw (.opening label)

/- Check the directions of a label, all of which must be known. -/
def checkDirections (label : Label) : Except DirectionFault Unit :=
  let ds := label.map direction
  match ds.findIdx? fun d => d == .unknown with
  | some i => .error (.unknown (i + 1) label)
  | none =>
      if ds.any Direction.isRightward then
        checkMixed label ds
      else
        .ok ()

------------------------------------------------------------
-- Neighbours
------------------------------------------------------------

/- Whether the first of some code points passes a test. -/
def headPasses
    (p : Nat → Bool)
    (points : List Nat) : Bool :=
  match points with
  | c :: _ => p c
  | [] => false

/- Whether a joiner may stand after some code points, the last first. -/
def mayJoin
    (c : Nat)
    (before after : List Nat) : Bool :=
  headPasses (fun p => Text.combiningClass p == Text.viramaClass) before
    || (c == 0x200c
      && headPasses joinsNext (before.dropWhile isTransparent)
      && headPasses joinsPrevious (after.dropWhile isTransparent))

/- The digits of two scripts that may not be mixed. -/
def isArabicDigit (c : Nat) : Bool :=
  0x660 ≤ c && c ≤ 0x669

def isPersianDigit (c : Nat) : Bool :=
  0x6f0 ≤ c && c ≤ 0x6f9

/- Whether a contextual code point may stand between others of a label. -/
def mayStand
    (label : Label)
    (c : Nat)
    (before after : List Nat) : Bool :=
  if c = 0xb7 then
    headPasses (fun p => p == 0x6c) before
      && headPasses (fun p => p == 0x6c) after
  else if c = 0x375 then
    headPasses isGreek after
  else if c = 0x5f3 ∨ c = 0x5f4 then
    headPasses isHebrew before
  else if c = 0x30fb then
    label.any fun p => p != 0x30fb && isJapaneseOrHan p
  else if isArabicDigit c then
    !label.any isPersianDigit
  else if isPersianDigit c then
    !label.any isArabicDigit
  else
    false

/- Check the code points of a label after those before, the last first. -/
def checkPoints
    (label : Label)
    (before : List Nat) : List Nat → Except Fault Unit
  | [] => .ok ()
  | c :: after =>
      let position := before.length + 1
      if isPermitted c then
        checkPoints label (c :: before) after
      else if isJoiner c then
        if headPasses isNameless before then
          .error (.namelessNeighbour c position label)
        else if mayJoin c before after then
          checkPoints label (c :: before) after
        else
          .error (.badJoin c position label)
      else if isContextual c then
        if mayStand label c before after then
          checkPoints label (c :: before) after
        else
          .error (.badNeighbours c position label)
      else
        .error (.notPermitted c position label)

------------------------------------------------------------
-- Labels
------------------------------------------------------------

def hyphen : Nat := 0x2d

/- The longest domain name, without and with a dot at its end. -/
def longestDomain : Nat := 253

/- The longest spelling of a label. -/
def longestLabel : Nat := 63

/- Check a label. -/
def checkLabel (label : Label) : Except Fault Unit := do
  if label.isEmpty then
    throw .emptyLabel
  if longestDomain + 1 < label.length then
    throw .longLabel
  if !Text.isComposed label then
    throw .notComposed
  if (label.drop 2).take 2 = [hyphen, hyphen] then
    throw .middleHyphens
  if label.head? = some hyphen ∨ label.getLast? = some hyphen then
    throw .outerHyphen
  if headPasses Text.isMark label then
    throw .leadingMark
  checkPoints label [] label
  (checkDirections label).mapError .badDirection

/- How the spelling of a label that is not all ASCII begins. -/
def spellingOpening : List Char :=
  "xn--".toList

/-
  The label of an ASCII text in lower case, perhaps a spelling,
  which must then be the one that the label has.
-/
def decodeLabel (cs : List Char) : Except Fault Label := do
  if spellingOpening.isPrefixOf cs then
    let spelling := cs.drop spellingOpening.length
    if spelling.isEmpty then
      throw .emptySpelling
    if spelling.getLast? = some '-' then
      throw .hyphenSpelling
    match Punycode.decode? spelling with
    | none => throw .badSpelling
    | some label =>
        checkLabel label
        if Punycode.encode label != spelling then
          throw .otherSpelling
        return label
  else
    let label := cs.map Char.toNat
    checkLabel label
    return label

/- The ASCII text of a label in lower case. -/
def encodeLabel (cs : List Char) : Except Fault (List Char) := do
  if cs.all fun c => c.toNat < 128 then
    let _ ← decodeLabel cs
    if longestLabel < cs.length then
      throw .longLabel
    return cs
  else
    let label := cs.map Char.toNat
    checkLabel label
    let spelling := spellingOpening ++ Punycode.encode label
    if longestLabel < spelling.length then
      throw .longLabel
    return spelling

end Domain

end KeyAssertion
