/-
  This file defines the spelling of code points by letters,
  digits and hyphens: first the basic code points, then, for
  each other one, in increasing order, how far the place where
  it goes lies from the last one.

  Key definitions include:
    * `Punycode.encode`
    * `Punycode.decode?`
-/

namespace KeyAssertion

namespace Punycode

/- The first code point that is not basic. -/
def firstOther : Nat := 128

/- The bias before the first distance. -/
def firstBias : Nat := 72

/- The digit at which a number may end, at a position and a bias. -/
def threshold (position bias : Nat) : Nat :=
  max 1 (min 26 (position - bias))

theorem threshold_pos (position bias : Nat) :
    1 ≤ threshold position bias := by
  unfold threshold
  omega

/- The bias of a distance that has been scaled down. -/
def biasFrom (delta : Nat) : Nat :=
  if 455 < delta then
    36 + biasFrom (delta / 35)
  else
    36 * delta / (delta + 38)
termination_by delta

/-
  The bias after a distance, when so many code points have been
  spelled.
-/
def bias
    (delta count : Nat)
    (isFirst : Bool) : Nat :=
  let scaled := if isFirst then delta / 700 else delta / 2
  biasFrom (scaled + scaled / count)

------------------------------------------------------------
-- Encoding
------------------------------------------------------------

/- The letter or digit of a value below 36. -/
def digit (value : Nat) : Char :=
  if value < 26 then
    Char.ofNat (97 + value)
  else
    Char.ofNat (22 + value)

/- The digits of a number, the lowest first. -/
def digits (bias position number : Nat) : List Char :=
  let t := threshold position bias
  if number < t then
    [digit number]
  else
    digit (t + (number - t) % (36 - t))
      :: digits bias (position + 36) ((number - t) / (36 - t))
termination_by number
decreasing_by
  have h := threshold_pos position bias
  have := Nat.div_le_self (number - threshold position bias)
    (36 - threshold position bias)
  omega

/- What is known while code points are being spelled. -/
structure Spelling where
  output : List Char
  delta : Nat
  bias : Nat
  count : Nat

/- Pass one code point while those of a given value are spelled. -/
def Spelling.pass
    (basics value : Nat)
    (s : Spelling)
    (c : Nat) : Spelling :=
  if c < value then
    { s with delta := s.delta + 1 }
  else if c = value then
    { output := s.output ++ digits s.bias 36 s.delta
      delta := 0
      bias := Punycode.bias s.delta (s.count + 1) (s.count == basics)
      count := s.count + 1 }
  else
    s

/- Spell the code points of the values given, in increasing order. -/
def spell
    (points : List Nat)
    (basics : Nat) : List Nat → Nat → Spelling → Spelling
  | [], _, s => s
  | value :: rest, last, s =>
      let start :=
        { s with delta := s.delta + (value - last) * (s.count + 1) }
      let s := points.foldl (Spelling.pass basics value) start
      spell points basics rest (value + 1)
        { s with delta := s.delta + 1 }

/- The spelling of code points. -/
def encode (points : List Nat) : List Char :=
  let basics := (points.filter fun c => c < firstOther).map Char.ofNat
  let others := (points.filter fun c => firstOther ≤ c).mergeSort.eraseDups
  let s := spell points basics.length others firstOther
    ⟨[], 0, firstBias, basics.length⟩
  if basics.isEmpty then
    s.output
  else
    basics ++ '-' :: s.output

------------------------------------------------------------
-- Decoding
------------------------------------------------------------

/- The value of a lower-case letter or a digit. -/
def digitValue? (c : Char) : Option Nat :=
  let n := c.toNat
  if 97 ≤ n ∧ n ≤ 122 then
    some (n - 97)
  else if 48 ≤ n ∧ n ≤ 57 then
    some (n - 22)
  else
    none

/- Read one number: its value and what follows. -/
def number? (bias : Nat) :
    List Char → Nat → Nat → Nat → Option (Nat × List Char)
  | [], _, _, _ => none
  | c :: rest, position, weight, sum =>
      match digitValue? c with
      | none => none
      | some d =>
          let t := threshold position bias
          if d < t then
            some (sum + d * weight, rest)
          else
            number? bias rest (position + 36) (weight * (36 - t))
              (sum + d * weight)

theorem number?_length
    (bias : Nat)
    (cs : List Char)
    (position weight sum value : Nat)
    (rest : List Char)
    (h : number? bias cs position weight sum = some (value, rest)) :
    rest.length < cs.length := by
  induction cs generalizing position weight sum with
  | nil => simp [number?] at h
  | cons c cs ih =>
    rw [number?] at h
    split at h
    · simp at h
    · rename_i d _
      dsimp only at h
      split at h
      · injection h with h
        injection h with _ h
        subst h
        simp
      · have := ih _ _ _ h
        simp
        omega

/- The largest code point. -/
def lastPoint : Nat := 0x10ffff

/-
  Put the code points at their places.  `value` is the last one
  and `place` the place behind it.
-/
def insertAll?
    (bias value place : Nat)
    (points : List Nat)
    (isFirst : Bool)
    (cs : List Char) : Option (List Nat) :=
  match cs with
  | [] => some points
  | c :: rest =>
      match h : number? bias (c :: rest) 36 1 0 with
      | none => none
      | some (delta, remaining) =>
          let count := points.length + 1
          let value := value + (place + delta) / count
          let place := (place + delta) % count
          if lastPoint < value then
            none
          else
            insertAll? (Punycode.bias delta count isFirst) value
              (place + 1) (points.insertIdx place value) false remaining
termination_by cs.length
decreasing_by
  exact number?_length _ _ _ _ _ _ _ h

/- The code points of a spelling in lower case. -/
def decode? (cs : List Char) : Option (List Nat) :=
  let ending := (cs.reverse.takeWhile fun c => c != '-').reverse
  let basics := cs.take (cs.length - ending.length - 1)
  insertAll? firstBias firstOther 0 (basics.map Char.toNat) true ending

end Punycode

end KeyAssertion
