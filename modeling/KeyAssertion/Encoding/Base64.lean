/-
  This file defines Base64 over an alphabet of 64 characters:
  the padded form with its reader by groups, the unpadded form,
  and the readers that take one character at a time: the lenient
  one skips what is not in the alphabet, the strict one does not.

  Key definitions include:
    * `Base64.Alphabet`
    * `Base64.encode`
    * `Base64.encodeUnpadded`
    * `Base64.decode`
    * `Base64.Lenient.decode`
    * `Base64.Strict.decode`

  Key statements include:
    * `Base64.Alphabet.value?_digit`
    * `Base64.decode_encode`
-/

namespace KeyAssertion

namespace Base64

------------------------------------------------------------
-- Alphabets
------------------------------------------------------------

/- Whether a character is a letter or a digit, as in all alphabets. -/
def isFixed (c : Char) : Bool :=
  let n := c.toNat
  65 ≤ n && n ≤ 90 || 97 ≤ n && n ≤ 122 || 48 ≤ n && n ≤ 57

/-
  The two last characters of an alphabet, which differ and are
  neither among the fixed ones nor the padding character.
-/
structure Alphabet where
  plus : Char
  slash : Char
  plus_ne_slash : plus ≠ slash
  isFixed_plus : isFixed plus = false
  isFixed_slash : isFixed slash = false
  plus_ne_pad : plus ≠ '='
  slash_ne_pad : slash ≠ '='
deriving DecidableEq

/- The standard alphabet. -/
def standard : Alphabet where
  plus := '+'
  slash := '/'
  plus_ne_slash := by decide
  isFixed_plus := by decide
  isFixed_slash := by decide
  plus_ne_pad := by decide
  slash_ne_pad := by decide

/- The alphabet for URLs and file names. -/
def url : Alphabet where
  plus := '-'
  slash := '_'
  plus_ne_slash := by decide
  isFixed_plus := by decide
  isFixed_slash := by decide
  plus_ne_pad := by decide
  slash_ne_pad := by decide

namespace Alphabet

/- The character of a value below 64. -/
def digit
    (a : Alphabet)
    (n : Nat) : Char :=
  if n < 26 then
    Char.ofNat (65 + n)
  else if n < 52 then
    Char.ofNat (71 + n)
  else if n < 62 then
    Char.ofNat (n - 4)
  else if n = 62 then
    a.plus
  else
    a.slash

/- The value of a character. -/
def value?
    (a : Alphabet)
    (c : Char) : Option Nat :=
  let n := c.toNat
  if 65 ≤ n ∧ n ≤ 90 then
    some (n - 65)
  else if 97 ≤ n ∧ n ≤ 122 then
    some (n - 71)
  else if 48 ≤ n ∧ n ≤ 57 then
    some (n + 4)
  else if c = a.plus then
    some 62
  else if c = a.slash then
    some 63
  else
    none

variable (a : Alphabet)

/- The fixed digits are the same in all alphabets. -/
theorem digit_of_lt
    (b : Alphabet)
    {n : Nat}
    (h : n < 62) :
    a.digit n = b.digit n := by
  simp only [digit, if_pos h]

/- A fixed character has the same value in all alphabets. -/
theorem value?_of_isFixed
    (b : Alphabet)
    {c : Char}
    (h : isFixed c = true) :
    a.value? c = b.value? c := by
  simp only [isFixed, Bool.or_eq_true, Bool.and_eq_true,
    decide_eq_true_eq] at h
  unfold value?
  dsimp only
  split
  · rfl
  · split
    · rfl
    · rw [if_pos (by omega), if_pos (by omega)]

/- Another character is one of the two last ones or has no value. -/
theorem value?_of_not_isFixed
    {c : Char}
    (h : isFixed c = false) :
    a.value? c =
      if c = a.plus then some 62
      else if c = a.slash then some 63
      else none := by
  simp only [isFixed, Bool.or_eq_false_iff, Bool.and_eq_false_iff,
    decide_eq_false_iff_not] at h
  unfold value?
  dsimp only
  rw [if_neg (by omega), if_neg (by omega), if_neg (by omega)]

/- The fixed digits are fixed characters with the value written. -/
theorem standard_digit_of_lt
    {n : Nat}
    (h : n < 62) :
    isFixed (standard.digit n) = true ∧
      standard.value? (standard.digit n) = some n := by
  have hAll : ∀ n : Fin 62,
      isFixed (standard.digit n) = true ∧
        standard.value? (standard.digit n) = some n.val := by
    decide
  exact hAll ⟨n, h⟩

/- The value of a digit is the one written. -/
theorem value?_digit
    (n : Nat)
    (h : n < 64) :
    a.value? (a.digit n) = some n := by
  by_cases hFixed : n < 62
  · rcases standard_digit_of_lt hFixed with ⟨hDigit, hValue⟩
    rw [a.digit_of_lt standard hFixed,
      a.value?_of_isFixed standard hDigit, hValue]
  · obtain rfl | rfl : n = 62 ∨ n = 63 := by omega
    · change a.value? a.plus = some 62
      rw [a.value?_of_not_isFixed a.isFixed_plus, if_pos rfl]
    · change a.value? a.slash = some 63
      rw [a.value?_of_not_isFixed a.isFixed_slash,
        if_neg a.plus_ne_slash.symm, if_pos rfl]

/- The padding character has no value. -/
theorem value?_pad : a.value? '=' = none := by
  rw [a.value?_of_not_isFixed (by decide), if_neg a.plus_ne_pad.symm,
    if_neg a.slash_ne_pad.symm]

/- No digit is the padding character. -/
theorem digit_ne_pad
    (n : Nat)
    (h : n < 64) :
    a.digit n ≠ '=' := by
  intro hPad
  have hValue := a.value?_digit n h
  rw [hPad, a.value?_pad] at hValue
  cases hValue

end Alphabet

------------------------------------------------------------
-- Writing
------------------------------------------------------------

/- The padded form of a sequence of bytes. -/
def encode (a : Alphabet) : List UInt8 → List Char
  | [] => []
  | [x] =>
      let n := x.toNat * 16
      [a.digit (n / 64), a.digit (n % 64), '=', '=']
  | [x, y] =>
      let n := (x.toNat * 256 + y.toNat) * 4
      [a.digit (n / 4096), a.digit (n / 64 % 64),
        a.digit (n % 64), '=']
  | x :: y :: z :: rest =>
      let n := (x.toNat * 256 + y.toNat) * 256 + z.toNat
      a.digit (n / 262144) :: a.digit (n / 4096 % 64) ::
        a.digit (n / 64 % 64) :: a.digit (n % 64) ::
          encode a rest

/- The form without padding. -/
def encodeUnpadded
    (a : Alphabet)
    (bytes : List UInt8) : List Char :=
  (encode a bytes).takeWhile (· != '=')

/- The unpadded form over the alphabet for URLs. -/
def encodeUrl (bytes : List UInt8) : String :=
  String.ofList (encodeUnpadded url bytes)

------------------------------------------------------------
-- Reading by Groups
------------------------------------------------------------

/- The two or three bytes of a last group, and their spare bits. -/
def lastGroup?
    (a : Alphabet)
    (p q : Char)
    (r? : Option Char) : Option (List UInt8 × Nat) := do
  let p ← a.value? p
  let q ← a.value? q
  match r? with
  | none =>
      let n := p * 64 + q
      return ([UInt8.ofNat (n / 16)], n % 16)
  | some r =>
      let r ← a.value? r
      let n := (p * 64 + q) * 64 + r
      return ([UInt8.ofNat (n / 1024), UInt8.ofNat (n / 4)], n % 4)

/-
  Read the padded form: groups of four characters, of which
  the last may end in one or two padding characters.  With
  `canonical` the spare bits of a padded group must be zero.
-/
def decode
    (a : Alphabet)
    (canonical : Bool) : List Char → Option (List UInt8)
  | [] => some []
  | [p, q, '=', '='] => do
      let (bytes, spare) ← lastGroup? a p q none
      if canonical && spare != 0 then none else some bytes
  | [p, q, r, '='] => do
      let (bytes, spare) ← lastGroup? a p q (some r)
      if canonical && spare != 0 then none else some bytes
  | p :: q :: r :: s :: rest => do
      let p ← a.value? p
      let q ← a.value? q
      let r ← a.value? r
      let s ← a.value? s
      let tail ← decode a canonical rest
      let n := ((p * 64 + q) * 64 + r) * 64 + s
      some (UInt8.ofNat (n / 65536) :: UInt8.ofNat (n / 256) ::
        UInt8.ofNat n :: tail)
  | _ => none

/- What was written is read back, with or without the check of bits. -/
theorem decode_encode
    (a : Alphabet)
    (canonical : Bool)
    (bytes : List UInt8) :
    decode a canonical (encode a bytes) = some bytes := by
  fun_induction encode a bytes with
  | case1 => rfl
  | case2 x n =>
      have hx := x.toNat_lt
      have h₁ := a.value?_digit (n / 64) (by omega)
      have h₂ := a.value?_digit (n % 64) (by omega)
      have hx' : x.toNat * 16 / 64 * 64 + x.toNat * 16 % 64 =
        x.toNat * 16 := by omega
      simp [decode, lastGroup?, h₁, h₂, n, hx']
  | case3 x y n =>
      have hx := x.toNat_lt
      have hy := y.toNat_lt
      have h₁ := a.value?_digit (n / 4096) (by omega)
      have h₂ := a.value?_digit (n / 64 % 64) (by omega)
      have h₃ := a.value?_digit (n % 64) (by omega)
      have hp := a.digit_ne_pad (n % 64) (by omega)
      have hn : (n / 4096 * 64 + n / 64 % 64) * 64 + n % 64 = n := by
        omega
      have ha : UInt8.ofNat (n / 1024) = x := by
        rw [show n / 1024 = x.toNat by omega, UInt8.ofNat_toNat]
      have hb : UInt8.ofNat (n / 4) = y := by
        apply UInt8.toNat.inj
        simp
        omega
      have hs : n % 4 = 0 := by omega
      simp [decode, lastGroup?, h₁, h₂, h₃, hn, ha, hb, hs]
  | case4 x y z rest n ih =>
      have hx := x.toNat_lt
      have hy := y.toNat_lt
      have hz := z.toNat_lt
      have h₁ := a.value?_digit (n / 262144) (by omega)
      have h₂ := a.value?_digit (n / 4096 % 64) (by omega)
      have h₃ := a.value?_digit (n / 64 % 64) (by omega)
      have h₄ := a.value?_digit (n % 64) (by omega)
      have hp := a.digit_ne_pad (n % 64) (by omega)
      have hn : ((n / 262144 * 64 + n / 4096 % 64) * 64
          + n / 64 % 64) * 64 + n % 64 = n := by
        omega
      have ha : UInt8.ofNat (n / 65536) = x := by
        rw [show n / 65536 = x.toNat by omega, UInt8.ofNat_toNat]
      have hb : UInt8.ofNat (n / 256) = y := by
        apply UInt8.toNat.inj
        simp
        omega
      have hc : UInt8.ofNat n = z := by
        apply UInt8.toNat.inj
        simp
        omega
      rw [decode]
      · rw [h₁, h₂, h₃, h₄, ih]
        simp only [Option.bind_eq_bind, Option.bind_some]
        rw [hn, ha, hb, hc]
      · simp [hp]
      · simp [hp]

------------------------------------------------------------
-- Lenient Reading
------------------------------------------------------------

namespace Lenient

/- Why a text cannot be read even leniently. -/
inductive Fault
  | singleCharacter (dataCharacters : Nat)
  | missingPadding
deriving DecidableEq, Repr

/- The wording of a fault. -/
def Fault.message : Fault → String
  | .singleCharacter n =>
      "Invalid base64-encoded string: number of data characters ("
        ++ toString n
        ++ ") cannot be 1 more than a multiple of 4"
  | .missingPadding => "Incorrect padding"

/-
  What has been read: whole bytes in reverse, the place in
  the present group of four, the bits carried over, and the
  padding seen since the last data character.
-/
structure State where
  bytes : List UInt8 := []
  place : Nat := 0
  carry : Nat := 0
  pads : Nat := 0
deriving Repr

/- Take in one data character of value `v`. -/
def State.push
    (s : State)
    (v : Nat) : State :=
  match s.place with
  | 0 => ⟨s.bytes, 1, v, 0⟩
  | 1 => ⟨UInt8.ofNat (s.carry * 4 + v / 16) :: s.bytes, 2, v % 16, 0⟩
  | 2 => ⟨UInt8.ofNat (s.carry * 16 + v / 4) :: s.bytes, 3, v % 4, 0⟩
  | _ => ⟨UInt8.ofNat (s.carry * 64 + v) :: s.bytes, 0, 0, 0⟩

/- What the state is at the end of the text. -/
def State.finish (s : State) : Except Fault (List UInt8) :=
  match s.place with
  | 0 => .ok s.bytes.reverse
  | 1 => .error (.singleCharacter (s.bytes.length / 3 * 4 + 1))
  | _ => .error .missingPadding

/-
  Read on from a state.  A padding character that completes a
  group of at least two data characters ends the reading; any
  other character outside the alphabet is skipped.
-/
def run (s : State) : List Char → Except Fault (List UInt8)
  | [] => s.finish
  | c :: rest =>
      if c = '=' then
        if s.place ≥ 2 then
          if s.place + s.pads + 1 ≥ 4 then
            .ok s.bytes.reverse
          else
            run { s with pads := s.pads + 1 } rest
        else
          run s rest
      else
        match standard.value? c with
        | some v => run (s.push v) rest
        | none =>
            match url.value? c with
            | some v => run (s.push v) rest
            | none => run s rest

/- Read a text over either alphabet. -/
def decode (cs : List Char) : Except Fault (List UInt8) :=
  run {} cs

end Lenient

------------------------------------------------------------
-- Strict Reading
------------------------------------------------------------

namespace Strict

/-
  Read on from a state, where `isPadded` tells whether padding
  has begun.  The padding character that completes a group must
  be the last one of the text.  Where a group has fewer than two
  characters padding completes nothing, so any number of padding
  characters may follow whole groups, but data may not.
-/
def run
    (s : Lenient.State)
    (isPadded : Bool) : List Char → Option (List UInt8)
  | [] => s.finish.toOption
  | c :: rest =>
      if c = '=' then
        if s.place ≥ 2 then
          if s.place + s.pads + 1 ≥ 4 then
            if rest.isEmpty then some s.bytes.reverse else none
          else
            run { s with pads := s.pads + 1 } true rest
        else
          run s true rest
      else
        match standard.value? c with
        | none => none
        | some v =>
            if isPadded then none else run (s.push v) false rest

/- Read a text that does not begin with padding. -/
def decode (cs : List Char) : Option (List UInt8) :=
  if cs.head? = some '=' then none else run {} false cs

end Strict

end Base64

end KeyAssertion
