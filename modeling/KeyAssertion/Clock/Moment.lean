import KeyAssertion.Number.Binary64
import KeyAssertion.Text.Digits

/-
  This file defines moments in time, whole microseconds since
  the start of 1970 between the years 1 and 9999, lengths of
  time, and the whole seconds of a moment.

  Key definitions include:
    * `DateError`
    * `Moment`
    * `Duration`
    * `Duration.ofSeconds`
    * `Moment.add`
    * `Moment.unixSeconds`
-/

namespace KeyAssertion

/- Why a moment or a length of time cannot be had. -/
inductive DateError
  | outOfRange
  | dayLimit (days : Int)
  | wideDays
deriving DecidableEq, Repr

/- The wording of an error. -/
def DateError.message : DateError → String
  | .outOfRange => "date value out of range"
  | .dayLimit days =>
      "days=" ++ Text.signedDecimal days
        ++ "; must have magnitude <= 999999999"
  | .wideDays => "Python int too large to convert to C int"

------------------------------------------------------------
-- Lengths of Time
------------------------------------------------------------

/- A length of time in microseconds, perhaps negative. -/
structure Duration where
  micros : Int
deriving DecidableEq, Repr, Inhabited

namespace Duration

/- The microseconds of a day. -/
def microsPerDay : Int := 86400000000

/- A length of time; its whole days have at most nine digits. -/
def ofMicros (micros : Int) : Except DateError Duration :=
  let days := Int.fdiv micros microsPerDay
  if days < -2147483648 ∨ 2147483647 < days then
    .error .wideDays
  else if days < -999999999 ∨ 999999999 < days then
    .error (.dayLimit days)
  else
    .ok ⟨micros⟩

/- A length of time of whole seconds. -/
def ofSeconds (seconds : Int) : Except DateError Duration :=
  ofMicros (seconds * 1000000)

end Duration

------------------------------------------------------------
-- Moments
------------------------------------------------------------

/- The first moment of the year 1. -/
def minMicros : Int := -62135596800000000

/- The last moment of the year 9999. -/
def maxMicros : Int := 253402300799999999

/- A moment between the years 1 and 9999. -/
structure Moment where
  micros : Int
  inRange : minMicros ≤ micros ∧ micros ≤ maxMicros
deriving DecidableEq

namespace Moment

/- The moment of so many microseconds. -/
def ofMicros (micros : Int) : Except DateError Moment :=
  if h : minMicros ≤ micros ∧ micros ≤ maxMicros then
    .ok ⟨micros, h⟩
  else
    .error .outOfRange

/- A moment is built from its own microseconds only. -/
theorem ofMicros_eq_ok_iff
    (micros : Int)
    (m : Moment) :
    ofMicros micros = .ok m ↔ m.micros = micros := by
  constructor
  · intro h
    unfold ofMicros at h
    split at h
    · cases h
      rfl
    · cases h
  · rintro rfl
    simp [ofMicros, m.inRange]

/- The start of 1970. -/
def epoch : Moment :=
  ⟨0, by decide⟩

instance : Inhabited Moment :=
  ⟨epoch⟩

/- The moment a length of time later. -/
def add
    (m : Moment)
    (d : Duration) : Except DateError Moment :=
  ofMicros (m.micros + d.micros)

/-
  The whole seconds of a moment: the floating-point number
  nearest to its seconds, truncated toward zero.
-/
def unixSeconds (m : Moment) : Int :=
  ((Binary64.ofQuotient m.micros 1000000).truncate).getD 0

instance : LE Moment :=
  ⟨fun a b => a.micros ≤ b.micros⟩

instance : LT Moment :=
  ⟨fun a b => a.micros < b.micros⟩

instance (a b : Moment) : Decidable (a ≤ b) :=
  inferInstanceAs (Decidable (a.micros ≤ b.micros))

instance (a b : Moment) : Decidable (a < b) :=
  inferInstanceAs (Decidable (a.micros < b.micros))

end Moment

end KeyAssertion
