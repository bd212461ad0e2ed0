import KeyAssertion.Clock.Moment

/-
  This file defines the calendar: days and times of day as
  moments, and the text of a moment.

  Key definitions include:
    * `Calendar.daysFromCivil`
    * `Calendar.toMoment?`
    * `Calendar.civilFromDays`
    * `Calendar.stamp`
-/

namespace KeyAssertion

namespace Calendar

/- Whether a year has 366 days. -/
def isLeap (year : Nat) : Bool :=
  year % 4 == 0 && (year % 100 != 0 || year % 400 == 0)

/- The days of a month. -/
def daysInMonth (year month : Nat) : Nat :=
  match month with
  | 2 => if isLeap year then 29 else 28
  | 4 => 30
  | 6 => 30
  | 9 => 30
  | 11 => 30
  | _ => 31

/- The days from the start of the year 1 to the start of a year. -/
def daysBeforeYear (year : Nat) : Nat :=
  let y := year - 1
  y * 365 + y / 4 - y / 100 + y / 400

/- The days of a year before a month. -/
def daysBeforeMonth (year month : Nat) : Nat :=
  (List.range' 1 (month - 1)).foldl
    (fun days m => days + daysInMonth year m) 0

/- The days from the start of 1970 to a date. -/
def daysFromCivil (year month day : Nat) : Int :=
  (daysBeforeYear year + daysBeforeMonth year month + (day - 1) : Nat)
    - 719162

/- The moment of a date and a time of day, if there is one. -/
def toMoment?
    (year month day hour minute second : Nat) : Option Moment :=
  if 1 ≤ year ∧ 1 ≤ month ∧ month ≤ 12 ∧ 1 ≤ day
      ∧ day ≤ daysInMonth year month
      ∧ hour < 24 ∧ minute < 60 ∧ second < 60 then
    let seconds := daysFromCivil year month day * 86400
      + (hour * 3600 + minute * 60 + second : Nat)
    (Moment.ofMicros (seconds * 1000000)).toOption
  else
    none

/- The month and day that begin so many days into a year. -/
def monthAndDay
    (year : Nat)
    (fuel month rest : Nat) : Nat × Nat :=
  match fuel with
  | 0 => (month, rest + 1)
  | fuel + 1 =>
      let length := daysInMonth year month
      if rest < length then
        (month, rest + 1)
      else
        monthAndDay year fuel (month + 1) (rest - length)

/- The year, month and day so many days after the year 1 began. -/
def civilFromDays (days : Nat) : Nat × Nat × Nat :=
  let guess := days * 400 / 146097 + 1
  let year :=
    if days < daysBeforeYear guess then
      guess - 1
    else if daysBeforeYear (guess + 1) ≤ days then
      guess + 1
    else
      guess
  let (month, day) :=
    monthAndDay year 12 1 (days - daysBeforeYear year)
  (year, month, day)

/- A number in at least two digits. -/
def twoDigits (n : Nat) : String :=
  Text.padLeft '0' 2 (Text.decimal n)

/- A moment as `year-month-day hour:minute:second` and a `Z`. -/
def stamp (m : Moment) : String :=
  let seconds := (Int.fdiv m.micros 1000000 + 62135596800).toNat
  let (year, month, day) := civilFromDays (seconds / 86400)
  let rest := seconds % 86400
  Text.decimal year ++ "-" ++ twoDigits month ++ "-" ++ twoDigits day
    ++ " " ++ twoDigits (rest / 3600) ++ ":"
    ++ twoDigits (rest / 60 % 60) ++ ":" ++ twoDigits (rest % 60) ++ "Z"

end Calendar

end KeyAssertion
