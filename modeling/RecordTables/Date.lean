import RecordTables.Text

/-! # Calendar dates

The Gregorian calendar carried on before its introduction and past year 9999, with a year 0 and
negative years. Days are counted from 1 January 1970. -/

namespace RecordTables

namespace Calendar

/-- Every fourth year is a leap year, but of the centuries only every fourth. -/
def isLeap (year : Int) : Bool :=
  year % 4 = 0 ∧ (year % 100 ≠ 0 ∨ year % 400 = 0)

def monthLengths (leap : Bool) : List Nat :=
  [31, if leap then 29 else 28, 31, 30, 31, 30, 31, 31, 30, 31, 30, 31]

def daysInMonth (year : Int) (month : Nat) : Nat :=
  (0 :: monthLengths (isLeap year)).getD month 0

/-- The days from 1 January of year 1 to 1 January of `year`. -/
def daysBeforeYear (year : Int) : Int :=
  365 * (year - 1) + (year - 1) / 4 - (year - 1) / 100 + (year - 1) / 400

/-- The days of a year before a month numbered from one. -/
def daysBeforeMonth (leap : Bool) (month : Nat) : Nat :=
  ((monthLengths leap).take (month - 1)).sum

/-- The days from 1 January of year 1 to 1 January 1970. -/
def epoch : Int := 719162

/-- The number of a day, counted from 1 January 1970. -/
def dayNumber (year : Int) (month day : Nat) : Int :=
  daysBeforeYear year + daysBeforeMonth (isLeap year) month + (day : Int) - 1 - epoch

/-- The year that holds a day counted from 1 January of year 1. -/
def yearOf (days : Int) : Int :=
  let guess := 400 * days / 146097 + 1
  if days < daysBeforeYear guess then guess - 1
  else if daysBeforeYear (guess + 1) ≤ days then guess + 1
  else guess

/-- The month and the day of a day of the year, given the lengths of the months from `month` on. -/
def monthAndDay (month : Nat) : List Nat → Nat → Nat × Nat
  | [], rest => (month, rest + 1)
  | length :: lengths, rest =>
    if rest < length then (month, rest + 1) else monthAndDay (month + 1) lengths (rest - length)

def civil (number : Int) : Int × Nat × Nat :=
  let days := number + epoch
  let year := yearOf days
  (year, monthAndDay 1 (monthLengths (isLeap year)) (days - daysBeforeYear year).toNat)

def leastYear : Int := -262143

def greatestYear : Int := 262142

/-- Whether the calendar has such a day, in a year that dates can have. -/
def IsDay (year : Int) (month day : Nat) : Prop :=
  leastYear ≤ year ∧ year ≤ greatestYear ∧ 1 ≤ day ∧ day ≤ daysInMonth year month

instance (year : Int) (month day : Nat) : Decidable (IsDay year month day) :=
  inferInstanceAs (Decidable (_ ∧ _))

end Calendar

structure Date where
  year : Int
  month : Nat
  day : Nat
  is_day : Calendar.IsDay year month day
  deriving DecidableEq

def Date.of? (year : Int) (month day : Nat) : Option Date :=
  if h : Calendar.IsDay year month day then some ⟨year, month, day, h⟩ else none

end RecordTables
