import RecordTables.Date

/-! # Moments in time

Seconds since the start of 1970 in universal time and nanoseconds within the second. A leap second
is counted as part of second 59, with 10^9 nanoseconds or more. -/

namespace RecordTables

namespace Clock

def daySeconds : Int := 86400

def secondNanos : Nat := 1000000000

def leastSecond : Int := Calendar.dayNumber Calendar.leastYear 1 1 * daySeconds

def greatestSecond : Int := (Calendar.dayNumber Calendar.greatestYear 12 31 + 1) * daySeconds - 1

/-- Whether a moment can have these parts: a leap second only follows second 59 of a minute. -/
def IsMoment (seconds : Int) (nanos : Nat) : Prop :=
  leastSecond ≤ seconds ∧ seconds ≤ greatestSecond ∧ nanos < 2 * secondNanos ∧
    (secondNanos ≤ nanos → seconds % 60 = 59)

instance (seconds : Int) (nanos : Nat) : Decidable (IsMoment seconds nanos) :=
  inferInstanceAs (Decidable (_ ∧ _))

end Clock

/-- A moment in universal time. -/
structure Timestamp where
  seconds : Int
  nanos : Nat
  is_moment : Clock.IsMoment seconds nanos
  deriving DecidableEq

def Timestamp.of? (seconds : Int) (nanos : Nat) : Option Timestamp :=
  if h : Clock.IsMoment seconds nanos then some ⟨seconds, nanos, h⟩ else none

end RecordTables
