import RecordTables.Timestamp
import RecordTables.Date.Text

/-! # Written moments

A moment is written as date, `T`, time and zone, with as many groups of three decimals as it needs.
The strict reader takes fixed widths, a year of four digits and a zone of hours and minutes; the
loose reader also takes what the loose reader of dates does, blanks before the numbers and the
colons, and the zone `UTC`. -/

namespace RecordTables.Timestamp

open RecordTables.Text
open RecordTables.Date (expect? readPair? readParts? partsChars)

/-- Nothing, or a point and 3, 6 or 9 decimals. -/
def fractionChars (nanos : Nat) : List Char :=
  if nanos = 0 then []
  else if nanos % 1000000 = 0 then '.' :: padded 3 (nanos / 1000000)
  else if nanos % 1000 = 0 then '.' :: padded 6 (nanos / 1000)
  else '.' :: padded 9 nanos

/-- The time of day; the second of a leap second is 60. -/
def clockChars (second nanos : Nat) : List Char :=
  let leap := Clock.secondNanos ≤ nanos
  padded 2 (second / 3600) ++ ':' :: padded 2 (second / 60 % 60) ++
    ':' :: padded 2 (second % 60 + if leap then 1 else 0) ++
    fractionChars (if leap then nanos - Clock.secondNanos else nanos)

def charsWith (zone : List Char) (t : Timestamp) : List Char :=
  let (year, month, day) := Calendar.civil (t.seconds / Clock.daySeconds)
  partsChars year month day ++
    'T' :: clockChars (t.seconds % Clock.daySeconds).toNat t.nanos ++ zone

def chars (t : Timestamp) : List Char :=
  t.charsWith ['Z']

def text (t : Timestamp) : String :=
  String.ofList t.chars

/-- The written form with zone `+00:00`. -/
def offsetText (t : Timestamp) : String :=
  String.ofList (t.charsWith "+00:00".toList)

/-- The date and the time that a text states, before its zone is taken into account. -/
structure Reading where
  year : Int
  month : Nat
  day : Nat
  hour : Nat
  minute : Nat
  second : Nat
  nanos : Nat

/-- The moment at which clocks `offset` seconds ahead of universal time show a reading. Second 60 is
the leap second after second 59. -/
def Reading.moment? (r : Reading) (offset : Int) : Option Timestamp := do
  let _ ← Date.of? r.year r.month r.day
  if r.hour < 24 ∧ r.minute < 60 ∧ r.second ≤ 60 then
    let clock : Int := r.hour * 3600 + r.minute * 60 + min r.second 59
    of? (Calendar.dayNumber r.year r.month r.day * Clock.daySeconds + clock - offset)
      (r.nanos + if r.second = 60 then Clock.secondNanos else 0)
  else none

/-- Reads decimals after a point, if there is one; digits after the ninth count for nothing. -/
def readFraction? : List Char → Option (Nat × List Char)
  | '.' :: s =>
    let ds := s.takeWhile Char.isDigit
    if ds.isEmpty then none
    else
      let kept := ds.take 9
      some (ofDigits kept * 10 ^ (9 - kept.length), s.drop ds.length)
  | s => some (0, s)

def readSeparator? : List Char → Option (List Char)
  | 'T' :: s => some s
  | 't' :: s => some s
  | ' ' :: s => some s
  | _ => none

/-- Reads two digits of hours, a separation and two digits of minutes, as seconds with the sign. -/
def readHoursMinutes? (separation : List Char → Option (List Char)) (negative : Bool)
    (s : List Char) : Option (Int × List Char) := do
  let (hours, s) ← readDigits? 2 2 s
  let s ← separation s
  let (minutes, s) ← readDigits? 2 2 s
  if hours < 24 ∧ minutes < 60 then
    let seconds : Int := hours * 3600 + minutes * 60
    return (if negative then -seconds else seconds, s)
  else none

/-- Reads a zone: `Z`, or a sign, where U+2212 is a minus sign too, and hours and minutes. -/
def readZone? (separation : List Char → Option (List Char)) :
    List Char → Option (Int × List Char)
  | 'Z' :: s => some (0, s)
  | 'z' :: s => some (0, s)
  | '+' :: s => readHoursMinutes? separation false s
  | '-' :: s => readHoursMinutes? separation true s
  | '−' :: s => readHoursMinutes? separation true s
  | _ => none

/-- Reads a moment in which every number has its fixed width. -/
def read? (s : List Char) : Option Timestamp := do
  let (year, s) ← readDigits? 4 4 s
  let (month, s) ← (expect? '-' s).bind (readDigits? 2 2)
  let (day, s) ← (expect? '-' s).bind (readDigits? 2 2)
  let (hour, s) ← (readSeparator? s).bind (readDigits? 2 2)
  let (minute, s) ← (expect? ':' s).bind (readDigits? 2 2)
  let (second, s) ← (expect? ':' s).bind (readDigits? 2 2)
  let (nanos, s) ← readFraction? s
  let (offset, s) ← readZone? (expect? ':') s
  if s.isEmpty then
    Reading.moment? ⟨year, month, day, hour, minute, second, nanos⟩ offset
  else none

/-- Reads a zone in any of the looser spellings, among them `UTC` in either case. -/
def readLooseZone? (s : List Char) : Option (Int × List Char) :=
  if (s.take 3).map Char.toUpper = "UTC".toList then some (0, s.drop 3)
  else readZone? (fun s => some (s.dropWhile fun c => c = ':' || isBlank c)) s

/-- Reads a moment with numbers of any width and blanks around them. -/
def readLoose? (s : List Char) : Option Timestamp := do
  let ((year, month, day), s) ← readParts? true s
  let (hour, s) ← (readSeparator? s).bind readPair?
  let (minute, s) ← (expect? ':' (skipBlanks s)).bind readPair?
  let (second, s) ← (expect? ':' (skipBlanks s)).bind readPair?
  let (nanos, s) ← readFraction? s
  let (offset, s) ← readLooseZone? (skipBlanks s)
  if (skipBlanks s).isEmpty then
    Reading.moment? ⟨year, month, day, hour, minute, second, nanos⟩ offset
  else none

end RecordTables.Timestamp
