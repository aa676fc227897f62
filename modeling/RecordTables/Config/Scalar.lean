import RecordTables.Config.Setting
import RecordTables.Date
import RecordTables.Floating.Format
import RecordTables.Text
import RecordTables.Text.Hex

/-! # Scalars of configuration documents

Truth values, integers in four bases, floating-point numbers, dates and times. A scalar ends at a
blank, at a line end or at a character with a meaning of its own, but tabs before another word join
the word to it. -/

namespace RecordTables.Config

open RecordTables.Text RecordTables.Floating

def isScalarChar (c : Char) : Bool :=
  c ∉ [' ', '\t', '\n', '\r', ',', '=', '#', '[', ']', '\x7b', '\x7d']

def beginsWord (s : List Char) : Bool :=
  (s.head?.map fun c => isScalarChar c && c ∉ ['"', '\'', '.']).getD false

/-- The words that a text begins with, up to a blank other than tabs between words. -/
def joinedWords : List Char → List Char
  | [] => []
  | c :: s =>
    if isScalarChar c ∨ (c = '\t' ∧ beginsWord (s.dropWhile (· = '\t'))) then c :: joinedWords s
    else []

/-- Digits between which single underscores may stand, without the underscores. -/
def ungroup? (isDigit : Char → Bool) : List Char → Option (List Char)
  | [] => none
  | [c] => if isDigit c then some [c] else none
  | c :: '_' :: s => if isDigit c then (ungroup? isDigit s).map (c :: ·) else none
  | c :: s => if isDigit c then (ungroup? isDigit s).map (c :: ·) else none

def readSign : List Char → Bool × List Char
  | '-' :: s => (true, s)
  | '+' :: s => (false, s)
  | s => (false, s)

/-- Decimal digits that do not begin with a zero, or zero alone. -/
def wholePart? (s : List Char) : Option Nat := do
  let ds ← ungroup? Char.isDigit s
  if ds.head? = some '0' ∧ ds ≠ ['0'] then none else some (ofDigits ds)

def based? (base : Nat) (s : List Char) : Option Nat := do
  let ds ← ungroup? (fun c => ((hexValue? c).map (decide <| · < base)).getD false) s
  return ds.foldl (fun n c => base * n + (hexValue? c).getD 0) 0

def wholeInteger? : List Char → Option Int
  | '0' :: 'x' :: s => (based? 16 s).map Int.ofNat
  | '0' :: 'o' :: s => (based? 8 s).map Int.ofNat
  | '0' :: 'b' :: s => (based? 2 s).map Int.ofNat
  | s =>
    let (negative, s) := readSign s
    (wholePart? s).map fun n => if negative then -(n : Int) else n

/-- The setting of an integer, which 128 bits must hold, with a sign or without one. -/
def integerSetting (n : Int) : Setting :=
  if -2 ^ 127 ≤ n ∧ n < 2 ^ 128 then .integer n else .unreadable

/-- Whether a text begins and ends with hexadecimal digits. -/
def hasDigitEdges (s : List Char) : Bool :=
  (s.head?.bind hexValue?).isSome && (s.getLast?.bind hexValue?).isSome

/-- Whether a text passes for an integer of which only the digits before the first underscore and
the neighbours of the underscores are looked at. -/
def isVague (s : List Char) : Bool :=
  let (_, s) := readSign s
  match s.span (· ≠ '_') with
  | (first, _ :: s) =>
    let parts := s.splitOn '_'
    first.head? ≠ some '0' && (wholePart? first).isSome && parts.dropLast.all hasDigitEdges &&
      ((parts.getLast?.bind List.head?).bind hexValue?).isSome &&
      s.all fun c => c ∉ ['.', 'e', 'E']
  | _ => false

/-- Whether a text is the mark of a base that no digits follow. -/
def isBareBase (s : List Char) : Bool :=
  ["0x", "0o", "0b"].any fun mark => s = mark.toList

/-- Whether `significand * 10 ^ exponent` is too large for a floating-point number. -/
def overflows (significand : Nat) (exponent : Int) : Bool :=
  let size := (digits significand).length + exponent
  if significand = 0 ∨ size < 308 then false
  else if 310 < size then true
  else
    Format.double.nearestRatio (significand * 10 ^ exponent.toNat) (10 ^ (-exponent).toNat) =
      Format.double.infinityBits

def exponent? (s : List Char) : Option Int := do
  let (negative, s) := readSign s
  let n := ofDigits (← ungroup? Char.isDigit s)
  return if negative then -(n : Int) else n

/-- The text before the first of some characters, and the text after it. -/
def cut (marks s : List Char) : List Char × Option (List Char) :=
  match s.span (· ∉ marks) with
  | (front, []) => (front, none)
  | (front, _ :: rest) => (front, some rest)

/-- The significand and the exponent of a number with decimals, with an exponent or with both. -/
def decimal? (s : List Char) : Option (Nat × Int) := do
  let (mantissa, power) := cut ['e', 'E'] s
  let (whole, decimals) := cut ['.'] mantissa
  if power.isNone ∧ decimals.isNone then none
  else
    let n ← wholePart? whole
    let ds ← decimals.elim (some []) (ungroup? Char.isDigit)
    let exponent ← power.elim (some 0) exponent?
    return (n * 10 ^ ds.length + ofDigits ds, exponent - ds.length)

def floating? (s : List Char) : Option Setting :=
  let (_, s) := readSign s
  if s = "inf".toList ∨ s = "nan".toList then some .unused
  else (decimal? s).map fun (significand, exponent) =>
    if overflows significand exponent then .unreadable else .unused

def readTwo? (s : List Char) : Option (Nat × List Char) :=
  readDigits? 2 2 s

def after? (c : Char) : List Char → Option (List Char)
  | [] => none
  | d :: s => if d = c then some s else none

def readMinutes? (s : List Char) : Option (List Char) := do
  let (hour, s) ← readTwo? s
  let s ← after? ':' s
  let (minute, s) ← readTwo? s
  if hour < 24 ∧ minute < 60 then some s else none

def readFraction? : List Char → Option (List Char)
  | '.' :: s => (readNumber? s).map (·.2)
  | s => some s

/-- Reads a time of day, whose seconds may be left out. -/
def readTime? (s : List Char) : Option (List Char) := do
  match ← readMinutes? s with
  | ':' :: s => do
    let (second, s) ← readTwo? s
    if second ≤ 60 then readFraction? s else none
  | s => return s

def readOffset? : List Char → Option (List Char)
  | 'Z' :: s => some s
  | 'z' :: s => some s
  | '+' :: s => readMinutes? s
  | '-' :: s => readMinutes? s
  | s => some s

def readDay? (s : List Char) : Option (List Char) := do
  let (year, s) ← readDigits? 4 4 s
  let (month, s) ← readTwo? (← after? '-' s)
  let (day, s) ← readTwo? (← after? '-' s)
  if Calendar.IsDay year month day then some s else none

def readMoment? (s : List Char) : Option (List Char) := do
  match ← readDay? s with
  | 'T' :: s => readOffset? (← readTime? s)
  | 't' :: s => readOffset? (← readTime? s)
  | ' ' :: s =>
    if (s.head?.map Char.isDigit).getD false then readOffset? (← readTime? s) else return s
  | s => return s

/-- The text after a date or a time, if it begins with one that ends where a scalar ends. -/
def afterDate? (s : List Char) : Option (List Char) := do
  let rest ← readMoment? s <|> readTime? s
  if (rest.head?.map isScalarChar).getD false then none else some rest

/-- The setting of words that are not a date or a time. -/
def word? (s : List Char) : Option Setting :=
  if s = "true".toList then some (.truth true)
  else if s = "false".toList then some (.truth false)
  else
    floating? s <|> (wholeInteger? s).map integerSetting <|>
      if isBareBase s || isVague s then some .unreadable else none

def readScalar? (s : List Char) : Option (Setting × List Char) :=
  match afterDate? s with
  | some rest => some (.unused, rest)
  | none =>
    let words := joinedWords s
    (word? words).map fun setting => (setting, s.drop words.length)

end RecordTables.Config
