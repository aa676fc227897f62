import RecordTables.Date
import RecordTables.Text

/-! # Written dates

A date is written as year, month and day with hyphens between them. A year outside 0 to 9999 has a
sign. The reader allows blanks before each number; the loose reader also allows them before each
hyphen and at the end. -/

namespace RecordTables.Date

open RecordTables.Text

/-- A year with four digits, or with a sign and at least four digits. -/
def yearChars (year : Int) : List Char :=
  if 0 ≤ year ∧ year ≤ 9999 then padded 4 year.natAbs
  else (if year < 0 then '-' else '+') :: padded 4 year.natAbs

def partsChars (year : Int) (month day : Nat) : List Char :=
  yearChars year ++ '-' :: padded 2 month ++ '-' :: padded 2 day

def chars (d : Date) : List Char :=
  partsChars d.year d.month d.day

def text (d : Date) : String :=
  String.ofList d.chars

/-- Reads a year after blanks: with a sign any number of digits, without one at most four. -/
def readYear? (s : List Char) : Option (Int × List Char) :=
  match skipBlanks s with
  | '-' :: rest => (readNumber? rest).map fun (n, rest) => (-(n : Int), rest)
  | '+' :: rest => (readNumber? rest).map fun (n, rest) => ((n : Int), rest)
  | rest => (readDigits? 1 4 rest).map fun (n, rest) => ((n : Int), rest)

def readPair? (s : List Char) : Option (Nat × List Char) :=
  readDigits? 1 2 (skipBlanks s)

def expect? (c : Char) : List Char → Option (List Char)
  | [] => none
  | d :: rest => if c = d then some rest else none

/-- Reads the three parts of a date, with blanks before the hyphens if `loose`. -/
def readParts? (loose : Bool) (s : List Char) : Option ((Int × Nat × Nat) × List Char) := do
  let gap (s : List Char) := if loose then skipBlanks s else s
  let (year, s) ← readYear? s
  let s ← expect? '-' (gap s)
  let (month, s) ← readPair? s
  let s ← expect? '-' (gap s)
  let (day, s) ← readPair? s
  return ((year, month, day), s)

def readWith? (loose : Bool) (s : List Char) : Option Date := do
  let ((year, month, day), rest) ← readParts? loose s
  let rest := if loose then skipBlanks rest else rest
  if rest.isEmpty then of? year month day else none

/-- Reads a date with blanks before its numbers. -/
def read? : List Char → Option Date :=
  readWith? false

/-- Reads a date with blanks anywhere around its parts. -/
def readLoose? : List Char → Option Date :=
  readWith? true

end RecordTables.Date
