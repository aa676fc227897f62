import RecordTables.Json
import RecordTables.Text

/-! # Numbers in documents

An integer that 64 bits hold is read exactly. Any other number is floating-point: its digits, as
many as fit in 64 bits, make a significand, which is rounded and then scaled by one rounded
multiplication or division by a power of ten, so the last digit of a long number can be off by one.
-/

namespace RecordTables

open RecordTables.Text RecordTables.Floating

namespace Floating.Double

/-- The exact value of a number that is not negative, as numerator and denominator. -/
def ratio (x : Double) : Nat × Nat :=
  match x.meaning with
  | .number _ significand exponent => (significand * 2 ^ exponent.toNat, 2 ^ (-exponent).toNat)
  | _ => (0, 1)

def mul (x y : Double) : Double :=
  ofRatio (x.ratio.1 * y.ratio.1) (x.ratio.2 * y.ratio.2)

def div (x y : Double) : Double :=
  ofRatio (x.ratio.1 * y.ratio.2) (x.ratio.2 * y.ratio.1)

def powerOfTen (n : Nat) : Double :=
  ofRatio (10 ^ n) 1

def greatestPower : Nat := 308

/-- Scales `x` by a power of ten. Below the least power it divides several times, `steps` at most;
above the greatest there is no result unless `x` is zero. -/
def scale? (x : Double) (exponent : Int) : (steps : Nat) → Option Double
  | 0 => none
  | steps + 1 =>
    if exponent.natAbs ≤ greatestPower then
      if 0 ≤ exponent then
        let y := x.mul (powerOfTen exponent.natAbs)
        if y.isFinite then some y else none
      else some (x.div (powerOfTen exponent.natAbs))
    else if x.bits = 0 then some x
    else if 0 ≤ exponent then none
    else scale? (x.div (powerOfTen greatestPower)) (exponent + greatestPower) steps

end Floating.Double

namespace JsonNumber

def greatestExponent : Nat := 2147483647

def ofParts? (negative : Bool) (significand : Nat) (exponent : Int) : Option JsonNumber := do
  let x ← (Double.ofInt significand).scale? exponent (exponent.natAbs / Double.greatestPower + 1)
  ofDouble? (if negative then x.negate else x)

/-- Takes digits into the significand as long as 64 bits hold it. The result has the significand,
the count of the digits taken and the rest of the text. -/
def takeSignificand (significand count : Nat) : List Char → Nat × Nat × List Char
  | [] => (significand, count, [])
  | c :: s =>
    if c.isDigit ∧ 10 * significand + digitValue c < 2 ^ 64 then
      takeSignificand (10 * significand + digitValue c) (count + 1) s
    else (significand, count, c :: s)

def startsWithDigit (s : List Char) : Bool :=
  (s.head?.map Char.isDigit).getD false

/-- Reads the exponent after its letter. A huge one is an error if it leaves more than zero. -/
def readExponent? (negative : Bool) (significand : Nat) (exponent : Int) (s : List Char) :
    Option (JsonNumber × List Char) := do
  let (down, s) := match s with
    | '-' :: s => (true, s)
    | '+' :: s => (false, s)
    | s => (false, s)
  let (n, rest) ← readNumber? s
  if n ≤ greatestExponent then
    let x ← ofParts? negative significand (if down then exponent - n else exponent + n)
    return (x, rest)
  else if significand ≠ 0 ∧ ¬down then none
  else
    let x ← ofParts? negative 0 0
    return (x, rest)

def readTail? (negative : Bool) (significand : Nat) (exponent : Int) (s : List Char) :
    Option (JsonNumber × List Char) :=
  match s with
  | 'e' :: s => readExponent? negative significand exponent s
  | 'E' :: s => readExponent? negative significand exponent s
  | s => (ofParts? negative significand exponent).map fun x => (x, s)

def readDecimals? (negative : Bool) (significand : Nat) (exponent : Int) (s : List Char) :
    Option (JsonNumber × List Char) :=
  let (significand, count, rest) := takeSignificand significand 0 s
  if startsWithDigit s then
    readTail? negative significand (exponent - count) (rest.dropWhile Char.isDigit)
  else none

def readUnsigned? (negative : Bool) (s : List Char) : Option (JsonNumber × List Char) :=
  if ¬startsWithDigit s then none
  else if s.head? = some '0' ∧ startsWithDigit (s.drop 1) then none
  else
    let (significand, _, rest) := takeSignificand 0 0 s
    let dropped := rest.takeWhile Char.isDigit
    match rest.drop dropped.length with
    | '.' :: s => readDecimals? negative significand dropped.length s
    | s =>
      if dropped.isEmpty ∧ s.head? ≠ some 'e' ∧ s.head? ≠ some 'E' then
        if ¬negative then (ofInt? significand).map fun n => (n, s)
        else if 0 < significand ∧ significand ≤ 2 ^ 63 then
          (ofInt? (-(significand : Int))).map fun n => (n, s)
        else (ofParts? negative significand 0).map fun n => (n, s)
      else readTail? negative significand dropped.length s

def read? : List Char → Option (JsonNumber × List Char)
  | '-' :: s => readUnsigned? true s
  | s => readUnsigned? false s

end JsonNumber

end RecordTables
