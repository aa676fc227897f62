import RecordTables.Floating.Format
import RecordTables.Text

/-! # Shortest decimals

Among the decimal numbers that round to a given pattern of bits, the one with the fewest digits,
and of those the nearest. The search tries one digit, two digits and so on; on each decimal grid
only the two neighbours of the exact value can be the answer. -/

namespace RecordTables.Floating

open RecordTables.Text

/-- The number `digits * 10 ^ exponent`. -/
structure Decimal where
  digits : Nat
  exponent : Int
  deriving DecidableEq

/-- Which neighbour is taken where both are equally near. -/
inductive Tie where
  | up
  | even
  deriving DecidableEq

/-- The reals that round to one pattern: from `low / den` to `high / den` around `value / den`. -/
structure Cell where
  low : Nat
  value : Nat
  high : Nat
  den : Nat
  closed : Bool

/-- The cell of the number `significand * 2 ^ exponent`. It reaches half way to each neighbour, and
holds its ends iff the significand is even. Below a power of two the neighbour is nearer. -/
def Format.cell (f : Format) (significand : Nat) (exponent : Int) : Cell :=
  let scale := 2 ^ (exponent - 2).toNat
  let down := if significand = 2 ^ f.fractionBits ∧ exponent ≠ f.leastExponent then 1 else 2
  { low := (4 * significand - down) * scale
    value := 4 * significand * scale
    high := (4 * significand + 2) * scale
    den := 2 ^ (2 - exponent).toNat
    closed := significand % 2 = 0 }

/-- The greatest power of ten not above `num / den`, both of them positive. -/
def floorLog10 (num den : Nat) : Int :=
  if den ≤ num then ((digits (num / den)).length : Int) - 1
  else
    let length := (digits (den / num)).length
    if den ≤ num * 10 ^ (length - 1) then 1 - (length : Int) else -(length : Int)

namespace Cell

/-- Whether the cell holds `multiple * unit / (den * up)`, where `unit` and `up` scale the grid. -/
def holds (c : Cell) (up unit multiple : Nat) : Bool :=
  if c.closed then c.low * up ≤ multiple * unit ∧ multiple * unit ≤ c.high * up
  else c.low * up < multiple * unit ∧ multiple * unit < c.high * up

/-- The neighbour of the value among the decimals of `count` digits that the cell holds, the nearer
one if it holds both. -/
def onGrid? (c : Cell) (tie : Tie) (count : Nat) : Option Decimal :=
  let exponent := floorLog10 c.value c.den + 1 - count
  let up := 10 ^ (-exponent).toNat
  let unit := c.den * 10 ^ exponent.toNat
  let below := c.value * up / unit
  let decimal (n : Nat) : Decimal :=
    if n = 10 ^ count then ⟨1, exponent + count⟩ else ⟨n, exponent⟩
  match c.holds up unit below, c.holds up unit (below + 1) with
  | false, false => none
  | true, false => some (decimal below)
  | false, true => some (decimal (below + 1))
  | true, true =>
    let twice := 2 * (c.value * up)
    let middle := (2 * below + 1) * unit
    if twice < middle then some (decimal below)
    else if middle < twice then some (decimal (below + 1))
    else match tie with
      | .up => some (decimal (below + 1))
      | .even => some (decimal (if below % 2 = 0 then below else below + 1))

/-- The shortest decimal of the cell; seventeen digits tell all patterns of 64 bits apart. -/
def shortest (c : Cell) (tie : Tie) : Decimal :=
  ((List.range' 1 17).findSome? (c.onGrid? tie)).getD ⟨0, 0⟩

end Cell

end RecordTables.Floating
