/-! # Texts

Texts as lists of characters: blanks at their ends, texts inside texts, tokens between quotes,
numbers in decimal, and sets of characters as tables of code points. -/

/- Powers and sums are the ones of the core language. Mathlib offers the same operations through its
algebraic classes; the core instances come before those, so a term means the same whether or not
Mathlib is imported. -/
attribute [instance (2000), default_instance (20000)] instPowNat
attribute [instance (2000)] Zero.ofOfNat0

namespace RecordTables.Text

def occursIn (part : List Char) : List Char → Bool
  | [] => part.isEmpty
  | c :: s => part.isPrefixOf (c :: s) || occursIn part s

/-! ## Blanks -/

/-- Whether Unicode gives `c` the property White_Space. -/
def isBlank (c : Char) : Bool :=
  let n := c.toNat
  (9 ≤ n && n ≤ 13) || n == 0x20 || n == 0x85 || n == 0xA0 || n == 0x1680 ||
    (0x2000 ≤ n && n ≤ 0x200A) || n == 0x2028 || n == 0x2029 || n == 0x202F || n == 0x205F ||
    n == 0x3000

def skipBlanks (s : List Char) : List Char :=
  s.dropWhile isBlank

def trim (s : List Char) : List Char :=
  (skipBlanks (skipBlanks s).reverse).reverse

/-! ## Quotes -/

/-- The content with every `quote` written twice. -/
def doubled (quote : Char) (s : List Char) : List Char :=
  s.flatMap fun c => if c = quote then [c, c] else [c]

/-- A token of SQL text between quotes, in which a quote of the content is written twice. -/
def quotedToken (quote : Char) (s : List Char) : List Char :=
  quote :: doubled quote s ++ [quote]

/-! ## Decimal digits -/

/-- The decimal digits of `n`, the most significant first, without leading zeros. -/
def digits (n : Nat) : List Char :=
  Nat.toDigits 10 n

/-- The decimal digits of `n` with leading zeros up to `width` digits. -/
def padded (width n : Nat) : List Char :=
  List.replicate (width - (digits n).length) '0' ++ digits n

def signedDigits (n : Int) : List Char :=
  if n < 0 then '-' :: digits n.natAbs else digits n.natAbs

def digitValue (c : Char) : Nat :=
  c.toNat - '0'.toNat

def ofDigits (s : List Char) : Nat :=
  s.foldl (fun n c => 10 * n + digitValue c) 0

/-- Reads from `least` to `most` decimal digits, as many as there are, and leaves the rest. -/
def readDigits? (least most : Nat) (s : List Char) : Option (Nat × List Char) :=
  let ds := (s.take most).takeWhile Char.isDigit
  if ds.length < least then none else some (ofDigits ds, s.drop ds.length)

/-- Reads the longest run of decimal digits, which must not be empty. -/
def readNumber? (s : List Char) : Option (Nat × List Char) :=
  readDigits? 1 s.length s

/-! ## Ranges of code points -/

abbrev CodeRange := Nat × Nat

/-- Whether a range among those from `low` up to `high` holds `n`, the ranges being ascending.
Halves the candidates `steps` times at most. -/
def inRanges (ranges : Array CodeRange) (n : Nat) : (steps low high : Nat) → Bool
  | 0, _, _ => false
  | steps + 1, low, high =>
    if low < high then
      let middle := (low + high) / 2
      match ranges[middle]? with
      | none => false
      | some (first, last) =>
        if n < first then inRanges ranges n steps low middle
        else if last < n then inRanges ranges n steps (middle + 1) high
        else true
    else false

def isWithin (ranges : Array CodeRange) (c : Char) : Bool :=
  inRanges ranges c.toNat ranges.size 0 ranges.size

end RecordTables.Text
