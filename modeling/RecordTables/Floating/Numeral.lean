import RecordTables.Floating.Shortest

/-! # Numerals of floating-point numbers

A style fixes how the shortest decimal is laid out: which exponents are written positionally,
whether a whole number keeps its point, and how an exponent is signed. -/

namespace RecordTables.Floating

open RecordTables.Text

/-- How a decimal is laid out. `positional` is asked for the exponent of the leading digit. -/
structure NumeralStyle where
  tie : Tie
  positional : Int → Bool
  wholePoint : Bool
  plusSign : Bool

namespace NumeralStyle

/-- Digits only, whatever the exponent, and no point after a whole number. -/
def plain : NumeralStyle where
  tie := .up
  positional := fun _ => true
  wholePoint := false
  plusSign := false

/-- Exponents from 16 up and below -4 are written out, a whole number ends in `.0`. -/
def diagnostic : NumeralStyle where
  tie := .up
  positional := fun e => -4 ≤ e && e < 16
  wholePoint := true
  plusSign := false

/-- The numbers of a document: exponents from 16 up and below -5 are written out with a sign. -/
def document : NumeralStyle where
  tie := .even
  positional := fun e => -5 ≤ e && e < 16
  wholePoint := true
  plusSign := true

/-- The numbers of a document in half the width: exponents from 13 up and below -6. -/
def singleDocument : NumeralStyle where
  tie := .even
  positional := fun e => -6 ≤ e && e < 13
  wholePoint := true
  plusSign := true

def positionalForm (style : NumeralStyle) (ds : List Char) (exponent : Int) : List Char :=
  let zeros (n : Nat) := List.replicate n '0'
  if 0 ≤ exponent then
    ds ++ zeros exponent.toNat ++ if style.wholePoint then ['.', '0'] else []
  else
    let places := (-exponent).toNat
    if places < ds.length then
      ds.take (ds.length - places) ++ '.' :: ds.drop (ds.length - places)
    else ['0', '.'] ++ zeros (places - ds.length) ++ ds

/-- A positive decimal with one digit before the point and an exponent. -/
def scientificForm (style : NumeralStyle) (ds : List Char) (leading : Int) : List Char :=
  let fraction := ds.drop 1
  let sign := if leading < 0 then ['-'] else if style.plusSign then ['+'] else []
  ds.take 1 ++ (if fraction.isEmpty then [] else '.' :: fraction) ++
    'e' :: sign ++ digits leading.natAbs

def decimal (style : NumeralStyle) (d : Decimal) : List Char :=
  let ds := digits d.digits
  let leading := d.exponent + ds.length - 1
  if style.positional leading then style.positionalForm ds d.exponent
  else style.scientificForm ds leading

def meaning (style : NumeralStyle) (f : Format) : Meaning → List Char
  | .undefined _ _ => "NaN".toList
  | .infinity negative => if negative then "-inf".toList else "inf".toList
  | .number negative significand exponent =>
    let d := if significand = 0 then ⟨0, 0⟩
      else (f.cell significand exponent).shortest style.tie
    if negative then '-' :: style.decimal d else style.decimal d

def single (style : NumeralStyle) (x : Single) : String :=
  String.ofList (style.meaning .single x.meaning)

def double (style : NumeralStyle) (x : Double) : String :=
  String.ofList (style.meaning .double x.meaning)

end NumeralStyle

end RecordTables.Floating
