import RecordTables.Text

/-! # Binary floating-point formats

A pattern of bits stands for a signed multiple of a power of two, an infinity or no number at all.
Reading a pattern is exact; the pattern of a ratio is that of the nearest multiple, a half going to
the even one. -/

namespace RecordTables.Floating

/-- The widths of the fraction field and of the exponent field of a pattern. -/
structure Format where
  fractionBits : Nat
  exponentBits : Nat
  deriving DecidableEq

def Format.single : Format := ⟨23, 8⟩

def Format.double : Format := ⟨52, 11⟩

/-- What a pattern stands for. A number is `significand * 2 ^ exponent` up to its sign. -/
inductive Meaning where
  | number (negative : Bool) (significand : Nat) (exponent : Int)
  | infinity (negative : Bool)
  | undefined (negative : Bool) (payload : Nat)
  deriving DecidableEq

namespace Format

/-- The exponent of the spacing between the smallest numbers. -/
def leastExponent (f : Format) : Int :=
  2 - 2 ^ (f.exponentBits - 1) - f.fractionBits

def infinityBits (f : Format) : Nat :=
  (2 ^ f.exponentBits - 1) * 2 ^ f.fractionBits

def signBit (f : Format) : Nat :=
  2 ^ (f.exponentBits + f.fractionBits)

def isNegative (f : Format) (bits : Nat) : Bool :=
  bits / f.signBit % 2 = 1

/-- What the pattern `bits` stands for. -/
def meaning (f : Format) (bits : Nat) : Meaning :=
  let negative := f.isNegative bits
  let field := bits / 2 ^ f.fractionBits % 2 ^ f.exponentBits
  let fraction := bits % 2 ^ f.fractionBits
  if field = 2 ^ f.exponentBits - 1 then
    if fraction = 0 then .infinity negative else .undefined negative fraction
  else if field = 0 then .number negative fraction f.leastExponent
  else .number negative (2 ^ f.fractionBits + fraction) (f.leastExponent + (field - 1 : Nat))

end Format

/-- The integer nearest to `num / den`, a half going to the even neighbour. -/
def roundHalfEven (num den : Nat) : Nat :=
  let quotient := num / den
  let remainder := num % den
  if 2 * remainder < den then quotient
  else if den < 2 * remainder then quotient + 1
  else if quotient % 2 = 0 then quotient
  else quotient + 1

/-- The greatest power of two not above `num / den`, both of them positive. -/
def floorLog2 (num den : Nat) : Int :=
  let e : Int := (num.log2 : Int) - den.log2
  if den * 2 ^ e.toNat ≤ num * 2 ^ (-e).toNat then e else e - 1

namespace Format

/-- The pattern of the number nearest to `num / den`, infinity where that is too large. -/
def nearestRatio (f : Format) (num den : Nat) : Nat :=
  if num = 0 then 0
  else
    let exponent := max (floorLog2 num den - f.fractionBits) f.leastExponent
    let significand := roundHalfEven (num * 2 ^ (-exponent).toNat) (den * 2 ^ exponent.toNat)
    let bits :=
      if significand < 2 ^ f.fractionBits then significand
      else (exponent - f.leastExponent).toNat * 2 ^ f.fractionBits + significand
    min bits f.infinityBits

/-- The pattern with the given sign and the bits of a pattern without one. -/
def withSign (f : Format) (negative : Bool) (bits : Nat) : Nat :=
  if negative then f.signBit + bits else bits

def nearest (f : Format) (negative : Bool) (significand : Nat) (exponent : Int) : Nat :=
  f.withSign negative
    (f.nearestRatio (significand * 2 ^ exponent.toNat) (2 ^ (-exponent).toNat))

/-- A pattern without a number, made quiet, with its payload moved to the top of the fraction. -/
def quiet (f source : Format) (negative : Bool) (payload : Nat) : Nat :=
  let moved := payload * 2 ^ (f.fractionBits - source.fractionBits) /
    2 ^ (source.fractionBits - f.fractionBits)
  let rest := moved % 2 ^ (f.fractionBits - 1)
  f.withSign negative (f.infinityBits + 2 ^ (f.fractionBits - 1) + rest)

/-- The pattern of `f` nearest to what a pattern of `source` stands for. -/
def convert (f source : Format) (bits : Nat) : Nat :=
  match source.meaning bits with
  | .number negative significand exponent => f.nearest negative significand exponent
  | .infinity negative => f.withSign negative f.infinityBits
  | .undefined negative payload => f.quiet source negative payload

end Format

/-- A pattern of 32 bits. -/
structure Single where
  bits : UInt32
  deriving DecidableEq

/-- A pattern of 64 bits. -/
structure Double where
  bits : UInt64
  deriving DecidableEq

namespace Single

def meaning (x : Single) : Meaning :=
  Format.single.meaning x.bits.toNat

def widen (x : Single) : Double :=
  ⟨UInt64.ofNat (Format.double.convert Format.single x.bits.toNat)⟩

def ofInt (n : Int) : Single :=
  ⟨UInt32.ofNat (Format.single.nearest (n < 0) n.natAbs 0)⟩

end Single

namespace Double

def meaning (x : Double) : Meaning :=
  Format.double.meaning x.bits.toNat

def narrow (x : Double) : Single :=
  ⟨UInt32.ofNat (Format.single.convert Format.double x.bits.toNat)⟩

def ofInt (n : Int) : Double :=
  ⟨UInt64.ofNat (Format.double.nearest (n < 0) n.natAbs 0)⟩

/-- Whether the pattern stands for a number, so neither infinity nor an undefined result. -/
def isFinite (x : Double) : Bool :=
  match x.meaning with
  | .number _ _ _ => true
  | _ => false

def magnitude (x : Double) : Double :=
  ⟨UInt64.ofNat (x.bits.toNat % Format.double.signBit)⟩

def negate (x : Double) : Double :=
  ⟨UInt64.ofNat (Format.double.withSign (!Format.double.isNegative x.bits.toNat)
    (x.bits.toNat % Format.double.signBit))⟩

def ofRatio (num den : Nat) : Double :=
  ⟨UInt64.ofNat (Format.double.nearestRatio num den)⟩

end Double

/-- Whether two meanings are equal as numbers: zeros of either sign are, an undefined result is
equal to nothing. -/
def Meaning.sameNumber : Meaning → Meaning → Bool
  | .number s m e, .number t n d => if m = 0 ∧ n = 0 then true else s = t ∧ m = n ∧ e = d
  | .infinity s, .infinity t => s = t
  | _, _ => false

end RecordTables.Floating
