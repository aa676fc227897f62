/-! # Digests

A digest is a number of 64 bits taken of octets. What is bound to queries is compared by digests
first, so equal digests of different octets matter. Nothing else is asked of the way in which
digests are taken: it is an instance of `Digest`, which stays open in the theory. Programs take
SipHash with a key of zeros, one round for each word and three rounds at the end. -/

namespace RecordTables

/-- A way to take digests. -/
class Digest where
  take : List UInt8 → UInt64

namespace Digest

/-- The octets of a number in two's complement, the least significant one first. -/
def number : Nat → Int → List UInt8
  | 0, _ => []
  | width + 1, n => (n % 256).toNat.toUInt8 :: number width (n / 256)

/-- The octets of a text, which ends with an octet that is in no text. -/
def text (s : String) : List UInt8 :=
  s.toUTF8.data.toList ++ [0xFF]

theorem text_injective : Function.Injective text := by
  intro s t h
  have hdata : s.toUTF8.data.toList = t.toUTF8.data.toList := List.append_cancel_right h
  exact String.toByteArray_inj.mp (ByteArray.ext (Array.toList_inj.mp hdata))

end Digest

namespace SipHash

structure State where
  v0 : UInt64
  v1 : UInt64
  v2 : UInt64
  v3 : UInt64

def rotate (x n : UInt64) : UInt64 :=
  x <<< n ||| x >>> (64 - n)

def State.round (s : State) : State :=
  let a := s.v0 + s.v1
  let b := rotate s.v1 13 ^^^ a
  let c := s.v2 + s.v3
  let d := rotate s.v3 16 ^^^ c
  let e := rotate a 32 + d
  let f := c + b
  ⟨e, rotate b 17 ^^^ f, rotate f 32, rotate d 21 ^^^ e⟩

def State.absorb (s : State) (word : UInt64) : State :=
  let next := { s with v3 := s.v3 ^^^ word }.round
  { next with v0 := next.v0 ^^^ word }

/-- The word of at most eight octets, the least significant one first. -/
def word : List UInt8 → UInt64
  | [] => 0
  | b :: bs => b.toUInt64 ||| word bs <<< 8

/-- The state after all octets, of which `length` is the count. The last word has less than eight of
them, and the count in its highest octet. -/
def State.absorbAll (length : Nat) (s : State) : List UInt8 → State
  | b₀ :: b₁ :: b₂ :: b₃ :: b₄ :: b₅ :: b₆ :: b₇ :: bs =>
    (s.absorb (word [b₀, b₁, b₂, b₃, b₄, b₅, b₆, b₇])).absorbAll length bs
  | bs => s.absorb (word bs ||| length.toUInt64 <<< 56)

/-- The state for a key of zeros. -/
def State.start : State :=
  ⟨0x736f6d6570736575, 0x646f72616e646f6d, 0x6c7967656e657261, 0x7465646279746573⟩

def digest (octets : List UInt8) : UInt64 :=
  let s := State.start.absorbAll octets.length octets
  let last := { s with v2 := s.v2 ^^^ 0xFF }.round.round.round
  last.v0 ^^^ last.v1 ^^^ last.v2 ^^^ last.v3

end SipHash

instance : Digest :=
  ⟨SipHash.digest⟩

end RecordTables
