import RecordTables.Digest
import RecordTables.Json.Printer
import RecordTables.Value

/-! # Fingerprints of values

The octets that digests of values are taken of: the number of the kind, then the content, of a
floating-point number its bits and of a document its compact text. -/

namespace RecordTables

open Digest (number)

/-- The content of a value as octets. -/
def Value.contentOctets : Value → List UInt8
  | .null => []
  | .bool b => number 1 b.toNat
  | .int16 n => number 2 n.toInt
  | .int32 n => number 4 n.toInt
  | .int64 n => number 8 n.toInt
  | .float32 x => number 4 x.bits.toNat
  | .float64 x => number 8 x.bits.toNat
  | .char c => number 4 c.toNat
  | .text s => Digest.text s
  | .bytes bs => number 8 bs.length ++ bs
  | .uuid u => u.octets
  | .timestamp t =>
    number 4 (t.seconds / Clock.daySeconds) ++ number 4 (t.seconds % Clock.daySeconds) ++
      number 4 t.nanos
  | .date d => number 4 (Calendar.dayNumber d.year d.month d.day)
  | .json j => Digest.text j.compact

def Value.octets (v : Value) : List UInt8 :=
  number 8 v.ctorIdx ++ v.contentOctets

def Value.fingerprint [Digest] (v : Value) : UInt64 :=
  Digest.take v.octets

end RecordTables
