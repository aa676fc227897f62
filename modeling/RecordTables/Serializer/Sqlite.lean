import RecordTables.Serializer.Shared
import RecordTables.Json.Printer
import RecordTables.Json.Reader

/-! # Codecs of SQLite

The engine has few storage classes: truth values and integers travel as integers of 64 bits,
floating-point numbers in 64 bits, and identifiers, moments, dates and documents as text. -/

namespace RecordTables.Codec.Sqlite

open RecordTables.Floating

/-- Truth values are stored as 0 and 1. -/
def bool : Codec where
  encoder
    | .bool b => .ok (.bigInt (if b then 1 else 0))
    | v => .error (.cannotEncode v "Bool")
  decoder v :=
    match v with
    | .bigInt n =>
      if n = 0 then .ok (.bool false)
      else if n = 1 then .ok (.bool true)
      else .error (.cannotDecode v "Bool")
    | .boolean b => .ok (.bool b)
    | v => .error (.cannotDecode v "Bool")

/-- An integer of any width is stored in 64 bits. -/
def encodeInteger : Encoder
  | .int16 n => .ok (.bigInt n.toInt64)
  | .int32 n => .ok (.bigInt n.toInt64)
  | .int64 n => .ok (.bigInt n)
  | v => .error (.cannotEncode v "integer")

def integer? : DriverValue → Option Int
  | .bigInt n => some n.toInt
  | .integer n => some n.toInt
  | .smallInt n => some n.toInt
  | _ => none

def decodeInteger (expected : String) (low high : Int) (value : Int → Value) : Decoder := fun v =>
  match integer? v with
  | some n => if low ≤ n ∧ n ≤ high then .ok (value n) else .error (.cannotDecode v expected)
  | none => .error (.cannotDecode v expected)

def int16 : Codec where
  encoder := encodeInteger
  decoder := decodeInteger "I16" Int16.minValue.toInt Int16.maxValue.toInt
    fun n => .int16 (.ofInt n)

def int32 : Codec where
  encoder := encodeInteger
  decoder := decodeInteger "I32" Int32.minValue.toInt Int32.maxValue.toInt
    fun n => .int32 (.ofInt n)

def int64 : Codec where
  encoder := encodeInteger
  decoder := decodeInteger "I64" Int64.minValue.toInt Int64.maxValue.toInt
    fun n => .int64 (.ofInt n)

def encodeFloat : Encoder
  | .float32 x => .ok (.double x.widen)
  | .float64 x => .ok (.double x)
  | v => .error (.cannotEncode v "float")

/-- Floating-point numbers of 32 bits. A number of 64 bits is rounded to them. -/
def float32 : Codec where
  encoder := encodeFloat
  decoder
    | .double x => .ok (.float32 x.narrow)
    | .real x => .ok (.float32 x)
    | v => .error (.cannotDecode v "F32")

def float64 : Codec where
  encoder := encodeFloat
  decoder
    | .double x => .ok (.float64 x)
    | .real x => .ok (.float64 x.widen)
    | v => .error (.cannotDecode v "F64")

/-- Identifiers are stored in their written form and also read from their octets. -/
def uuid : Codec where
  encoder
    | .uuid u => .ok (.text u.text)
    | v => .error (.cannotEncode v "Uuid")
  decoder v :=
    let read : Option Uuid := match v with
      | .text s => Uuid.read? s.toList
      | .blob bs => Uuid.ofOctets? bs
      | _ => none
    match read with
    | some u => .ok (.uuid u)
    | none => .error (.cannotDecode v "Uuid")

/-- Decodes text that `read?` reads. -/
def decodeText (expected : String) (read? : String → Option Value) : Decoder := fun v =>
  match v with
  | .text s =>
    match read? s with
    | some value => .ok value
    | none => .error (.cannotDecode v expected)
  | v => .error (.cannotDecode v expected)

theorem decodeText_eq_ok {expected s : String} {read? : String → Option Value} {value : Value}
    (h : read? s = some value) : (decodeText expected read?).run (.text s) = .ok value := by
  simp only [Decoder.run, DriverValue.isNull, Bool.false_eq_true, if_false, decodeText, h]

theorem decodeText_eq_error {expected s : String} {read? : String → Option Value}
    (h : read? s = none) :
    (decodeText expected read?).run (.text s) = .error (.cannotDecode (.text s) expected) := by
  simp only [Decoder.run, DriverValue.isNull, Bool.false_eq_true, if_false, decodeText, h]

/-- Moments are stored in their written form with zone `Z` and read in the strict one. -/
def timestamp : Codec where
  encoder
    | .timestamp t => .ok (.text t.text)
    | v => .error (.cannotEncode v "Timestamp")
  decoder := decodeText "Timestamp" fun s => (Timestamp.read? s.toList).map .timestamp

def date : Codec where
  encoder
    | .date d => .ok (.text d.text)
    | v => .error (.cannotEncode v "Date")
  decoder := decodeText "Date" fun s => (Date.read? s.toList).map .date

/-- Documents are stored in their compact form. -/
def json : Codec where
  encoder
    | .json j => .ok (.text j.compact)
    | v => .error (.cannotEncode v "Json")
  decoder := decodeText "Json" fun s => (Json.read? s).map .json

end RecordTables.Codec.Sqlite
