import RecordTables.Serializer.Shared

/-! # Codecs of PostgreSQL

Every type has a driver value of its own, and a codec takes nothing else. -/

namespace RecordTables.Codec.Postgres

/-- The codec between one kind of value and one kind of driver value. -/
def native {α : Type} (expected : String) (value : α → Value) (value? : Value → Option α)
    (driver : α → DriverValue) (driver? : DriverValue → Option α) : Codec where
  encoder v :=
    match value? v with
    | some a => .ok (driver a)
    | none => .error (.cannotEncode v expected)
  decoder v :=
    match driver? v with
    | some a => .ok (value a)
    | none => .error (.cannotDecode v expected)

def bool : Codec :=
  native "Bool" .bool (fun | .bool b => some b | _ => none)
    .boolean (fun | .boolean b => some b | _ => none)

def int16 : Codec :=
  native "I16" .int16 (fun | .int16 n => some n | _ => none)
    .smallInt (fun | .smallInt n => some n | _ => none)

def int32 : Codec :=
  native "I32" .int32 (fun | .int32 n => some n | _ => none)
    .integer (fun | .integer n => some n | _ => none)

def int64 : Codec :=
  native "I64" .int64 (fun | .int64 n => some n | _ => none)
    .bigInt (fun | .bigInt n => some n | _ => none)

def float32 : Codec :=
  native "F32" .float32 (fun | .float32 x => some x | _ => none)
    .real (fun | .real x => some x | _ => none)

def float64 : Codec :=
  native "F64" .float64 (fun | .float64 x => some x | _ => none)
    .double (fun | .double x => some x | _ => none)

def uuid : Codec :=
  native "Uuid" .uuid (fun | .uuid u => some u | _ => none)
    .uuid (fun | .uuid u => some u | _ => none)

def timestamp : Codec :=
  native "Timestamp" .timestamp (fun | .timestamp t => some t | _ => none)
    .timestamp (fun | .timestamp t => some t | _ => none)

def date : Codec :=
  native "Date" .date (fun | .date d => some d | _ => none)
    .date (fun | .date d => some d | _ => none)

def json : Codec :=
  native "Json" .json (fun | .json j => some j | _ => none)
    .json (fun | .json j => some j | _ => none)

end RecordTables.Codec.Postgres
