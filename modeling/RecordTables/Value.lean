import RecordTables.Json
import RecordTables.Timestamp
import RecordTables.Uuid

/-! # Values

What a property of a record can hold, and the types that properties can have. Two values are the
same if they are of the same kind and hold the same: floating-point numbers the same bits, documents
equal trees. -/

namespace RecordTables

open RecordTables.Floating

/-- The type of a property: one of the built-in types, or an application's own. -/
inductive ValueType where
  | bool
  | int16
  | int32
  | int64
  | float32
  | float64
  | char
  | text
  | bytes
  | uuid
  | timestamp
  | date
  | json
  | custom (name : String)
  deriving DecidableEq

namespace ValueType

def name : ValueType → String
  | .bool => "bool"
  | .int16 => "i16"
  | .int32 => "i32"
  | .int64 => "i64"
  | .float32 => "f32"
  | .float64 => "f64"
  | .char => "char"
  | .text => "alloc::string::String"
  | .bytes => "alloc::vec::Vec<u8>"
  | .uuid => "uuid::Uuid"
  | .timestamp => "chrono::datetime::DateTime<chrono::offset::utc::Utc>"
  | .date => "chrono::naive::date::NaiveDate"
  | .json => "serde_json::value::Value"
  | .custom name => name

end ValueType

/-- A value of a property. `null` stands for the absent value of any type. -/
inductive Value where
  | null
  | bool (b : Bool)
  | int16 (n : Int16)
  | int32 (n : Int32)
  | int64 (n : Int64)
  | float32 (x : Single)
  | float64 (x : Double)
  | char (c : Char)
  | text (s : String)
  | bytes (bs : List UInt8)
  | uuid (u : Uuid)
  | timestamp (t : Timestamp)
  | date (d : Date)
  | json (j : Json)

namespace Value

def isNull : Value → Bool
  | .null => true
  | _ => false

def kind : Value → String
  | .null => "Null"
  | .bool _ => "Bool"
  | .int16 _ => "I16"
  | .int32 _ => "I32"
  | .int64 _ => "I64"
  | .float32 _ => "F32"
  | .float64 _ => "F64"
  | .char _ => "Char"
  | .text _ => "Text"
  | .bytes _ => "Bytes"
  | .uuid _ => "Uuid"
  | .timestamp _ => "Timestamp"
  | .date _ => "Date"
  | .json _ => "Json"

def same : Value → Value → Bool
  | .null, .null => true
  | .bool a, .bool b => a = b
  | .int16 a, .int16 b => a = b
  | .int32 a, .int32 b => a = b
  | .int64 a, .int64 b => a = b
  | .float32 a, .float32 b => a = b
  | .float64 a, .float64 b => a = b
  | .char a, .char b => a = b
  | .text a, .text b => a = b
  | .bytes a, .bytes b => a = b
  | .uuid a, .uuid b => a = b
  | .timestamp a, .timestamp b => a = b
  | .date a, .date b => a = b
  | .json a, .json b => a.same b
  | _, _ => false

def ofOption : Option Value → Value
  | none => .null
  | some v => v

def valueType? : Value → Option ValueType
  | .null => none
  | .bool _ => some .bool
  | .int16 _ => some .int16
  | .int32 _ => some .int32
  | .int64 _ => some .int64
  | .float32 _ => some .float32
  | .float64 _ => some .float64
  | .char _ => some .char
  | .text _ => some .text
  | .bytes _ => some .bytes
  | .uuid _ => some .uuid
  | .timestamp _ => some .timestamp
  | .date _ => some .date
  | .json _ => some .json

end Value

end RecordTables
