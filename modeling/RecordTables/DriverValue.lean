import RecordTables.Value

/-! # Driver values

What goes to the database and comes back from it. Equality compares floating-point numbers as
numbers, so an undefined result differs from itself. -/

namespace RecordTables

open RecordTables.Floating

/-- A value in the form that the database driver takes. -/
inductive DriverValue where
  | null
  | boolean (b : Bool)
  | smallInt (n : Int16)
  | integer (n : Int32)
  | bigInt (n : Int64)
  | real (x : Single)
  | double (x : Double)
  | text (s : String)
  | blob (bs : List UInt8)
  | uuid (u : Uuid)
  | timestamp (t : Timestamp)
  | date (d : Date)
  | json (j : Json)

namespace DriverValue

def isNull : DriverValue → Bool
  | .null => true
  | _ => false

def kind : DriverValue → String
  | .null => "Null"
  | .boolean _ => "Boolean"
  | .smallInt _ => "SmallInt"
  | .integer _ => "Integer"
  | .bigInt _ => "BigInt"
  | .real _ => "Real"
  | .double _ => "Double"
  | .text _ => "Text"
  | .blob _ => "Blob"
  | .uuid _ => "Uuid"
  | .timestamp _ => "Timestamp"
  | .date _ => "Date"
  | .json _ => "Json"

def same : DriverValue → DriverValue → Bool
  | .null, .null => true
  | .boolean a, .boolean b => a = b
  | .smallInt a, .smallInt b => a = b
  | .integer a, .integer b => a = b
  | .bigInt a, .bigInt b => a = b
  | .real a, .real b => a.meaning.sameNumber b.meaning
  | .double a, .double b => a.meaning.sameNumber b.meaning
  | .text a, .text b => a = b
  | .blob a, .blob b => a = b
  | .uuid a, .uuid b => a = b
  | .timestamp a, .timestamp b => a = b
  | .date a, .date b => a = b
  | .json a, .json b => a.same b
  | _, _ => false

end DriverValue

end RecordTables
