/-! # Wire types

The type tag that goes to the database with every bound value, whatever the dialect. -/

namespace RecordTables

/-- The type tag of a bound value. -/
inductive WireType where
  | boolean
  | smallInt
  | integer
  | bigInt
  | real
  | double
  | char
  | varchar
  | binary
  | uuid
  | timestamp
  | date
  | json
  deriving DecidableEq

namespace WireType

def all : List WireType :=
  [.boolean, .smallInt, .integer, .bigInt, .real, .double, .char, .varchar, .binary, .uuid,
    .timestamp, .date, .json]

def name : WireType → String
  | .boolean => "BOOLEAN"
  | .smallInt => "SMALLINT"
  | .integer => "INTEGER"
  | .bigInt => "BIGINT"
  | .real => "REAL"
  | .double => "DOUBLE"
  | .char => "CHAR"
  | .varchar => "VARCHAR"
  | .binary => "BINARY"
  | .uuid => "UUID"
  | .timestamp => "TIMESTAMP"
  | .date => "DATE"
  | .json => "JSON"

def label : WireType → String
  | .boolean => "Boolean"
  | .smallInt => "SmallInt"
  | .integer => "Integer"
  | .bigInt => "BigInt"
  | .real => "Real"
  | .double => "Double"
  | .char => "Char"
  | .varchar => "Varchar"
  | .binary => "Binary"
  | .uuid => "Uuid"
  | .timestamp => "Timestamp"
  | .date => "Date"
  | .json => "Json"

def ofLabel? (s : String) : Option WireType :=
  all.find? fun w => w.label = s

def isInteger : WireType → Bool
  | .smallInt => true
  | .integer => true
  | .bigInt => true
  | _ => false

end WireType

end RecordTables
