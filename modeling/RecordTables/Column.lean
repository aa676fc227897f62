import RecordTables.Mapper
import RecordTables.Query

/-! # Columns

A column stores one property with the serializer resolved for it. It is the primary key, a foreign
key, or plain. A foreign key is linked, at most once, to the position of the table that it
references among the tables of its schema. -/

namespace RecordTables

/-- What a column is for. -/
inductive ColumnRole where
  | plain
  | primary
  | foreign (references : EntityType) (target : Option Nat)
  deriving DecidableEq

/-- A property stored in a table. -/
structure Column where
  property : OwnedProperty
  serializer : Serializer
  role : ColumnRole

namespace Column

def ofProperty (p : OwnedProperty) (s : Serializer) : Column :=
  match p.references with
  | none => ⟨p, s, .plain⟩
  | some references => ⟨p, s, .foreign references none⟩

def ofKey (p : OwnedProperty) (s : Serializer) : Column :=
  ⟨p, s, .primary⟩

def name (c : Column) : String :=
  c.property.name

def owner (c : Column) : EntityType :=
  c.property.owner

def valueType (c : Column) : ValueType :=
  c.property.valueType

def dbType (c : Column) : String :=
  c.serializer.dbType

def wireType (c : Column) : WireType :=
  c.serializer.wireType

def isPrimary (c : Column) : Bool :=
  c.role = .primary

def references? (c : Column) : Option EntityType :=
  match c.role with
  | .foreign references _ => some references
  | _ => none

def isForeign (c : Column) : Bool :=
  c.references?.isSome

def isUnique (c : Column) : Bool :=
  c.isPrimary || c.property.unique

def isNotNull (c : Column) : Bool :=
  c.isPrimary || !c.property.nullable

/-- Whether the database makes up the value: an integer key that its record may leave out. -/
def isAutoIncrement (c : Column) : Bool :=
  c.isPrimary && c.property.nullable && c.wireType.isInteger

def roleName (c : Column) : String :=
  match c.role with
  | .plain => "Plain"
  | .primary => "Primary"
  | .foreign _ _ => "Foreign"

/-- The position of the table that a foreign key is linked to. -/
def target (c : Column) : Except MappingError Nat :=
  match c.role with
  | .foreign _ (some position) => .ok position
  | .foreign references none =>
    .error (.internal (.neverLinked c.owner.name c.name references.name))
  | _ => .error (.notForeignKey c.owner.name c.name)

/-- Links a foreign key to the table at a position. -/
def link (c : Column) (position : Nat) : Except MappingError Column :=
  match c.role with
  | .foreign references none => .ok { c with role := .foreign references (some position) }
  | .foreign _ (some _) => .error (.internal (.linkedTwice c.owner.name c.name))
  | _ => .error (.notForeignKey c.owner.name c.name)

def value (c : Column) (i : Instance) : Except MappingError Value :=
  c.property.read i

def bind (c : Column) (v : Value) : QueryValue :=
  .ofSerializer c.name v c.serializer

def queryValue (c : Column) (i : Instance) : Except MappingError QueryValue := do
  return c.bind (← c.value i)

def decode (c : Column) (v : DriverValue) : Except MappingError Value :=
  (c.serializer.decode v).mapError .serializer

def display (c : Column) : String :=
  c.name ++ ": " ++ c.dbType ++
    match c.role with
    | .plain => ""
    | .primary => if c.isAutoIncrement then " PK AUTO" else " PK"
    | .foreign references _ => " FK -> " ++ references.name

end Column

end RecordTables
