import RecordTables.MappingError

/-! # Entities

An entity type declares the properties of its records in the order of the columns. A property read
from an instance of another type is an error. -/

namespace RecordTables

open RecordTables.Text

/-- The identity of an entity type. Two types with one name are told apart by their keys. -/
structure EntityType where
  key : Nat
  name : String
  deriving DecidableEq

def EntityType.outline (e : EntityType) : String :=
  "EntityType(" ++ e.name ++ ")"

structure Instance where
  type : EntityType
  fields : List Value

/-- One declared property. `getter` takes its value out of the fields of a record. -/
structure Property where
  name : String
  valueType : ValueType
  nullable : Bool
  unique : Bool
  references : Option EntityType
  getter : List Value → Value

def Property.outline (p : Property) : String :=
  "Property \x7b name: " ++ literal p.name ++ ", value_type: ValueType(" ++ p.valueType.name ++
    "), nullable: " ++ toString p.nullable ++ ", unique: " ++ toString p.unique ++ " \x7d"

/-- A property together with the type that declares it. -/
structure OwnedProperty extends Property where
  owner : EntityType

namespace OwnedProperty

/-- Reads the property of an instance whose type is only known now. -/
def read (p : OwnedProperty) (i : Instance) : Except MappingError Value :=
  if i.type = p.owner then .ok (p.getter i.fields)
  else .error (.propertyAccess p.owner.name p.name)

def accessorOutline (p : OwnedProperty) : String :=
  "Accessor(" ++ p.owner.name ++ ")"

end OwnedProperty

structure Entity where
  type : EntityType
  properties : List Property
  primaryKey : Option String
  tableName : Option String

namespace Entity

def name (e : Entity) : String :=
  e.type.name

def ownedProperties (e : Entity) : List OwnedProperty :=
  e.properties.map fun p => ⟨p, e.type⟩

end Entity

end RecordTables
