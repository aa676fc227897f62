import RecordTables.Entity
import RecordTables.Registry

/-! # Mappers

A mapper finds the serializer of a property: first among the overrides of the entity type, then in
the scope of the schema, then in the registry. It also knows which entity types may be the input of
a query. -/

namespace RecordTables

/-- A serializer for the values of one type in the properties of one entity type. -/
structure Override where
  owner : EntityType
  serializer : Serializer

def Override.serves (o : Override) (owner : EntityType) (type : ValueType) : Bool :=
  o.owner = owner ∧ o.serializer.valueType = type

/-- What serializers are found with. -/
structure Mapper where
  dialect : Dialect
  registry : Registry
  overrides : List Override
  inputs : List EntityType

namespace Mapper

def withRegistry (dialect : Dialect) (registry : Registry) : Mapper :=
  ⟨dialect, registry, [], []⟩

def ofDialect (dialect : Dialect) : Mapper :=
  withRegistry dialect .withBuiltins

def override? (m : Mapper) (owner : EntityType) (type : ValueType) : Option Serializer :=
  (m.overrides.find? fun o => o.serves owner type).map (·.serializer)

def lookup (m : Mapper) (owner : EntityType) (type : ValueType) (scope : List Serializer) :
    Except SerializerError Serializer :=
  match m.override? owner type with
  | some s => .ok s
  | none =>
    match scope.find? fun s => s.serves type m.dialect with
    | some s => .ok s
    | none => m.registry.resolve type m.dialect

def registerSerializer (m : Mapper) (s : Serializer) : Except MappingError Mapper :=
  match m.registry.register s with
  | .ok registry => .ok { m with registry := registry }
  | .error e => .error (.serializer e)

theorem registerSerializer_dialect {m m' : Mapper} {s : Serializer}
    (h : m.registerSerializer s = .ok m') : m'.dialect = m.dialect := by
  unfold registerSerializer at h
  split at h <;> cases h
  rfl

def registerOverride (m : Mapper) (owner : EntityType) (s : Serializer) :
    Except MappingError Mapper :=
  if m.overrides.any fun o => o.serves owner s.valueType then
    .error (.serializer (.duplicate s.valueType s.dialect))
  else .ok { m with overrides := m.overrides ++ [⟨owner, s⟩] }

/-- The serializer of a value that an entity type owns, outside any schema. -/
def getSerializer (m : Mapper) (owner : EntityType) (type : ValueType) :
    Except MappingError Serializer :=
  match m.lookup owner type [] with
  | .ok s => .ok s
  | .error e => .error (.unresolved owner.name type e)

def resolveProperty (m : Mapper) (p : OwnedProperty) (scope : List Serializer) :
    Except MappingError Serializer :=
  match m.lookup p.owner p.valueType scope with
  | .ok s => .ok s
  | .error _ => .error (.serializerNotFound p.owner.name p.name p.valueType)

/-- Accepts an entity type as the input of queries; every property must have a serializer. -/
def registerInput (m : Mapper) (e : Entity) : Except MappingError Mapper := do
  let _ ← e.ownedProperties.mapM fun p => m.resolveProperty p []
  return { m with inputs := if e.type ∈ m.inputs then m.inputs else m.inputs ++ [e.type] }

def isRegistered (m : Mapper) (type : EntityType) : Bool :=
  type ∈ m.inputs

end Mapper

end RecordTables
