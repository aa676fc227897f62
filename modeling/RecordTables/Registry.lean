import RecordTables.Serializer.Builtin

/-! # Registries

A registry holds at most one serializer for each pair of a value type and a dialect. Whoever
registers a pair first keeps it. -/

namespace RecordTables

/-- Serializers in the order of their registration. -/
structure Registry where
  serializers : List Serializer

namespace Registry

def empty : Registry :=
  ⟨[]⟩

def withBuiltins : Registry :=
  ⟨Dialect.all.flatMap Serializer.builtins⟩

def find? (r : Registry) (type : ValueType) (dialect : Dialect) : Option Serializer :=
  r.serializers.find? fun s => s.serves type dialect

def contains (r : Registry) (type : ValueType) (dialect : Dialect) : Bool :=
  r.serializers.any fun s => s.serves type dialect

/-- The serializer of a pair; there is no other way to resolve a type. -/
def resolve (r : Registry) (type : ValueType) (dialect : Dialect) :
    Except SerializerError Serializer :=
  match r.find? type dialect with
  | some s => .ok s
  | none => .error (.unknownType type dialect)

/-- Adds a serializer unless its pair has one. -/
def register (r : Registry) (s : Serializer) : Except SerializerError Registry :=
  if r.contains s.valueType s.dialect then .error (.duplicate s.valueType s.dialect)
  else .ok ⟨r.serializers ++ [s]⟩

def size (r : Registry) : Nat :=
  r.serializers.length

def forDialect (r : Registry) (dialect : Dialect) : List Serializer :=
  r.serializers.filter fun s => s.dialect = dialect

def displays (r : Registry) (dialect : Dialect) : List String :=
  ((r.forDialect dialect).map Serializer.display).mergeSort fun a b => a ≤ b

end Registry

end RecordTables
