import RecordTables.Column

/-! # Tables

A table stores the records of one entity type, one column for each property in their order, one of
them the primary key. Building a table reports the first of several faults; the order is part of
what it promises. -/

namespace RecordTables

/-- The names that repeat a name before them, once each, in the order of their second appearance,
given the names seen before and those of them found repeated. -/
def repeatedAfter (seen repeated : List String) : List String → List String
  | [] => repeated
  | name :: rest =>
    if name ∈ seen then
      repeatedAfter seen (if name ∈ repeated then repeated else repeated ++ [name]) rest
    else repeatedAfter (seen ++ [name]) repeated rest

/-- The names that appear more than once, in the order of their second appearance. -/
def repeatedNames (names : List String) : List String :=
  repeatedAfter [] [] names

def checkUnique (scope : String) (names : List String) : Except MappingError Unit :=
  match repeatedNames names with
  | [] => .ok ()
  | repeated => .error (.notUniqueName scope repeated)

def checkName (name : String) : Except MappingError Unit :=
  (Identifier.check name).mapError .invalidName

/-- The table of an entity type. The primary key stands between the columns before and after it. -/
structure Table where
  entity : EntityType
  name : String
  before : List Column
  primary : Column
  after : List Column
  schema : Option String

/-- The tables of a schema by position. A table that is no longer kept has left a gap. -/
abbrev Neighbours := List (Option Table)

namespace Table

def columns (t : Table) : List Column :=
  t.before ++ t.primary :: t.after

/-- Resolves the serializers of properties that are not the primary key. -/
def resolveColumn (mapper : Mapper) (scope : List Serializer)
    (column : OwnedProperty → Serializer → Column) (p : OwnedProperty) :
    Except MappingError Column := do
  checkName p.name
  let s ← mapper.resolveProperty p scope
  return column p s

/-- Builds the table of an entity. The checks are made in this order: that there are properties,
the name of the table, distinct names of properties, the key and that it references nothing, and
then for each property its name and its serializer. -/
def build (mapper : Mapper) (scope : List Serializer) (entity : Entity) (key : String)
    (name : Option String) : Except MappingError Table := do
  let properties := entity.ownedProperties
  if properties.isEmpty then throw (.emptyEntity entity.name)
  let name := name.getD entity.name
  checkName name
  checkUnique name (properties.map (·.name))
  match properties.span fun p => p.name ≠ key with
  | (_, []) => throw (.missingPrimaryKey entity.name key)
  | (before, primary :: after) =>
    match primary.references with
    | some references => throw (.referencingPrimaryKey name key references.name)
    | none =>
      let before ← before.mapM (resolveColumn mapper scope .ofProperty)
      let primary ← resolveColumn mapper scope .ofKey primary
      let after ← after.mapM (resolveColumn mapper scope .ofProperty)
      return ⟨entity.type, name, before, primary, after, none⟩

def ofEntity (mapper : Mapper) (entity : Entity) : Except MappingError Table :=
  match entity.primaryKey with
  | none => .error (.missingPrimaryKey entity.name "")
  | some key => build mapper [] entity key entity.tableName

def path (t : Table) : String :=
  match t.schema with
  | some schema => schema ++ "." ++ t.name
  | none => t.name

/-- Puts the table into a schema, at most once. -/
def attach (t : Table) (schema : String) : Except MappingError Table :=
  match t.schema with
  | none => .ok { t with schema := some schema }
  | some _ => .error (.internal (.attachedTwice t.name))

def column? (t : Table) (name : String) : Option Column :=
  t.columns.find? fun c => c.name = name

def foreignColumns (t : Table) : List Column :=
  t.columns.filter Column.isForeign

def plainColumns (t : Table) : List Column :=
  t.columns.filter fun c => !c.isPrimary && !c.isForeign

def foreignTable (neighbours : Neighbours) (c : Column) : Except MappingError Table := do
  let position ← c.target
  match (neighbours[position]?).join with
  | some t => return t
  | none =>
    throw (.internal (.dropped c.owner.name c.name ((c.references?.map (·.name)).getD "")))

/-- The values of a record in the order of the columns, with or without the primary key. -/
def queryValues (t : Table) (i : Instance) (withPrimary : Bool) :
    Except MappingError (List QueryValue) :=
  (t.columns.filter fun c => withPrimary || !c.isPrimary).mapM fun c => c.queryValue i

/-- Decodes a row, which has one driver value for each column. -/
def decodeRow (t : Table) (row : List DriverValue) : Except MappingError (List Value) :=
  if row.length ≠ t.columns.length then
    .error (.rowWidth t.name t.columns.length row.length)
  else (t.columns.zip row).mapM fun (c, v) => c.decode v

def display (t : Table) : String :=
  t.path ++ "(" ++ ", ".intercalate (t.columns.map Column.display) ++ ")"

end Table

end RecordTables
