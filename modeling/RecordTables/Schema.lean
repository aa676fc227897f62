import RecordTables.Procedure

/-! # Schemas

A schema is a named group of tables with serializers of its own and procedures. Assembling one links
every foreign key to the table of the entity type that it references, so tables may refer to each
other in any order and in circles. -/

namespace RecordTables

/-- A named group of tables. -/
structure Schema where
  name : String
  tables : List Table
  serializers : List Serializer
  procedures : List Procedure

namespace Schema

def checkSerializers : List Serializer → List Serializer → Except MappingError Unit
  | _, [] => .ok ()
  | seen, s :: rest =>
    if seen.any fun other => other.serves s.valueType s.dialect then
      .error (.serializer (.duplicate s.valueType s.dialect))
    else checkSerializers (s :: seen) rest

/-- Links a foreign key to the first table of the entity type that it references, whose primary key
must have the same type. Other columns stay as they are. -/
def linkColumn (schema : String) (tables : List Table) (table : Table) (c : Column) :
    Except MappingError Column :=
  match c.references? with
  | none => .ok c
  | some references =>
    match tables.zipIdx.find? fun (t, _) => t.entity = references with
    | none => .error (.unknownForeignTable schema table.name c.name references.name)
    | some (target, position) =>
      if target.primary.valueType ≠ c.valueType then
        .error (.foreignKeyMismatch table.name c.name c.valueType target.primary.valueType)
      else c.link position

def linkTable (schema : String) (tables : List Table) (t : Table) : Except MappingError Table := do
  let before ← t.before.mapM (linkColumn schema tables t)
  let primary ← linkColumn schema tables t t.primary
  let after ← t.after.mapM (linkColumn schema tables t)
  return { t with before, primary, after }

/-- Assembles a schema of tables that belong to none. -/
def assemble (name : String) (tables : List Table) (serializers : List Serializer) :
    Except MappingError Schema := do
  checkName name
  checkUnique name (tables.map (·.name))
  checkUnique name (tables.map (·.entity.name))
  checkSerializers [] serializers
  let tables ← tables.mapM fun t => t.attach name
  let tables ← tables.mapM (linkTable name tables)
  return ⟨name, tables, serializers, []⟩

def checkProcedure (s : Schema) (p : Procedure) : Except MappingError Unit :=
  if p.id.schema = some s.name then .ok ()
  else .error (.procedureSchemaMismatch s.name p.path p.id.schema)

/-- Adds procedures declared for the schema, whose paths must be distinct in it. -/
def withProcedures (s : Schema) (procedures : List Procedure) : Except MappingError Schema := do
  let _ ← procedures.mapM s.checkProcedure
  let all := s.procedures ++ procedures
  checkUnique s.name (all.map Procedure.path)
  return { s with procedures := all }

/-- Declares the procedures of entity types for the schema and adds them one by one. -/
def declareProcedures (s : Schema) (mapper : Mapper) (entities : List Entity) :
    Except MappingError Schema :=
  entities.foldlM (fun s e => do
    let p ← Procedure.ofEntity mapper e (some s.name)
    s.withProcedures [p]) s

/-- The tables by position, all of them kept. -/
def neighbours (s : Schema) : Neighbours :=
  s.tables.map some

def foreignTable (s : Schema) (c : Column) : Except MappingError Table :=
  Table.foreignTable s.neighbours c

def procedure? (s : Schema) (path : String) : Option Procedure :=
  s.procedures.find? fun p => p.path = path

def procedureOf? (s : Schema) (type : EntityType) : Option Procedure :=
  s.procedures.find? fun p => p.id.type = type

/-- The procedure that an argument belongs to. An argument does not hold its procedure but refers to
it, and such a reference leads to a procedure as long as that is alive. The procedures of the schema
stand for the live ones. -/
def argumentProcedure (s : Schema) (a : Argument) : Except MappingError Procedure := do
  let id ← a.procedureId
  match s.procedures.find? fun p => p.id = id with
  | some p => return p
  | none => throw (.internal (.detachedArgument a.name))

def tableFor? (s : Schema) (type : EntityType) : Option Table :=
  s.tables.find? fun t => t.entity = type

def tableNamed? (s : Schema) (name : String) : Option Table :=
  s.tables.find? fun t => t.name = name

/-- The table of an entity type, which there must be. -/
def tableFor (s : Schema) (type : EntityType) : Except MappingError Table :=
  match s.tableFor? type with
  | some t => .ok t
  | none => .error (.unknownTable type.name)

def same (s t : Schema) : Bool :=
  s.name = t.name

def display (s : Schema) : String :=
  "Schema(" ++ s.name ++ ")"

end Schema

/-- A table still to be built: an entity, its key, and a name other than that of the entity. -/
structure TableDeclaration where
  entity : Entity
  key : String
  name : Option String

/-- The table of an entity with its declared key and name. Without a key none can be found. -/
def TableDeclaration.ofEntity (e : Entity) : TableDeclaration :=
  ⟨e, e.primaryKey.getD "", e.tableName⟩

/-- A schema still to be built. Its serializers apply to all of its tables. -/
structure SchemaDeclaration where
  name : String
  serializers : List Serializer
  tables : List TableDeclaration

def SchemaDeclaration.build (d : SchemaDeclaration) (mapper : Mapper) :
    Except MappingError Schema := do
  let tables ← d.tables.mapM fun t => Table.build mapper d.serializers t.entity t.key t.name
  Schema.assemble d.name tables d.serializers

end RecordTables
