import RecordTables.Config
import RecordTables.Statement

/-! # Sessions

A session joins a configuration, a mapper and the schemas registered so far, all of one dialect. It
finds the table of an entity type, forms the statements for records and checks that they can be sent
to the database. -/

namespace RecordTables

/-- Why a session cannot be opened, or cannot do something. -/
inductive SessionError where
  | mapping (source : MappingError)
  | config (source : ConfigFault)
  | dialectMismatch (mapper database : Dialect)
  | schemaNotFound (name : String)
  | schemaTaken (name : String)
  | unknownProcedure (procedure schema : String)
  | mapperShared

def SessionError.message : SessionError → String
  | .mapping source => source.message
  | .config source => s!"Configuration error: {source.message}"
  | .dialectMismatch mapper database =>
    s!"Mapper dialect {mapper.name} does not match database dialect {database.name}"
  | .schemaNotFound name => s!"Schema not found: {name}"
  | .schemaTaken name => s!"Schema already registered: {name}"
  | .unknownProcedure procedure schema =>
    s!"Procedure '{procedure}' is not registered in schema '{schema}'"
  | .mapperShared => "Mapper is shared and can no longer be configured"

def SessionError.kind : SessionError → String
  | .mapping _ => "Mapping"
  | .config _ => "Config"
  | .dialectMismatch _ _ => "DialectMismatch"
  | .schemaNotFound _ => "SchemaNotFound"
  | .schemaTaken _ => "SchemaAlreadyRegistered"
  | .unknownProcedure _ _ => "UnknownProcedure"
  | .mapperShared => "MapperShared"

/-- A statement as the database gets it. -/
structure PreparedStatement where
  sql : String
  values : List (WireType × DriverValue)

/-- Checks the count of the bound values, then encodes them in their order. -/
def Query.prepare (q : Query) (dialect : Dialect) : Except MappingError PreparedStatement := do
  q.checkPlaceholders
  let values ← q.encodedValues
  return ⟨q.dialectSql dialect, values⟩

namespace Schema

/-- The dialects of all serializers in use, those of the columns before those of the arguments. -/
def usedDialects (s : Schema) : List Dialect :=
  (s.tables.flatMap Table.columns).map (·.serializer.dialect) ++
    (s.procedures.flatMap Procedure.args).map (·.serializer.dialect)

/-- The first dialect in use that is not the given one. -/
def otherDialect? (s : Schema) (dialect : Dialect) : Option Dialect :=
  s.usedDialects.find? (· ≠ dialect)

end Schema

/-- A connection with what is known of its tables. A shared mapper can no longer change. -/
structure Session where
  dialect : Dialect
  mapper : Mapper
  mapper_dialect : mapper.dialect = dialect
  shared : Bool
  schemas : List Schema
  defaultSchema : String

namespace Session

/-- Opens a session for a valid configuration with a mapper of the dialect of the database. -/
def connect (config : AppConfig) (mapper : Mapper) : Except SessionError Session :=
  match config.validate with
  | .error fault => .error (.config fault)
  | .ok () =>
    if h : mapper.dialect = config.database.dialect then
      .ok ⟨config.database.dialect, mapper, h, false, [], config.mapper.defaultSchema⟩
    else .error (.dialectMismatch mapper.dialect config.database.dialect)

/-! ## The mapper -/

def ownMapper (s : Session) : Except SessionError Mapper :=
  if s.shared then .error .mapperShared else .ok s.mapper

def registerSerializer (s : Session) (serializer : Serializer) : Except SessionError Session :=
  if s.shared then .error .mapperShared
  else
    match h : s.mapper.registerSerializer serializer with
    | .error e => .error (.mapping e)
    | .ok mapper =>
      .ok { s with
        mapper, mapper_dialect := (Mapper.registerSerializer_dialect h).trans s.mapper_dialect }

/-! ## Schemas -/

def schemaNames (s : Session) : List String :=
  s.schemas.map Schema.name

/-- Registers a schema under its name, which must be free. Its serializers must be of the dialect of
the database. -/
def register (s : Session) (schema : Schema) : Except SessionError Session :=
  if schema.name ∈ s.schemaNames then .error (.schemaTaken schema.name)
  else
    match schema.otherDialect? s.dialect with
    | some other => .error (.dialectMismatch other s.dialect)
    | none => .ok { s with schemas := s.schemas ++ [schema] }

def schema (s : Session) (name : String) : Except SessionError Schema :=
  match s.schemas.find? fun schema => schema.name = name with
  | some schema => .ok schema
  | none => .error (.schemaNotFound name)

def defaultTable? (s : Session) (type : EntityType) : Option Table :=
  (s.schemas.find? fun schema => schema.name = s.defaultSchema).bind (·.tableFor? type)

def firstTable? (s : Session) (type : EntityType) : Option Table :=
  s.schemas.findSome? (·.tableFor? type)

/-- The table of an entity type: that of the default schema, else the first of all. -/
def table (s : Session) (type : EntityType) : Except SessionError Table :=
  match s.defaultTable? type <|> s.firstTable? type with
  | some t => .ok t
  | none => .error (.mapping (.unknownTable type.name))

/-! ## Statements -/

def execute (s : Session) (q : Query) : Except SessionError PreparedStatement :=
  (q.prepare s.dialect).mapError .mapping

/-- Checks and encodes the query that a table and a record give. -/
def executeFor (s : Session) (i : Instance)
    (query : Dialect → Table → Instance → Except MappingError Query) :
    Except SessionError PreparedStatement := do
  let t ← s.table i.type
  let q ← (query s.dialect t i).mapError .mapping
  s.execute q

def insert (s : Session) (i : Instance) : Except SessionError PreparedStatement :=
  s.executeFor i Statement.insert

def update (s : Session) (i : Instance) : Except SessionError PreparedStatement :=
  s.executeFor i Statement.update

def delete (s : Session) (i : Instance) : Except SessionError PreparedStatement :=
  s.executeFor i Statement.delete

def findAll (s : Session) (type : EntityType) : Except SessionError PreparedStatement := do
  let t ← s.table type
  s.execute (Statement.selectAll s.dialect t)

def call (s : Session) (schema : String) (i : Instance) :
    Except SessionError PreparedStatement := do
  match (← s.schema schema).procedureOf? i.type with
  | none => throw (.unknownProcedure i.type.name schema)
  | some p =>
    let q ← (p.callQuery i).mapError .mapping
    s.execute q

/-- Creates a schema, where the dialect has schemas, and then its tables in their order. -/
def createTables (s : Session) (schema : String) :
    Except SessionError (List PreparedStatement) := do
  let schema ← s.schema schema
  let first ← (Statement.createSchema s.dialect schema).toList.mapM s.execute
  let rest ← schema.tables.mapM fun t => do
    let q ← (Statement.createTable s.dialect schema.neighbours t).mapError SessionError.mapping
    s.execute q
  return first ++ rest

/-- Drops the tables of a schema, the last one first. -/
def dropTables (s : Session) (schema : String) : Except SessionError (List PreparedStatement) := do
  let schema ← s.schema schema
  schema.tables.reverse.mapM fun t => s.execute (Statement.dropTable s.dialect t)

end Session

end RecordTables
