import RecordTables.Schema

/-! # Statements

The SQL text for tables in either dialect. Identifiers are checked when a table is built and quoted
here; values are bound to placeholders and are never part of the text. -/

namespace RecordTables.Statement

/-- The quoted name of a table, with its schema where the dialect has schemas. -/
def tablePath (dialect : Dialect) (t : Table) : String :=
  match dialect, t.schema with
  | .postgres, some schema =>
    dialect.quoteIdentifier schema ++ "." ++ dialect.quoteIdentifier t.name
  | _, _ => dialect.quoteIdentifier t.name

def createSchema (dialect : Dialect) (s : Schema) : Option Query :=
  match dialect with
  | .postgres => some (.raw ("CREATE SCHEMA IF NOT EXISTS " ++ dialect.quoteIdentifier s.name))
  | .sqlite => none

/-- The type of a column whose values the database makes up. -/
def serialType (w : WireType) : String :=
  match w with
  | .smallInt => "SMALLSERIAL"
  | .integer => "SERIAL"
  | _ => "BIGSERIAL"

/-- The definition of a column. SQLite makes up keys of exactly the type `INTEGER` only. -/
def columnDefinition (dialect : Dialect) (c : Column) : String :=
  let name := dialect.quoteIdentifier c.name
  if c.isAutoIncrement then
    match dialect with
    | .sqlite => name ++ " INTEGER PRIMARY KEY AUTOINCREMENT"
    | .postgres => name ++ " " ++ serialType c.wireType ++ " PRIMARY KEY"
  else if c.isPrimary then name ++ " " ++ c.dbType ++ " PRIMARY KEY"
  else
    name ++ " " ++ c.dbType ++ (if c.isNotNull then " NOT NULL" else "") ++
      (if c.isUnique then " UNIQUE" else "")

def foreignKey (dialect : Dialect) (neighbours : Neighbours) (c : Column) :
    Except MappingError String := do
  let target ← Table.foreignTable neighbours c
  return "FOREIGN KEY (" ++ dialect.quoteIdentifier c.name ++ ") REFERENCES " ++
    tablePath dialect target ++ " (" ++ dialect.quoteIdentifier target.primary.name ++ ")"

/-- Creates a table, whose foreign keys must be linked. -/
def createTable (dialect : Dialect) (neighbours : Neighbours) (t : Table) :
    Except MappingError Query := do
  let definitions := t.columns.map (columnDefinition dialect)
  let keys ← t.foreignColumns.mapM (foreignKey dialect neighbours)
  return .raw ("CREATE TABLE IF NOT EXISTS " ++ tablePath dialect t ++ " (" ++
    ", ".intercalate (definitions ++ keys) ++ ")")

def dropTable (dialect : Dialect) (t : Table) : Query :=
  .raw ("DROP TABLE IF EXISTS " ++ tablePath dialect t)

/-- Inserts a record. A key that the database makes up is left out, and given back where the dialect
can do so. -/
def insert (dialect : Dialect) (t : Table) (i : Instance) : Except MappingError Query := do
  let generated := t.primary.isAutoIncrement
  let values ← t.queryValues i !generated
  let names := values.map fun v => dialect.quoteIdentifier v.name
  let marks := values.map fun _ => Placeholder.token
  let body := if values.isEmpty then " DEFAULT VALUES"
    else " (" ++ ", ".intercalate names ++ ") VALUES (" ++ ", ".intercalate marks ++ ")"
  let returning := if generated ∧ dialect = .postgres then
      " RETURNING " ++ dialect.quoteIdentifier t.primary.name
    else ""
  return ⟨"INSERT INTO " ++ tablePath dialect t ++ body ++ returning, values⟩

def assignment (dialect : Dialect) (name : String) : String :=
  dialect.quoteIdentifier name ++ " = " ++ Placeholder.token

/-- Updates all columns but the key of the row with the key of a record. The key is bound last. -/
def update (dialect : Dialect) (t : Table) (i : Instance) : Except MappingError Query := do
  let values ← t.queryValues i false
  if values.isEmpty then throw (.emptyEntity t.entity.name)
  let key ← t.primary.queryValue i
  let assignments := values.map fun v => assignment dialect v.name
  return ⟨"UPDATE " ++ tablePath dialect t ++ " SET " ++ ", ".intercalate assignments ++
    " WHERE " ++ assignment dialect t.primary.name, values ++ [key]⟩

def deleteById (dialect : Dialect) (t : Table) (id : Value) : Query :=
  ⟨"DELETE FROM " ++ tablePath dialect t ++ " WHERE " ++ assignment dialect t.primary.name,
    [t.primary.bind id]⟩

def delete (dialect : Dialect) (t : Table) (i : Instance) : Except MappingError Query := do
  let id ← t.primary.value i
  return deleteById dialect t id

def selectColumns (dialect : Dialect) (t : Table) : String :=
  ", ".intercalate (t.columns.map fun c => dialect.quoteIdentifier c.name)

def selectAll (dialect : Dialect) (t : Table) : Query :=
  .raw ("SELECT " ++ selectColumns dialect t ++ " FROM " ++ tablePath dialect t)

def selectById (dialect : Dialect) (t : Table) (id : Value) : Query :=
  ⟨"SELECT " ++ selectColumns dialect t ++ " FROM " ++ tablePath dialect t ++ " WHERE " ++
    assignment dialect t.primary.name, [t.primary.bind id]⟩

end RecordTables.Statement
