import RecordTables.Table

/-! # Stored procedures

A procedure is declared like an entity: its properties in their order are the arguments of a call.
Every argument knows the procedure that it belongs to. Procedures with one path are equal. -/

namespace RecordTables

/-- What tells procedures apart: the schema that one is declared for, if any, and its type. -/
structure ProcedureId where
  schema : Option String
  type : EntityType
  deriving DecidableEq

def ProcedureId.path (id : ProcedureId) : String :=
  match id.schema with
  | some schema => schema ++ "." ++ id.type.name
  | none => id.type.name

/-- An argument, and the procedure that it belongs to once it does. -/
structure Argument where
  property : OwnedProperty
  serializer : Serializer
  procedure : Option ProcedureId

namespace Argument

def detached (p : OwnedProperty) (s : Serializer) : Argument :=
  ⟨p, s, none⟩

def name (a : Argument) : String :=
  a.property.name

def procedureId (a : Argument) : Except MappingError ProcedureId :=
  match a.procedure with
  | some id => .ok id
  | none => .error (.internal (.detachedArgument a.name))

def path (a : Argument) : Except MappingError String := do
  let id ← a.procedureId
  return id.type.name ++ "." ++ a.name

def queryValue (a : Argument) (i : Instance) : Except MappingError QueryValue := do
  let v ← a.property.read i
  return .ofSerializer a.name v a.serializer

def display (a : Argument) : String :=
  a.name ++ ": " ++ a.serializer.dbType

end Argument

/-- A stored procedure. -/
structure Procedure where
  id : ProcedureId
  args : List Argument

namespace Procedure

/-- Checks that an argument has a name for statements and belongs to no procedure. -/
def checkArgument (a : Argument) : Except MappingError Unit := do
  checkName a.name
  if a.procedure.isSome then throw (.internal (.ownedArgument a.name))

/-- Assembles a procedure and makes every argument belong to it. -/
def assemble (schema : Option String) (type : EntityType) (args : List Argument) :
    Except MappingError Procedure := do
  checkName type.name
  if let some schema := schema then checkName schema
  let _ ← args.mapM checkArgument
  checkUnique type.name (args.map Argument.name)
  let id : ProcedureId := ⟨schema, type⟩
  return ⟨id, args.map fun a => { a with procedure := some id }⟩

def ofEntity (mapper : Mapper) (entity : Entity) (schema : Option String) :
    Except MappingError Procedure := do
  let args ← entity.ownedProperties.mapM fun p => do
    let s ← mapper.resolveProperty p []
    return Argument.detached p s
  assemble schema entity.type args

def name (p : Procedure) : String :=
  p.id.type.name

def path (p : Procedure) : String :=
  p.id.path

def same (p q : Procedure) : Bool :=
  p.path = q.path

def arg? (p : Procedure) (name : String) : Option Argument :=
  p.args.find? fun a => a.name = name

def sqlArguments (p : Procedure) (separator : String) : String :=
  separator.intercalate (p.args.map fun _ => Placeholder.token)

def queryValues (p : Procedure) (i : Instance) : Except MappingError (List QueryValue) :=
  p.args.mapM fun a => a.queryValue i

def callQuery (p : Procedure) (i : Instance) : Except MappingError Query := do
  let values ← p.queryValues i
  return ⟨"CALL " ++ p.path ++ "(" ++ p.sqlArguments ", " ++ ")", values⟩

def display (p : Procedure) : String :=
  p.path ++ "(" ++ ", ".intercalate (p.args.map Argument.display) ++ ")"

end Procedure

end RecordTables
