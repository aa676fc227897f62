import RecordTables.Identifier
import RecordTables.Serializer

/-! # Errors of the mapping

Why records cannot be mapped to tables, or a query cannot be formed. Most errors are for the caller
to mend; a few show that the mapping itself, or a serializer, broke its own promise. -/

namespace RecordTables

open RecordTables.Text

/-- A state that no caller should be able to bring about. -/
inductive InternalFault where
  | neverLinked (owner column references : String)
  | dropped (owner column references : String)
  | linkedTwice (owner column : String)
  | attachedTwice (table : String)
  | detachedArgument (argument : String)
  | ownedArgument (argument : String)
  deriving DecidableEq

def InternalFault.message : InternalFault → String
  | .neverLinked owner column references =>
    s!"foreign column {owner}.{column} was never linked to {references}"
  | .dropped owner column references =>
    s!"table {references} referenced by {owner}.{column} was dropped"
  | .linkedTwice owner column => s!"column {owner}.{column} linked twice"
  | .attachedTwice table => s!"table {table} attached to a second schema"
  | .detachedArgument argument => s!"argument {argument} is not attached to a procedure"
  | .ownedArgument argument => s!"argument {argument} already belongs to another procedure"

/-- Who has to act on an error. -/
inductive Severity where
  | user
  | internal
  deriving DecidableEq

def Severity.name : Severity → String
  | .user => "User"
  | .internal => "Internal"

/-- Why something cannot be mapped or queried. -/
inductive MappingError where
  | emptyEntity (entity : String)
  | missingPrimaryKey (entity key : String)
  | notUniqueName (scope : String) (names : List String)
  | serializerNotFound (entity property : String) (type : ValueType)
  | unresolved (owner : String) (type : ValueType) (source : SerializerError)
  | serializer (source : SerializerError)
  | invalidName (source : IdentifierError)
  | unregisteredInput (entity : String)
  | unknownProperty (entity property : String)
  | propertyAccess (expected property : String)
  | unknownTable (entity : String)
  | unknownForeignTable (schema table column references : String)
  | foreignKeyMismatch (table column : String) (columnType keyType : ValueType)
  | referencingPrimaryKey (table column references : String)
  | procedureSchemaMismatch (schema procedure : String) (declared : Option String)
  | notForeignKey (table column : String)
  | rowWidth (table : String) (expected found : Nat)
  | placeholderCount (placeholders values : Nat)
  | internal (fault : InternalFault)

namespace MappingError

def optionalLiteral : Option String → String
  | none => "None"
  | some s => "Some(" ++ literal s ++ ")"

def message : MappingError → String
  | .emptyEntity entity => s!"Entity '{entity}' declares no properties"
  | .missingPrimaryKey entity key =>
    s!"Entity '{entity}' has no property '{key}' to use as primary key"
  | .notUniqueName scope names =>
    s!"'{scope}' has names registered multiple times: {literalList names}"
  | .serializerNotFound entity property type =>
    s!"Could not find serializer for property '{entity}.{property}' of type '{type.name}'"
  | .unresolved owner type source =>
    s!"Serializer for '{owner}' value of type '{type.name}' could not be resolved: {source.message}"
  | .serializer source => s!"Type mapping error: {source.message}"
  | .invalidName source => s!"Invalid name: {source.message}"
  | .unregisteredInput entity => s!"Input type '{entity}' is not registered in global inputs"
  | .unknownProperty entity property => s!"Entity '{entity}' has no property '{property}'"
  | .propertyAccess expected property =>
    s!"Property '{property}' can only be read from '{expected}' instances"
  | .unknownTable entity => s!"No table is mapped for entity '{entity}'"
  | .unknownForeignTable schema table column references =>
    s!"Column '{table}.{column}' references '{references}' which is not a table in schema " ++
      s!"'{schema}'"
  | .foreignKeyMismatch table column columnType keyType =>
    s!"Column '{table}.{column}' of type '{columnType.name}' cannot reference primary key of " ++
      s!"type '{keyType.name}'"
  | .referencingPrimaryKey table column references =>
    s!"Primary key '{table}.{column}' cannot also reference '{references}'"
  | .procedureSchemaMismatch schema procedure declared =>
    s!"Procedure '{procedure}' belongs to schema {optionalLiteral declared}, not '{schema}'"
  | .notForeignKey table column => s!"Column '{table}.{column}' is not a foreign key"
  | .rowWidth table expected found =>
    s!"Table '{table}' has {expected} columns but the row holds {found} values"
  | .placeholderCount placeholders values =>
    s!"Query has {placeholders} placeholders but {values} bound values"
  | .internal fault => s!"Internal mapping error (please report): {fault.message}"

def kind : MappingError → String
  | .emptyEntity _ => "EmptyEntity"
  | .missingPrimaryKey _ _ => "MissingPrimaryKey"
  | .notUniqueName _ _ => "NotUniqueName"
  | .serializerNotFound _ _ _ => "SerializerNotFound"
  | .unresolved _ _ _ => "Serializer"
  | .serializer _ => "TypeMapping"
  | .invalidName _ => "InvalidName"
  | .unregisteredInput _ => "UnregisteredInput"
  | .unknownProperty _ _ => "UnknownProperty"
  | .propertyAccess _ _ => "PropertyAccess"
  | .unknownTable _ => "UnknownTable"
  | .unknownForeignTable _ _ _ _ => "UnknownForeignTable"
  | .foreignKeyMismatch _ _ _ _ => "ForeignKeyMismatch"
  | .referencingPrimaryKey _ _ _ => "ReferencingPrimaryKey"
  | .procedureSchemaMismatch _ _ _ => "ProcedureSchemaMismatch"
  | .notForeignKey _ _ => "NotForeignKey"
  | .rowWidth _ _ _ => "RowWidth"
  | .placeholderCount _ _ => "PlaceholderCount"
  | .internal _ => "Internal"

/-- A fault is internal, and so is a serializer that cannot encode values of its own type. What
cannot be decoded comes from the database. -/
def severity : MappingError → Severity
  | .internal _ => .internal
  | .serializer (.cannotEncode _ _) => .internal
  | _ => .user

/-- Whether nobody but the mapping itself is to blame. -/
def isInternal (e : MappingError) : Bool :=
  e.severity = .internal

end MappingError

end RecordTables
