import RecordTables.Mapper
import RecordTables.Query

/-! # Query builders

A builder reads the properties of one input record and binds them in the order of the calls. Each
successful call gives the placeholder to put into the text; a failing call binds nothing. -/

namespace RecordTables

/-- The values bound so far for an input record. -/
structure QueryBuilder where
  entity : Entity
  fields : List Value
  mapper : Mapper
  values : List QueryValue

/-- What can be bound: a property of the input, or any other value under a name. -/
inductive Binding where
  | property (name : String)
  | value (name : String) (type : ValueType) (value : Value)

namespace QueryBuilder

/-- Starts a query over an input record, whose type must be registered. -/
def start (mapper : Mapper) (entity : Entity) (fields : List Value) :
    Except MappingError QueryBuilder :=
  if mapper.isRegistered entity.type then .ok ⟨entity, fields, mapper, []⟩
  else .error (.unregisteredInput entity.name)

/-! ## Calls

A call works on the builder in place. It looks up what it binds and then puts it behind the values
bound before. -/

def serializer (type : ValueType) : EStateM MappingError QueryBuilder Serializer := do
  let b ← get
  MonadExcept.ofExcept (b.mapper.getSerializer b.entity.type type)

/-- Puts a value behind all others, and answers its placeholder. -/
def push (v : QueryValue) : EStateM MappingError QueryBuilder String := do
  modify fun b => { b with values := b.values ++ [v] }
  return Placeholder.token

def bindProperty (name : String) : EStateM MappingError QueryBuilder String := do
  let b ← get
  match b.entity.properties.find? fun p => p.name = name with
  | none => throw (.unknownProperty b.entity.name name)
  | some p =>
    let s ← serializer p.valueType
    push (.ofSerializer p.name (p.getter b.fields) s)

def bindValue (name : String) (type : ValueType) (value : Value) :
    EStateM MappingError QueryBuilder String := do
  let s ← serializer type
  push (.ofSerializer name value s)

def bind : Binding → EStateM MappingError QueryBuilder String
  | .property name => bindProperty name
  | .value name type value => bindValue name type value

/-- What a call answers, the placeholder or why it binds nothing, and the builder that it leaves. -/
def attempt (b : QueryBuilder) (binding : Binding) : Except MappingError String × QueryBuilder :=
  match (bind binding).run b with
  | .ok answer next => (.ok answer, next)
  | .error e next => (.error e, next)

/-- The answers of several calls, each with the builder after it, and the builder after all. -/
def attempts (b : QueryBuilder) :
    List Binding → List (Except MappingError String × QueryBuilder) × QueryBuilder
  | [] => ([], b)
  | binding :: rest =>
    let first := b.attempt binding
    let (later, last) := first.2.attempts rest
    (first :: later, last)

def size (b : QueryBuilder) : Nat :=
  b.values.length

/-- The query with the given text, whose placeholders follow the order of the calls. -/
def build (b : QueryBuilder) (sql : String) : Query :=
  ⟨sql, b.values⟩

end QueryBuilder

end RecordTables
