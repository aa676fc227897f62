import RecordTables.Declaration
import RecordTables.Declaration.Name
import RecordTables.Declaration.TypeText
import RecordTables.Entity

/-! # Entities from declarations

The marks of a declaration say which table its records go to, what the columns are called, which of
them is the primary key, which are unique and which refer to other tables. Reading them gives the
outline of an entity, and the outline gives the entity once it is known what types stand for. -/

namespace RecordTables

/-- Why a declaration gives no entity. -/
inductive DeclarationError where
  | bareMark (name : String)
  | missingValue
  | missingPath
  | notOnlyPath
  | tableSetting
  | tableName (name : String) (fault : NameFault)
  | unnamedFields
  | columnSetting
  | columnName (name : String) (fault : NameFault)
  | secondPrimaryKey (existing : String)
  | referencingPrimaryKey
  deriving DecidableEq

def DeclarationError.message : DeclarationError → String
  | .bareMark name => s!"expected attribute arguments in parentheses: #[{name}(...)]"
  | .missingValue => "expected \x60=\x60"
  | .missingPath => "unexpected end of input, expected identifier"
  | .notOnlyPath => "unexpected token"
  | .tableSetting => "unsupported table attribute, expected \x60name = \"..\"\x60"
  | .tableName name fault => s!"Invalid table name '{name}': {fault.message name}"
  | .unnamedFields => "Entity can only be derived for structs with named fields"
  | .columnSetting => "unsupported column attribute, expected \x60name = \"..\"\x60"
  | .columnName name fault => s!"Invalid column name '{name}': {fault.message name}"
  | .secondPrimaryKey existing => s!"Entity already has primary key '{existing}'"
  | .referencingPrimaryKey => "A primary key cannot also be a foreign key"

structure FieldOutline where
  field : String
  column : String
  type : String
  unique : Bool
  references : Option String
  deriving DecidableEq

/-- What a declaration says about an entity. -/
structure EntityOutline where
  name : String
  tableName : Option String
  primaryKey : Option String
  fields : List FieldOutline
  deriving DecidableEq

namespace RecordDeclaration

def requireName (error : NameFault → DeclarationError) (name : String) :
    Except DeclarationError Unit :=
  match NameFault.first? name with
  | none => .ok ()
  | some fault => .error (error fault)

/-- A setting, or the error at the place where one should stand. -/
abbrev Setting := Except DeclarationError (String × String)

/-- What a mark sets. A path is a setting without a value. -/
def markSettings (m : Mark) : List Setting :=
  match m.content with
  | .nothing => [.error (.bareMark m.name)]
  | .path text => [if TypeText.compact text = "name" then .error .missingValue else .ok (text, "")]
  | .settings entries => entries.map .ok

def settings (name : String) (marks : List Mark) : List Setting :=
  (marks.filter fun m => m.name = name).flatMap markSettings

/-- The last name among settings, which set nothing else. Each name is checked where it stands. -/
def readName (check : String → Except DeclarationError Unit) (other : DeclarationError)
    (last : Option String) : List Setting → Except DeclarationError (Option String)
  | [] => .ok last
  | setting :: rest => do
    let (key, name) ← setting
    if key = "name" then
      check name
      readName check other (some name) rest
    else throw other

def readTableName (marks : List Mark) : Except DeclarationError (Option String) :=
  readName (fun name => requireName (.tableName name) name) .tableSetting none
    (settings "table" marks)

/-- The last name that `column` sets, not checked yet. -/
def readColumnName (marks : List Mark) : Except DeclarationError (Option String) :=
  readName (fun _ => .ok ()) .columnSetting none (settings "column" marks)

/-- The path in a mark, which must hold nothing else. -/
def markPath (m : Mark) : Except DeclarationError String :=
  match m.content with
  | .nothing => .error (.bareMark m.name)
  | .path text => .ok (TypeText.compact text)
  | .settings [] => .error .missingPath
  | .settings _ => .error .notOnlyPath

/-- The path in the first mark that makes a column refer to another table. -/
def readReference (marks : List Mark) : Except DeclarationError (Option String) :=
  match marks.find? fun m => m.name = "foreign_key" with
  | none => .ok none
  | some m => do
    let path ← markPath m
    return some path

/-- The primary key after a column, of which there can be one only. -/
def readKey (key : Option String) (column : String) (marks : List Mark) :
    Except DeclarationError (Option String) :=
  match hasMark "primary_key" marks, key with
  | false, key => .ok key
  | true, none => .ok (some column)
  | true, some existing => .error (.secondPrimaryKey existing)

/-- Reads a field, given the primary key among the fields before it. -/
def readField (key : Option String) (f : FieldDeclaration) :
    Except DeclarationError (FieldOutline × Option String) := do
  let column := (← readColumnName f.marks).getD f.name
  requireName (.columnName column) column
  let key ← readKey key column f.marks
  let references ← readReference f.marks
  if references.isSome ∧ key = some column then .error .referencingPrimaryKey
  else
    return (⟨f.name, column, TypeText.compact f.type, hasMark "unique" f.marks, references⟩, key)

def readFields (key : Option String) :
    List FieldDeclaration → Except DeclarationError (List FieldOutline × Option String)
  | [] => .ok ([], key)
  | f :: fs => do
    let (field, key) ← readField key f
    let (fields, key) ← readFields key fs
    return (field :: fields, key)

/-- Reads a declaration. The marks of the type come before those of the fields. -/
def outline (d : RecordDeclaration) : Except DeclarationError EntityOutline := do
  let tableName ← readTableName d.marks
  if d.form = .named then
    let (fields, primaryKey) ← readFields none d.fields
    return { name := d.name, tableName, primaryKey, fields }
  else .error .unnamedFields

end RecordDeclaration

/-- What the types and the paths in declarations stand for. -/
structure Vocabulary where
  valueType : String → ValueType
  isOptional : String → Bool
  entityType : String → EntityType

namespace EntityOutline

/-- The property that a field at a position becomes. -/
def property (v : Vocabulary) (f : FieldOutline) (position : Nat) : Property where
  name := f.column
  valueType := v.valueType f.type
  nullable := v.isOptional f.type
  unique := f.unique
  references := f.references.map v.entityType
  getter fields := fields.getD position .null

def entity (v : Vocabulary) (key : Nat) (o : EntityOutline) : Entity where
  type := ⟨key, o.name⟩
  properties := o.fields.zipIdx.map fun (f, position) => property v f position
  primaryKey := o.primaryKey
  tableName := o.tableName

end EntityOutline

end RecordTables
