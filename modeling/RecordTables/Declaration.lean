/-! # Record declarations

A record type as it is declared: its fields with the text of their types, and the marks on the type
and on the fields that say how records are stored. -/

namespace RecordTables

/-- What stands between the brackets of a mark. -/
inductive MarkContent where
  | nothing
  | path (text : String)
  | settings (entries : List (String × String))

/-- A mark on a type or on a field. -/
structure Mark where
  name : String
  content : MarkContent

structure FieldDeclaration where
  name : String
  type : String
  marks : List Mark

/-- The form of a type. Only records with named fields can be stored. -/
inductive TypeForm where
  | named
  | positional
  | empty
  | variants
  deriving DecidableEq

structure RecordDeclaration where
  name : String
  form : TypeForm
  marks : List Mark
  fields : List FieldDeclaration

def hasMark (name : String) (marks : List Mark) : Bool :=
  marks.any fun m => m.name = name

end RecordTables
