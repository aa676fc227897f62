/-! # Identifiers

The names that may stand in statements: one to 63 ASCII letters, digits and underscores, the first
of them not a digit. Of several faults the first in that order is reported. -/

namespace RecordTables

/-- Why a name is not an identifier. -/
inductive IdentifierError where
  | empty
  | tooLong (name : String)
  | invalidStart (name : String)
  | invalidCharacters (name : String)
  deriving DecidableEq

namespace Identifier

/-- The greatest length in bytes. -/
def greatestLength : Nat := 63

def isStart (c : Char) : Bool :=
  c.isAlpha || c = '_'

def isPart (c : Char) : Bool :=
  c.isAlphanum || c = '_'

def check (name : String) : Except IdentifierError Unit :=
  match name.toList with
  | [] => .error .empty
  | first :: rest =>
    if greatestLength < name.utf8ByteSize then .error (.tooLong name)
    else if ¬isStart first then .error (.invalidStart name)
    else if ¬(first :: rest).all isPart then .error (.invalidCharacters name)
    else .ok ()

end Identifier

def IdentifierError.message : IdentifierError → String
  | .empty => "Name cannot be empty"
  | .tooLong name =>
    s!"Name '{name}' is too long: {name.utf8ByteSize} characters (max {Identifier.greatestLength})"
  | .invalidStart name => s!"Name '{name}' must start with a letter or underscore"
  | .invalidCharacters name =>
    s!"Invalid characters in name '{name}': only alphanumeric characters and underscores are " ++
      "allowed"

def IdentifierError.kind : IdentifierError → String
  | .empty => "Empty"
  | .tooLong _ => "TooLong"
  | .invalidStart _ => "InvalidStartCharacter"
  | .invalidCharacters _ => "InvalidCharacters"

end RecordTables
