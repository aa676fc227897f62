/-! # Names in declarations

A name in a declaration is checked while the declaration is read, long before a mapper sees it. The
rules have an order, and the first that a name breaks is reported. -/

namespace RecordTables

/-- The rules that a name can break, in their order. -/
inductive NameFault where
  | empty
  | tooLong
  | badStart
  | badCharacter
  deriving DecidableEq

namespace NameFault

def all : List NameFault :=
  [.empty, .tooLong, .badStart, .badCharacter]

def byteLimit : Nat := 63

def isNamePart (c : Char) : Bool :=
  ('a' ≤ c && c ≤ 'z') || ('A' ≤ c && c ≤ 'Z') || ('0' ≤ c && c ≤ '9') || c = '_'

def occursIn (name : String) : NameFault → Bool
  | .empty => name = ""
  | .tooLong => byteLimit < name.utf8ByteSize
  | .badStart => name.toList.head?.any fun c => !isNamePart c || ('0' ≤ c && c ≤ '9')
  | .badCharacter => name.toList.any fun c => !isNamePart c

def first? (name : String) : Option NameFault :=
  all.find? (occursIn name)

def message (name : String) : NameFault → String
  | .empty => "Name cannot be empty"
  | .tooLong => s!"Name '{name}' is too long: {name.utf8ByteSize} characters (max {byteLimit})"
  | .badStart => s!"Name '{name}' must start with a letter or underscore"
  | .badCharacter =>
    s!"Name '{name}' contains invalid characters: only alphanumeric characters and underscores " ++
      "are allowed"

end NameFault

end RecordTables
