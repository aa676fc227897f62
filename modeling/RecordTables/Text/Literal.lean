import RecordTables.Text.Hex
import RecordTables.Text.Unprintable

/-! # Literals

Text between delimiters with everything escaped that would not show: the form in which names and
values are written for a reader of messages. -/

namespace RecordTables.Text

/-- One character inside a literal that ends at `delimiter`. -/
def escapeChar (delimiter c : Char) : List Char :=
  if c = '\x00' then ['\\', '0']
  else if c = '\t' then ['\\', 't']
  else if c = '\n' then ['\\', 'n']
  else if c = '\r' then ['\\', 'r']
  else if c = '\\' ∨ c = delimiter then ['\\', c]
  else if isUnprintable c then ['\\', 'u', '\x7b'] ++ hexDigits c.toNat ++ ['\x7d']
  else [c]

def literalChars (delimiter : Char) (s : List Char) : List Char :=
  delimiter :: s.flatMap (escapeChar delimiter) ++ [delimiter]

/-- A text between double quotes. -/
def literal (s : String) : String :=
  String.ofList (literalChars '"' s.toList)

def charLiteral (c : Char) : String :=
  String.ofList (literalChars '\'' [c])

def bracketed (items : List String) : String :=
  "[" ++ ", ".intercalate items ++ "]"

def literalList (names : List String) : String :=
  bracketed (names.map literal)

end RecordTables.Text
