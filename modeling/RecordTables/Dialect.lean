import RecordTables.Text

/-! # SQL dialects

The two database engines, their names, and how each writes placeholders and identifiers. -/

namespace RecordTables

open RecordTables.Text

inductive Dialect where
  | sqlite
  | postgres
  deriving DecidableEq

namespace Dialect

def all : List Dialect :=
  [.sqlite, .postgres]

def name : Dialect → String
  | .sqlite => "sqlite"
  | .postgres => "postgres"

def label : Dialect → String
  | .sqlite => "Sqlite"
  | .postgres => "Postgres"

def ofName? (s : String) : Option Dialect :=
  all.find? fun d => d.name = s

/-- A text without blanks around it and with its ASCII capitals made small. -/
def normalized (s : String) : String :=
  String.ofList ((trim s.toList).map Char.toLower)

/-- Reads a name in any case, also the two other usual names of the second engine. A name that is
not known is given back in normal form. -/
def read (s : String) : Except String Dialect :=
  match normalized s with
  | "sqlite" => .ok .sqlite
  | "postgres" => .ok .postgres
  | "postgresql" => .ok .postgres
  | "pg" => .ok .postgres
  | other => .error other

def unknownMessage (name : String) : String :=
  "Unknown dialect '" ++ name ++ "'"

def placeholder (index : Nat) : Dialect → String
  | .sqlite => "?"
  | .postgres => String.ofList ('$' :: digits index)

/-- An identifier between double quotes, in which keywords and capitals survive. -/
def quoteIdentifier (name : String) : Dialect → String
  | .sqlite => String.ofList (quotedToken '"' name.toList)
  | .postgres => String.ofList (quotedToken '"' name.toList)

end Dialect

end RecordTables
