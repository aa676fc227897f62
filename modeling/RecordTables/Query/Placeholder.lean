import RecordTables.Dialect

/-! # Placeholders

A question mark stands for a bound value unless it is inside quotes. Either quote opens quoted text,
which ends at the next quote of the same kind; a doubled quote ends it and opens it again. -/

namespace RecordTables.Placeholder

def token : String := "?"

/-- The quote that text is inside of, if any. -/
abbrev Quoting := Option Char

def step (quoting : Quoting) (c : Char) : Quoting :=
  match quoting with
  | none => if c = '\'' ∨ c = '"' then some c else none
  | some quote => if c = quote then none else some quote

def isMark (quoting : Quoting) (c : Char) : Bool :=
  quoting = none ∧ c = '?'

/-- The byte offsets of the placeholders of a text that starts at offset `start`. -/
def offsets (quoting : Quoting) (start : Nat) : List Char → List Nat
  | [] => []
  | c :: rest =>
    let later := offsets (step quoting c) (start + c.utf8Size) rest
    if isMark quoting c then start :: later else later

def scan (sql : String) : List Nat :=
  offsets none 0 sql.toList

def count (sql : String) : Nat :=
  (scan sql).length

end RecordTables.Placeholder
