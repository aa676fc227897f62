import RecordTables.Text.Alphanumeric
import RecordTables.Text

/-! # Environment files

A file of assignments to environment variables, one a line unless a quote is left open. A variable
keeps the value that it gets first. A value may name variables assigned before it. -/

namespace RecordTables.Config

open RecordTables.Text

abbrev Variables := List (String × String)

namespace Variables

def get? (name : String) (vs : Variables) : Option String :=
  (vs.find? fun v => v.1 = name).map (·.2)

/-- Assigns a value to a variable that has none yet. -/
def assign (name value : String) (vs : Variables) : Variables :=
  if (vs.get? name).isSome then vs else vs ++ [(name, value)]

end Variables

/-! ## Lines -/

/-- What is open where the scan of a line stands. -/
inductive LineState where
  | complete
  | blank
  | escape
  | double
  | doubleEscape
  | single
  | singleEscape
  deriving DecidableEq

def LineState.next (c : Char) : LineState → LineState
  | .blank | .complete =>
    if c = '\\' then .escape
    else if c = '"' then .double
    else if c = '\'' then .single
    else .complete
  | .escape => .complete
  | .double => if c = '\\' then .doubleEscape else if c = '"' then .complete else .double
  | .doubleEscape => .double
  | .single => if c = '\\' then .singleEscape else if c = '\'' then .complete else .single
  | .singleEscape => .single

/-- Whether a character opens the place where a comment may begin. -/
def isGap (c : Char) : Bool :=
  isBlank c && c ≠ '\n' && c ≠ '\r'

/-- How the scan of a line ends: in a state, or at a comment, with the text before it. -/
inductive LineEnd where
  | state (s : LineState)
  | comment (front : List Char)

/-- Scans a line. A comment begins at a mark right after the first blank that follows something
else. -/
def scanLine (state : LineState) : List Char → LineEnd
  | [] => .state state
  | c :: s =>
    if state = .blank ∧ c = '#' then .comment []
    else
      match scanLine (if state = .complete ∧ isGap c then .blank else state.next c) s with
      | .state last => .state last
      | .comment front => .comment (c :: front)

def chomp (s : List Char) : List Char :=
  match s.reverse with
  | '\n' :: '\r' :: r => r.reverse
  | '\n' :: r => r.reverse
  | _ => s

def splitLines : List Char → List (List Char)
  | [] => []
  | c :: s =>
    match c, splitLines s with
    | '\n', lines => ['\n'] :: lines
    | c, [] => [[c]]
    | c, line :: lines => (c :: line) :: lines

/-- Joins lines of which quotes are open. `front` is what is joined so far. -/
def joinLines (front : List Char) (state : LineState) :
    List (List Char) → Option (List (List Char))
  | [] => if state = .complete then some [] else none
  | line :: lines =>
    let whole := front ++ line
    if (skipBlanks whole).head? = some '#' then joinLines [] .complete lines
    else
      match scanLine state line with
      | .comment kept => (joinLines [] .complete lines).map ((front ++ kept) :: ·)
      | .state .complete => (joinLines [] .complete lines).map (chomp whole :: ·)
      | .state state => joinLines whole state lines

/-! ## Values -/

/-- Where the reader of a value stands. `quoted` says that a double quote is open. -/
inductive ValueState where
  | text (quoted : Bool)
  | escape (quoted : Bool)
  | single
  | name (quoted : Bool) (reversed : List Char)
  | braced (quoted : Bool) (reversed : List Char)
  | ended
  | comment

def unescape? (c : Char) : Option Char :=
  if c = 'n' then some '\n' else if c ∈ ['\\', '\'', '"', '$', ' '] then some c else none

/-- The value of the variable with the given letters, nothing if there is none. -/
def substitute (vs : Variables) (reversed : List Char) : List Char :=
  ((vs.get? (String.ofList reversed.reverse)).getD "").toList

/-- The state after one more character, and what the character adds to the value. -/
def ValueState.next? (vs : Variables) (c : Char) : ValueState → Option (ValueState × List Char)
  | .ended =>
    if c = ' ' ∨ c = '\t' then some (.ended, [])
    else if c = '#' then some (.comment, [])
    else none
  | .comment => some (.comment, [])
  | .escape quoted => (unescape? c).map fun c => (.text quoted, [c])
  | .single => some (if c = '\'' then (.text false, []) else (.single, [c]))
  | .name quoted letters =>
    some <|
      if isAlphanumeric c then (.name quoted (c :: letters), [])
      else if c = '\x7b' ∧ letters = [] then (.braced quoted [], [])
      else if c = '$' then (.name quoted [], substitute vs letters)
      else (.text quoted, substitute vs letters ++ [c])
  | .braced quoted letters =>
    some <|
      if c = '\x7d' then (.text quoted, substitute vs letters)
      else (.braced quoted (c :: letters), [])
  | .text quoted =>
    some <|
      if c = '$' then (.name quoted [], [])
      else if c = '"' then (.text !quoted, [])
      else if c = '\\' then (.escape quoted, [])
      else if quoted then (.text quoted, [c])
      else if c = '\'' then (.single, [])
      else if c = ' ' ∨ c = '\t' then (.ended, [])
      else (.text quoted, [c])

/-- What the end of the value adds to it. No quote and no brace may be open there. -/
def ValueState.finish? (vs : Variables) : ValueState → Option (List Char)
  | .text quoted | .escape quoted => if quoted then none else some []
  | .name quoted letters => if quoted then none else some (substitute vs letters)
  | .single | .braced _ _ => none
  | .ended | .comment => some []

def evaluate? (vs : Variables) (state : ValueState) : List Char → Option (List Char)
  | [] => state.finish? vs
  | c :: s => do
    let (state, added) ← state.next? vs c
    return added ++ (← evaluate? vs state s)

/-! ## Assignments -/

def readVariable? (s : List Char) : Option (List Char × List Char) :=
  match s with
  | [] => none
  | c :: _ =>
    if c.isAlpha ∨ c = '_' then
      some (s.span fun c => c.isAlphanum || c = '_' || c = '.')
    else none

/-- Reads the name of a variable and the sign that a value follows, after the word `export` or
without it. -/
def readTarget? (s : List Char) : Option (List Char × List Char) := do
  let (name, s) ← readVariable? s
  match skipBlanks s with
  | '=' :: s => return (name, s)
  | s =>
    if name ≠ "export".toList then none
    else
      let (name, s) ← readVariable? s
      match skipBlanks s with
      | '=' :: s => return (name, s)
      | _ => none

def obey? (vs : Variables) (line : List Char) : Option Variables :=
  let s := trim line
  if s.isEmpty ∨ s.head? = some '#' then some vs
  else do
    let (name, s) ← readTarget? s
    let s := skipBlanks s
    let value ← if s.head? = some '#' then some [] else evaluate? vs (.text false) s
    return vs.assign (String.ofList name) (String.ofList value)

def Variables.addFile? (vs : Variables) (text : String) : Option Variables := do
  let s := match text.toList with
    | '\uFEFF' :: s => s
    | s => s
  (← joinLines [] .complete (splitLines s)).foldlM obey? vs

end RecordTables.Config
