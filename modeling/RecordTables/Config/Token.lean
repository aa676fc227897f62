import RecordTables.Text.Hex

/-! # Tokens of configuration documents

Blanks, comments and line ends; keys with dots; texts between double or single quotes, on one line
or on several. No text and no comment holds a control character other than a tab; a text on several
lines holds their ends as they are written. -/

namespace RecordTables.Config

open RecordTables.Text

def skipSpace (s : List Char) : List Char :=
  s.dropWhile fun c => c = ' ' || c = '\t'

/-- Whether a character may stand in a comment or between quotes. -/
def isPlain (c : Char) : Bool :=
  c = '\t' || (' ' ≤ c && c ≠ '\x7f')

def newline? : List Char → Option (List Char)
  | '\n' :: s => some s
  | '\r' :: '\n' :: s => some s
  | _ => none

/-- The text after a line of which only blanks and a comment are left. -/
def endLine? (s : List Char) : Option (List Char) :=
  let s := match skipSpace s with
    | '#' :: s => s.dropWhile isPlain
    | s => s
  if s.isEmpty then some [] else newline? s

def skipLines (comment : Bool) : List Char → List Char
  | [] => []
  | '\n' :: s => skipLines false s
  | '\r' :: '\n' :: s => skipLines false s
  | c :: s =>
    if comment then if isPlain c then skipLines true s else c :: s
    else if c = ' ' ∨ c = '\t' then skipLines false s
    else if c = '#' then skipLines true s
    else c :: s

def coded? (ds : List Char) : Option Char := do
  let n ← ofHexDigits? ds
  if n.isValidChar then some (Char.ofNat n) else none

/-- The character that an escape stands for, and the length of the escape after its backslash. -/
def escape? : List Char → Option (Char × Nat)
  | [] => none
  | c :: s =>
    let code (width : Nat) : Option (Char × Nat) :=
      if s.length < width then none else (coded? (s.take width)).map fun c => (c, width + 1)
    match c with
    | 'b' => some ('\x08', 1)
    | 't' => some ('\t', 1)
    | 'n' => some ('\n', 1)
    | 'f' => some ('\x0c', 1)
    | 'r' => some ('\r', 1)
    | 'e' => some ('\x1b', 1)
    | '"' => some ('"', 1)
    | '\\' => some ('\\', 1)
    | 'x' => code 2
    | 'u' => code 4
    | 'U' => code 8
    | _ => none

def before (c : Char) (read : Option (List Char × List Char)) : Option (List Char × List Char) :=
  read.map fun (cs, rest) => (c :: cs, rest)

/-- Reads a text with escapes after its opening quote, and the quote that closes it. -/
def readEscaped? : List Char → Option (List Char × List Char)
  | [] => none
  | '"' :: s => some ([], s)
  | c :: s =>
    if c = '\\' then
      match escape? s with
      | some (c, n) => before c (readEscaped? (s.drop n))
      | none => none
    else if isPlain c then before c (readEscaped? s)
    else none
termination_by s => s.length
decreasing_by all_goals simp only [List.length_cons, List.length_drop]; omega

def readVerbatim? : List Char → Option (List Char × List Char)
  | [] => none
  | '\'' :: s => some ([], s)
  | c :: s => if isPlain c then before c (readVerbatim? s) else none

/-- The quotes of a text on several lines that stand right before the three that close it: two at
most. -/
def lastQuotes (quote : Char) (s : List Char) : List Char × List Char :=
  let n := ((s.take 2).takeWhile (· = quote)).length
  (List.replicate n quote, s.drop n)

def isLineLeft (s : List Char) : Bool :=
  (newline? (skipSpace s)).isSome

/-- Reads a text on several lines with escapes after its opening quotes, and the quotes that close
it. A backslash at the end of a line joins it with the next character that is not blank: then
`joining` holds. -/
def readEscapedLines? (joining : Bool) : List Char → Option (List Char × List Char)
  | [] => none
  | '"' :: '"' :: '"' :: s => some (lastQuotes '"' s)
  | '\r' :: '\n' :: s =>
    if joining then readEscapedLines? true s
    else before '\r' (before '\n' (readEscapedLines? false s))
  | c :: s =>
    if joining ∧ (c = ' ' ∨ c = '\t' ∨ c = '\n') then readEscapedLines? true s
    else if c = '\\' then
      if isLineLeft s then readEscapedLines? true s
      else
        match escape? s with
        | some (c, n) => before c (readEscapedLines? false (s.drop n))
        | none => none
    else if c = '\n' ∨ isPlain c then before c (readEscapedLines? false s)
    else none
termination_by s => s.length
decreasing_by all_goals simp only [List.length_cons, List.length_drop]; omega

def readVerbatimLines? : List Char → Option (List Char × List Char)
  | [] => none
  | '\'' :: '\'' :: '\'' :: s => some (lastQuotes '\'' s)
  | '\r' :: '\n' :: s => before '\r' (before '\n' (readVerbatimLines? s))
  | c :: s => if c = '\n' ∨ isPlain c then before c (readVerbatimLines? s) else none

/-- A text on several lines does not begin with the end of the line of its opening quotes. -/
def afterOpening (s : List Char) : List Char :=
  (newline? s).getD s

def readText? : List Char → Option (List Char × List Char)
  | '"' :: '"' :: '"' :: s => readEscapedLines? false (afterOpening s)
  | '\'' :: '\'' :: '\'' :: s => readVerbatimLines? (afterOpening s)
  | '"' :: s => readEscaped? s
  | '\'' :: s => readVerbatim? s
  | _ => none

def isKeyChar (c : Char) : Bool :=
  c.isAlphanum || c = '_' || c = '-'

def readName? : List Char → Option (List Char × List Char)
  | '"' :: s => readEscaped? s
  | '\'' :: s => readVerbatim? s
  | s =>
    let name := s.takeWhile isKeyChar
    if name.isEmpty then none else some (name, s.drop name.length)

/-- Reads a key of so many names at most, which have dots between them: the names of the groups that
it passes and the last name. -/
def readKey? : (names : Nat) → List Char → Option ((List String × String) × List Char)
  | 0, _ => none
  | names + 1, s => do
    let (name, s) ← readName? (skipSpace s)
    match skipSpace s with
    | '.' :: s => do
      let ((path, last), s) ← readKey? names s
      return ((String.ofList name :: path, last), s)
    | s => return (([], String.ofList name), s)

end RecordTables.Config
