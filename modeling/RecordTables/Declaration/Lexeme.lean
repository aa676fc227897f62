import RecordTables.Text
import RecordTables.Text.Literal

/-! # Lexemes of type texts

The text of a type is cut into blanks, comments, literals, numbers, lifetimes, names and marks.
Nothing is lost: the characters of the lexemes are those of the text. A comment between `/*` and
`*/` may hold others. A comment for the readers of documentation counts as the attribute that it
stands for. A guard, `r#`, belongs to the name after it. -/

namespace RecordTables

open RecordTables.Text

inductive LexemeKind where
  | blank
  | comment
  | documentation
  | literal
  | number
  | lifetime
  | name
  | mark
  deriving DecidableEq

/-- A part of a text that is read as a whole. -/
structure Lexeme where
  kind : LexemeKind
  chars : List Char
  deriving DecidableEq

namespace Lexeme

/-- Whether a character separates lexemes. The marks that set the direction of writing do. -/
def isGap (c : Char) : Bool :=
  isBlank c || c = '\u200e' || c = '\u200f'

def isNameChar (c : Char) : Bool :=
  c.isAlphanum || c = '_' || ('\x7f' < c && !isGap c)

def lineLength : List Char → Nat
  | [] => 0
  | '\n' :: _ => 0
  | '\r' :: '\n' :: _ => 0
  | _ :: s => lineLength s + 1

/-- The length of a text up to the end of the comment that it begins in, which is inside `depth`
other comments. -/
def commentLength (depth : Nat) : List Char → Nat
  | [] => 0
  | '/' :: '*' :: s => commentLength (depth + 1) s + 2
  | '*' :: '/' :: s => if depth = 0 then 2 else commentLength (depth - 1) s + 2
  | _ :: s => commentLength depth s + 1

/-- The length of a text up to the quote that ends it. A quote after a backslash does not. -/
def quotedLength (quote : Char) : List Char → Nat
  | [] => 0
  | '\\' :: _ :: s => quotedLength quote s + 2
  | c :: s => if c = quote then 1 else quotedLength quote s + 1

/-- The length of a text up to the quote that ends it, the one that `guards` follow. -/
def guardedLength (guards : List Char) : List Char → Nat
  | [] => 0
  | c :: s =>
    if c = '"' ∧ s.take guards.length = guards then guards.length + 1
    else guardedLength guards s + 1

/-- Whether a comment with the given text after its opening mark, which ends in `mark`, is
documentation. -/
def isDocumentation (mark : Char) : List Char → Bool
  | [] => false
  | c :: s => c = '!' || (c = mark && s.head? ≠ some mark && !(mark = '*' && s.head? = some '/'))

def isCharacter (s : List Char) : Bool :=
  s.head? = some '\\' || s[1]? = some '\''

def word (s : List Char) : List Char :=
  s.takeWhile isNameChar

def nameLength (s : List Char) : Nat :=
  match s with
  | 'r' :: '#' :: rest => if (word rest).isEmpty then 1 else (word rest).length + 2
  | s => (word s).length

def named (c : Char) (s : List Char) : LexemeKind × Nat :=
  let name := c :: word s
  let rest := s.drop (word s).length
  let guards := rest.takeWhile (· = '#')
  let content := rest.drop guards.length
  if name ∈ [['r'], ['b', 'r'], ['c', 'r']] ∧ content.head? = some '"' then
    (.literal, name.length + guards.length + guardedLength guards (content.drop 1))
  else if name ∈ [['b'], ['c']] ∧ rest.head? = some '"' then
    (.literal, name.length + quotedLength '"' (rest.drop 1))
  else if name = ['b'] ∧ rest.head? = some '\'' then
    (.literal, name.length + quotedLength '\'' (rest.drop 1))
  else (.name, nameLength (c :: s) - 1)

/-- The length of a number after its first digit. A point belongs to it unless another point or a
name follows. -/
def numberLength (s : List Char) : Nat :=
  let whole := (word s).length
  match s.drop whole with
  | ['.'] => whole + 1
  | '.' :: c :: rest =>
    if c.isDigit then whole + 1 + (word (c :: rest)).length
    else if c = '.' ∨ isNameChar c then whole
    else whole + 1
  | _ => whole

/-- The length of a mark after its first character. Of three colons the last two are a mark. -/
def markLength (c : Char) (s : List Char) : Nat :=
  match c, s with
  | '-', '>' :: _ => 1
  | '=', '>' :: _ => 1
  | ':', ':' :: ':' :: _ => 0
  | ':', ':' :: _ => 1
  | '.', '.' :: '.' :: _ => 2
  | '.', '.' :: '=' :: _ => 2
  | '.', '.' :: _ => 1
  | _, _ => 0

/-- What the lexeme is that begins with `c`, and how many of the characters after `c` belong to
it. -/
def first (c : Char) (s : List Char) : LexemeKind × Nat :=
  let comment (mark : Char) (s : List Char) : LexemeKind :=
    if isDocumentation mark s then .documentation else .comment
  match c, s with
  | '/', '/' :: s => (comment '/' s, lineLength s + 1)
  | '/', '*' :: s => (comment '*' s, commentLength 0 s + 1)
  | '"', s => (.literal, quotedLength '"' s)
  | '\'', s =>
    if isCharacter s then (.literal, quotedLength '\'' s) else (.lifetime, nameLength s)
  | c, s =>
    if isGap c then (.blank, (s.takeWhile isGap).length)
    else if c.isDigit then (.number, numberLength s)
    else if isNameChar c then named c s
    else (.mark, markLength c s)

def ofChars : List Char → List Lexeme
  | [] => []
  | c :: s => ⟨(first c s).1, c :: s.take (first c s).2⟩ :: ofChars (s.drop (first c s).2)
termination_by s => s.length
decreasing_by simp only [List.length_cons, List.length_drop]; omega

/-- The characters of the lexemes are those of the text. -/
theorem flatMap_chars_ofChars (s : List Char) : (ofChars s).flatMap chars = s := by
  fun_induction ofChars s with
  | case1 => rfl
  | case2 c s ih => simp [ih]

def isInner (l : Lexeme) : Bool :=
  l.chars[2]? = some '!'

/-- What a documentation comment says, without the marks of the comment. -/
def documentation (s : List Char) : List Char :=
  if s[1]? = some '*' then (s.drop 3).dropLast.dropLast else s.drop 3

def documentationAttribute (l : Lexeme) : List Char :=
  let mark := if l.isInner then "#![doc=" else "#[doc="
  mark.toList ++ literalChars '"' (documentation l.chars) ++ [']']

/-- The compact text: that of blanks and comments is empty, and no other has a space. -/
def text (l : Lexeme) : List Char :=
  match l.kind with
  | .blank => []
  | .comment => []
  | .documentation => (documentationAttribute l).filter (· ≠ ' ')
  | _ => l.chars.filter (· ≠ ' ')

end Lexeme

end RecordTables
