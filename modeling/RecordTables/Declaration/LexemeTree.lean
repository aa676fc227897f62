import RecordTables.Declaration.Lexeme

/-! # Trees of lexemes

The lexemes of a text, with those between brackets as groups. An angle bracket opens a group only if
a bracket closes it before a semicolon, an arrow of a choice, a block or the end of the group around
it; otherwise it compares. -/

namespace RecordTables

inductive Bracket where
  | round
  | square
  | curly
  | angle
  deriving DecidableEq

namespace Bracket

def opening : Bracket → Char
  | round => '('
  | square => '['
  | curly => '\x7b'
  | angle => '<'

def closing : Bracket → Char
  | round => ')'
  | square => ']'
  | curly => '\x7d'
  | angle => '>'

end Bracket

/-- A lexeme, or a pair of brackets with what is between them. -/
inductive LexemeTree where
  | leaf (lexeme : Lexeme)
  | group (bracket : Bracket) (content : List LexemeTree)

namespace LexemeTree

def mark (c : Char) : LexemeTree :=
  leaf ⟨.mark, [c]⟩

mutual

def text : LexemeTree → List Char
  | leaf l => l.text
  | group b content => b.opening :: textOf content ++ [b.closing]

def textOf : List LexemeTree → List Char
  | [] => []
  | t :: rest => text t ++ textOf rest

end

def is (t : LexemeTree) (s : String) : Bool :=
  match t with
  | leaf l => l.chars = s.toList
  | group _ _ => false

def isOneOf (t : LexemeTree) (words : List String) : Bool :=
  words.any t.is

def isGroup (t : LexemeTree) (bracket : Bracket) : Bool :=
  match t with
  | leaf _ => false
  | group b _ => b = bracket

def hasKind (t : LexemeTree) (kind : LexemeKind) : Bool :=
  match t with
  | leaf l => l.kind = kind
  | group _ _ => false

/-- A place in a text: what is before it since the last bracket that is still open, and the brackets
that are still open with what is before each, the last first everywhere. -/
structure Place where
  before : List LexemeTree
  around : List (Bracket × List LexemeTree)

namespace Place

def push (p : Place) (t : LexemeTree) : Place :=
  { p with before := t :: p.before }

def enter (p : Place) (b : Bracket) : Place :=
  ⟨[], (b, p.before) :: p.around⟩

def leave (p : Place) (b : Bracket) : Place :=
  match p.around with
  | [] => p.push (mark b.closing)
  | (b, outer) :: around => ⟨group b p.before.reverse :: outer, around⟩

/-- The place, with the innermost angle brackets as signs of comparison. -/
def compare (before : List LexemeTree) : List (Bracket × List LexemeTree) → Place
  | (.angle, outer) :: around => compare (before ++ mark '<' :: outer) around
  | around => ⟨before, around⟩

def isInAngle (p : Place) : Bool :=
  (p.around.head?.map fun (b, _) => b = .angle).getD false

/-- Whether an argument between angle brackets can begin with a block here. -/
def startsArgument (p : Place) : Bool :=
  (p.before.head?.map fun t => t.isOneOf [",", "=", "!"]).getD true

def step (p : Place) (l : Lexeme) : Place :=
  let settled := compare p.before p.around
  match l.kind, l.chars with
  | .blank, _ => p
  | .comment, _ => p
  | .mark, ['<'] => p.enter .angle
  | .mark, ['>'] => if p.isInAngle then p.leave .angle else p.push (leaf l)
  | .mark, ['('] => p.enter .round
  | .mark, ['['] => p.enter .square
  | .mark, ['\x7b'] => if p.startsArgument then p.enter .curly else settled.enter .curly
  | .mark, [')'] => settled.leave .round
  | .mark, [']'] => settled.leave .square
  | .mark, ['\x7d'] => settled.leave .curly
  | .mark, [';'] => settled.push (leaf l)
  | .mark, ['=', '>'] => settled.push (leaf l)
  | _, _ => p.push (leaf l)

/-- The trees before a place where the text ends, with the brackets that are still open as marks. -/
def trees (before : List LexemeTree) : List (Bracket × List LexemeTree) → List LexemeTree
  | [] => before.reverse
  | (b, outer) :: around => trees (before ++ mark b.opening :: outer) around

end Place

/-- The trees of lexemes. Blanks and comments are left out. -/
def ofLexemes (lexemes : List Lexeme) : List LexemeTree :=
  let p := lexemes.foldl Place.step ⟨[], []⟩
  Place.trees p.before p.around

end LexemeTree

end RecordTables
