import RecordTables.Declaration.Definition
import RecordTables.Text

/-! # Compact texts of types

The compact text of a type has no blanks and no comments. Among generic arguments and among generic
parameters the lifetimes stand first. What says nothing is left out: parameters of which there are
none, a colon without bounds, the word `where` without conditions, and the visibility of a variant.
Arguments of macros and of attributes are kept as they are written. -/

namespace RecordTables.TypeText

open RecordTables.Text RecordTables.Definition

abbrev Piece := LexemeTree × List Char

/-- An item of a list with commas, and whether a comma follows it. -/
structure Item where
  pieces : List Piece
  comma : Bool

namespace Item

/-- The items of a list, of which the first begins with the given pieces. -/
def split (begun : List Piece) : List Piece → List Item
  | [] => if begun.isEmpty then [] else [⟨begun, false⟩]
  | p :: ps => if p.1.is "," then ⟨begun, true⟩ :: split [] ps else split (begun ++ [p]) ps

def isLifetime (i : Item) : Bool :=
  i.pieces.length = 1 && i.pieces.all fun p => p.1.hasKind .lifetime

def declaresLifetime (i : Item) : Bool :=
  headIs (skipAttributes (i.pieces.map Prod.fst)) (·.hasKind .lifetime)

/-- The text of a list. A comma stands between two items, and the last keeps its own. -/
def textOf : List Item → List Char
  | [] => []
  | i :: rest =>
    i.pieces.flatMap Prod.snd ++ (if i.comma || !rest.isEmpty then [','] else []) ++ textOf rest

def textWithFirst (first : Item → Bool) (pieces : List Piece) : List Char :=
  let items := split [] pieces
  textOf (items.filter first ++ items.filter fun i => !first i)

end Item

/-- How far the head of a definition has been read. What is `bounded` may have a colon with bounds
after its name and its parameters. -/
inductive Header where
  | none
  | keyword (bounded : Bool)
  | name (bounded : Bool)
  deriving DecidableEq

/-- What is known of a place in a text: what is before it, the last first, how many of the trees
after it are kept as they are written, what the next braces hold, and whether a definition or a
variant can begin here. -/
structure Context where
  before : List LexemeTree
  header : Header
  kept : Nat
  body : Scope
  starts : Bool

/-- What becomes of a tree. -/
inductive Treatment where
  | keep
  | write (text : List Char)
  | enter (scope : Scope)

def Treatment.drop : Treatment := .write []

def initialBody (scope : Scope) : Scope :=
  if scope = .variants then .code else .block

def holdsDefinitions (scope : Scope) : Bool :=
  scope ∈ [.block, .traitBody, .implBody, .externBody]

/-- The number in decimal digits, if it is a whole number. -/
def decimalIndex? (s : List Char) : Option (List Char) :=
  let (base, ds) := match s with
    | '0' :: 'x' :: ds => (16, ds)
    | '0' :: 'o' :: ds => (8, ds)
    | '0' :: 'b' :: ds => (2, ds)
    | ds => (10, ds)
  let values := (ds.filter (· ≠ '_')).map hexValue?
  if values.all fun v => (v.map (decide <| · < base)).getD false then
    some (digits (values.foldl (fun n v => base * n + v.getD 0) 0))
  else none

/-- The positions of members, with points between them, in decimal digits. -/
def memberPositions (s : List Char) : List Char :=
  ['.'].intercalate ((s.splitOn '.').map fun part =>
    if part.isEmpty then part else (decimalIndex? part).getD part)

/-- How many trees are kept as they are written though no definition begins with them: what gives up
its place to another function, a boxed pattern, a pointer to anything of a kind, a bound that holds
in constants, and a changeable argument of that name in the type of a function. -/
def keptPhrase (scope : Scope) (c : Context) (ts : List LexemeTree) : Nat :=
  let upTo (marks : List String) : Nat :=
    (ts.takeWhile fun t => !(t.isOneOf marks || t.isGroup .curly)).length
  let rest := ts.drop 1
  if headIs ts (·.is "become") then (ts.takeWhile fun t => !t.isOneOf [";", ","]).length
  else if headIs ts (·.is "box") then
    upTo ["=", "=>", ",", "|", "if", "in", ";", ":"]
  else if headIs ts (·.is "dyn") && headIs rest (·.is "*") then
    upTo [",", "=", ";", "|", "=>", "where"]
  else if scope = .pointerArguments && c.starts && headIs ts (·.is "mut") &&
      headIs rest (·.is "self") then
    upTo [","]
  else
    let isConstant := match ts with
      | .group .square [t] :: _ => t.is "const"
      | t :: u :: _ => t.is "const" && !u.isGroup .curly
      | _ => false
    if isConstant && headIs c.before (·.isOneOf [":", "+", "impl", "dyn"]) then
      upTo ["+", ",", "=", ";", "where"]
    else 0

namespace Context

def start (scope : Scope) : Context :=
  ⟨[], .none, 0, initialBody scope, true⟩

def follows (c : Context) (s : String) : Bool :=
  headIs c.before (·.is s)

def opensAttribute (c : Context) : Bool :=
  match c.before with
  | a :: b :: _ => a.is "#" || (a.is "!" && b.is "#")
  | [a] => a.is "#"
  | [] => false

/-- The place, with what the trees after it are taken for. -/
def prepare (scope : Scope) (c : Context) (ts : List LexemeTree) : Context :=
  if c.kept ≠ 0 then c
  else if c.starts && holdsDefinitions scope then
    let length := keptLength scope ts
    { c with
      kept := if length = 0 then keptPhrase scope c ts else length
      body := if scope = .block then bodyScope ts else .block }
  else { c with kept := keptPhrase scope c ts }

/-- How far the head of a definition has been read after a tree. -/
def nextHeader (c : Context) (t : LexemeTree) (rest : List LexemeTree) : Header :=
  if c.kept ≠ 0 then .none
  else if t.isOneOf ["struct", "enum", "fn"] || (t.is "union" && headIs rest isName) then
    .keyword false
  else if t.isOneOf ["trait", "type"] then .keyword true
  else
    match c.header with
    | .keyword bounded => if isName t then .name bounded else .none
    | .name bounded => if t.isGroup .angle then .name bounded else .none
    | .none => .none

def startsAfter (scope : Scope) (c : Context) (t : LexemeTree) : Bool :=
  let afterAttribute := t.isGroup .square && c.opensAttribute
  if holdsDefinitions scope then
    t.is ";" || t.isGroup .curly || (afterAttribute && c.follows "!") ||
      match t with
      | .leaf l => l.kind = .documentation && l.isInner
      | _ => false
  else if scope = .variants then t.is "," || afterAttribute || t.hasKind .documentation
  else if scope = .pointerArguments then afterAttribute || t.hasKind .documentation
  else false

def next (scope : Scope) (c : Context) (t : LexemeTree) (rest : List LexemeTree) : Context where
  before := t :: c.before
  header := c.nextHeader t rest
  kept := c.kept - 1
  body :=
    if scope = .variants then if t.is "=" then .block else if t.is "," then .code else c.body
    else if t.is ";" || (t.isGroup .curly && !isMacroArgument c.before) then initialBody scope
    else c.body
  starts := c.startsAfter scope t

/-- Whether a colon here has no bounds after it. -/
def isIdleColon (scope : Scope) (c : Context) (rest : List LexemeTree) : Bool :=
  if c.header = .name true then
    headIs rest fun t => t.isOneOf ["where", ";", "="] || t.isGroup .curly
  else
    scope ∈ [.parameters, .binder] && (rest.isEmpty || headIs rest (·.isOneOf [",", "="]))

def isPosition (scope : Scope) (c : Context) (rest : List LexemeTree) : Bool :=
  let begins := c.before.isEmpty || c.follows "," || headIs c.before fun t =>
    t.hasKind .documentation || t.isGroup .square
  c.follows "." || (scope = .block && begins && headIs rest (·.is ":"))

/-- Whether the tree before the place can be the lower end of a range. -/
def followsBound (c : Context) : Bool :=
  headIs c.before fun t => t.hasKind .literal || t.hasKind .number || t.hasKind .name ||
    t.isGroup .angle || t.isGroup .curly

def leafTreatment (scope : Scope) (c : Context) (l : Lexeme) (rest : List LexemeTree) :
    Treatment :=
  let t := LexemeTree.leaf l
  if t.is "where" then
    if rest.isEmpty || headIs rest (fun t => t.isOneOf [";", "="] || t.isGroup .curly) then .drop
    else .keep
  else if t.is ":" then if c.isIdleColon scope rest then .drop else .keep
  else if t.is "::" then if headIs rest (·.isGroup .round) then .drop else .keep
  else if t.is "..." then if c.followsBound then .write "..=".toList else .keep
  else if t.is "pub" then if scope = .variants && c.starts then .drop else .keep
  else if l.kind = .number && c.isPosition scope rest then .write (memberPositions l.chars)
  else .keep

def groupTreatment (scope : Scope) (c : Context) (b : Bracket) (content : List LexemeTree) :
    Treatment :=
  let parameters : Treatment := if content.isEmpty then .drop else .enter .parameters
  if isMacroArgument c.before && b ≠ .angle then .keep
  else
    match b with
    | .angle =>
      match c.header with
      | .name _ => parameters
      | _ =>
        if c.follows "for" then .enter .binder
        else if c.follows "impl" && areParameters (.group .angle content) then parameters
        else .enter .arguments
    | .square =>
      if !c.opensAttribute then .enter .code
      else
        match content.find? fun t => t.is "=" || t.isGroup .round || t.isGroup .square ||
            t.isGroup .curly with
        | some t => if t.is "=" then .enter .code else .keep
        | none => .keep
    | .round =>
      if scope = .variants && c.follows "pub" then .drop
      else .enter (if c.follows "fn" then .pointerArguments else .code)
    | .curly => if c.follows "struct" then .keep else .enter c.body

def treatment (scope : Scope) (c : Context) (t : LexemeTree) (rest : List LexemeTree) :
    Treatment :=
  if c.kept ≠ 0 then .keep
  else
    match t with
    | .leaf l => c.leafTreatment scope l rest
    | .group b content => c.groupTreatment scope b content

end Context

def enclosed (scope : Scope) (b : Bracket) (pieces : List Piece) : List Char :=
  let content :=
    match scope with
    | .arguments => Item.textWithFirst Item.isLifetime pieces
    | .parameters => Item.textWithFirst Item.declaresLifetime pieces
    | _ => pieces.flatMap Prod.snd
  b.opening :: content ++ [b.closing]

mutual

def written (treatment : Treatment) : LexemeTree → List Char
  | .leaf l =>
    match treatment with
    | .write s => s
    | _ => l.text
  | .group b content =>
    match treatment with
    | .write s => s
    | .keep => LexemeTree.text (.group b content)
    | .enter scope => enclosed scope b (pieces scope (Context.start scope) content)

def pieces (scope : Scope) (c : Context) : List LexemeTree → List Piece
  | [] => []
  | t :: rest =>
    let c := c.prepare scope (t :: rest)
    (t, written (c.treatment scope t rest) t) :: pieces scope (c.next scope t rest) rest

end

/-- The compact text of a type or of a path. A byte order mark before it is no part of it. -/
def compact (text : String) : String :=
  let chars := match text.toList with
    | '\ufeff' :: s => s
    | s => s
  let trees := LexemeTree.ofLexemes (Lexeme.ofChars chars)
  String.ofList ((pieces .code (Context.start .code) trees).flatMap Prod.snd)

end RecordTables.TypeText
