import RecordTables.Declaration.LexemeTree

/-! # Definitions inside types

The length of an array type and some generic arguments are expressions, so definitions can stand
inside a type. What the braces of a definition hold depends on the definition. One of an unfinished
or unusual form, such as a function without a body or a constant without a value, is kept as it is
written. -/

namespace RecordTables

/-- What a part of a text consists of. -/
inductive Scope where
  | code
  | pointerArguments
  | block
  | variants
  | traitBody
  | implBody
  | externBody
  | arguments
  | parameters
  | binder
  deriving DecidableEq

namespace Definition

/-- The words that are no names. -/
def keywords : List String :=
  ["_", "abstract", "as", "async", "await", "become", "box", "break", "const", "continue", "crate",
    "do", "dyn", "else", "enum", "extern", "false", "final", "fn", "for", "if", "impl", "in", "let",
    "loop", "macro", "match", "mod", "move", "mut", "override", "priv", "pub", "ref", "return",
    "Self", "self", "static", "struct", "super", "trait", "true", "try", "type", "typeof", "unsafe",
    "unsized", "use", "virtual", "where", "while", "yield"]

def isName (t : LexemeTree) : Bool :=
  t.hasKind .name && !t.isOneOf keywords

def endsPath (t : LexemeTree) : Bool :=
  isName t || t.isOneOf ["self", "Self", "super", "crate", "try"]

/-- Whether a group is the argument of a macro, given what is before it, the last first. -/
def isMacroArgument (before : List LexemeTree) : Bool :=
  match before with
  | a :: b :: before =>
    (a.is "!" && endsPath b) ||
      (isName a && (b.is "#" || (b.is "!" && (before.head?.map endsPath).getD false)))
  | _ => false

def headIs (ts : List LexemeTree) (property : LexemeTree → Bool) : Bool :=
  (ts.head?.map property).getD false

/-- What follows the attributes and the documentation at the beginning. -/
def skipAttributes : List LexemeTree → List LexemeTree
  | [] => []
  | [t] => [t]
  | t :: u :: ts =>
    if t.hasKind .documentation then skipAttributes (u :: ts)
    else if t.is "#" && u.isGroup .square then skipAttributes ts
    else t :: u :: ts

def skipVisibility : List LexemeTree → List LexemeTree
  | [] => []
  | t :: ts =>
    if !t.is "pub" then t :: ts else if headIs ts (·.isGroup .round) then ts.drop 1 else ts

def skipWord (words : List String) (ts : List LexemeTree) : List LexemeTree :=
  if headIs ts (·.isOneOf words) then ts.drop 1 else ts

def skipConvention (ts : List LexemeTree) : List LexemeTree :=
  if !headIs ts (·.is "extern") then ts
  else if headIs (ts.drop 1) (·.hasKind .literal) then ts.drop 2
  else ts.drop 1

def function? (ts : List LexemeTree) : Option (List LexemeTree) :=
  let ts := skipWord ["unsafe", "safe"] (skipWord ["async"] (skipWord ["const"] ts))
  let ts := skipConvention ts
  if headIs ts (·.is "fn") then some (ts.drop 1) else none

/-- The semicolon or the braces at the end of a definition, and what follows them. -/
def ending? (before : List LexemeTree) :
    List LexemeTree → Option (LexemeTree × List LexemeTree)
  | [] => none
  | t :: ts =>
    if t.is ";" || (t.isGroup .curly && !isMacroArgument before) then some (t, ts)
    else ending? (t :: before) ts

def clause (ts : List LexemeTree) : List LexemeTree :=
  ts.takeWhile fun t => !t.is ";"

def afterClause (ts : List LexemeTree) : List LexemeTree :=
  ts.drop ((clause ts).length + 1)

def clauseHas (word : String) (ts : List LexemeTree) : Bool :=
  (clause ts).any (·.is word)

def unfinishedFunction? (ts : List LexemeTree) : Option (List LexemeTree) := do
  let (t, rest) ← ending? [] (← function? ts)
  if t.is ";" then some rest else none

/-- What follows a constant with parameters, with conditions or without a value, which may be
missing if it is not `needed`. -/
def unusualConstant? (needed : Bool) : List LexemeTree → Option (List LexemeTree)
  | t :: name :: ts =>
    if t.is "const" && (isName name || name.is "_") &&
        (headIs ts (·.isGroup .angle) || clauseHas "where" ts || (needed && !clauseHas "=" ts)) then
      some (afterClause ts)
    else none
  | _ => none

def alias? : List LexemeTree → Option (List LexemeTree)
  | t :: _ :: ts =>
    if !t.is "type" then none else if headIs ts (·.isGroup .angle) then ts.drop 1 else ts
  | _ => none

/-- What follows an alias with bounds or without a value. -/
def unfinishedAlias? (ts : List LexemeTree) : Option (List LexemeTree) := do
  let ts ← alias? ts
  if headIs ts (·.is ":") || !clauseHas "=" ts then some (afterClause ts) else none

/-- What follows a variable without a type or without a value. -/
def unfinishedStatic? (ts : List LexemeTree) : Option (List LexemeTree) :=
  let rest := skipWord ["mut"] (ts.drop 1)
  if headIs ts (·.is "static") && headIs rest isName &&
      (headIs (rest.drop 1) (·.is "=") || !clauseHas "=" rest) then
    some (afterClause rest)
  else none

/-- Whether angle brackets after the keyword of an implementation hold its parameters, and are not
part of the type that it is for. -/
def areParameters : LexemeTree → Bool
  | .group .angle content =>
    match content with
    | [] => true
    | t :: ts =>
      t.isOneOf ["#", "const"] ||
        ((isName t || t.hasKind .lifetime) &&
          (ts.isEmpty || headIs ts (·.isOneOf [":", "::", ",", "="])))
  | _ => false

def isPath (ts : List LexemeTree) : Bool :=
  headIs ts (fun t => endsPath t || t.is "::") && !ts.any (·.isOneOf ["+", "!"])

def implementation? (ts : List LexemeTree) : Option (List LexemeTree) :=
  let ts := skipWord ["unsafe"] (skipWord ["default"] ts)
  if headIs ts (·.is "impl") then some (ts.drop 1) else none

/-- What follows an implementation with a visibility, one that is constant, and one of something
that is not a trait. -/
def unusualImplementation? (visible : Bool) (ts : List LexemeTree) :
    Option (List LexemeTree) := do
  let ts ← implementation? ts
  let ts := if headIs ts areParameters then ts.drop 1 else ts
  let constant := headIs (skipWord ["?"] ts) (·.is "const")
  let ts := skipWord ["!"] ts
  let subject := ts.takeWhile fun t => !(t.isOneOf ["for", "where"] || t.isGroup .curly)
  let hasObject := headIs (ts.drop subject.length) (·.is "for")
  if visible || constant || (hasObject && !isPath subject) then
    (ending? [] ts).map (·.2)
  else none

def macroDefinition? (ts : List LexemeTree) : Option (List LexemeTree) :=
  if headIs ts (·.is "macro") then (ending? [] ts).map (·.2) else none

/-- What follows a definition of a trait's body with a visibility or as a default. -/
def afterMember (ts : List LexemeTree) : List LexemeTree :=
  let ts := skipWord ["default"] ts
  match function? ts with
  | some rest => ((ending? [] rest).map (·.2)).getD []
  | none => afterClause ts

/-- What follows an external definition that says of itself how safe it is, or has a body or a
value. -/
def unusualExternal? (ts : List LexemeTree) : Option (List LexemeTree) :=
  let plain := skipWord ["unsafe", "safe"] ts
  match function? ts with
  | some rest => do
    let (t, after) ← ending? [] rest
    if !t.is ";" || (ts.takeWhile fun t => !t.is "fn").any (·.is "safe") then some after else none
  | none =>
    if headIs plain (·.is "static") then
      if plain.length < ts.length || clauseHas "=" ts then some (afterClause ts) else none
    else do
      let rest ← alias? ts
      if headIs rest (·.is ":") || clauseHas "=" rest then some (afterClause rest) else none

/-- What follows a definition that is kept as it is written, if one begins here. -/
def keptRest? (scope : Scope) (ts : List LexemeTree) : Option (List LexemeTree) :=
  let plain := skipAttributes ts
  let ts := skipVisibility plain
  let visible := ts.length < plain.length
  match scope with
  | .block =>
    unfinishedFunction? ts <|> unfinishedStatic? ts <|> unusualConstant? true ts <|>
      unfinishedAlias? ts <|> unusualImplementation? visible ts <|> macroDefinition? ts
  | .implBody =>
    let ts := skipWord ["default"] ts
    unfinishedFunction? ts <|> unusualConstant? true ts <|> unfinishedAlias? ts
  | .traitBody =>
    if visible || (headIs ts (·.is "default") && !headIs (ts.drop 1) (·.is "!")) then
      some (afterMember ts)
    else unusualConstant? false ts
  | .externBody => unusualExternal? ts
  | _ => none

/-- How many trees are kept as they are written, if a definition begins with the first. -/
def keptLength (scope : Scope) (ts : List LexemeTree) : Nat :=
  ((keptRest? scope ts).map fun rest => ts.length - rest.length).getD 0

/-- What the braces of a definition hold, if one begins here. -/
def bodyScope (ts : List LexemeTree) : Scope :=
  let ts := skipVisibility (skipAttributes ts)
  let bare := skipWord ["unsafe"] ts
  if headIs ts (·.is "enum") then .variants
  else if headIs ts (·.is "struct") || (headIs ts (·.is "union") && headIs (ts.drop 1) isName) then
    .code
  else if headIs (skipWord ["auto"] bare) (·.is "trait") then .traitBody
  else if (implementation? ts).isSome then .implBody
  else if headIs bare (·.is "extern") && headIs (skipConvention bare) (·.isGroup .curly) then
    .externBody
  else .block

end Definition

end RecordTables
