import RecordTables.Config.Scalar
import RecordTables.Config.Token

/-! # Configuration documents

A document is a sequence of lines. A header opens a group, or the next group of a series; the lines
after it give settings to names of that group. Lists and groups between braces nest at most 80
deep, and no key has more than 80 names. A line that is wrong makes the whole document wrong. -/

namespace RecordTables.Config

/-- The deepest nesting of lists and groups between braces, and the most names of a key. -/
def greatestDepth : Nat := 80

mutual

/-- Reads a value. `fuel` bounds the steps, `depth` the nesting. -/
def readValue? : (fuel depth : Nat) → List Char → Option (Setting × List Char)
  | 0, _, _ => none
  | fuel + 1, depth, s =>
    match s with
    | '[' :: s =>
      match depth with
      | 0 => none
      | depth + 1 => (readItems? fuel depth s).map fun (items, s) => (.list items, s)
    | '\x7b' :: s =>
      match depth with
      | 0 => none
      | depth + 1 =>
        (readEntries? fuel depth ⟨.header, []⟩ s).map fun (g, s) =>
          (.group .braces g.entries, s)
    | s =>
      if s.head? = some '"' ∨ s.head? = some '\'' then
        (readText? s).map fun (cs, s) => (.text (String.ofList cs), s)
      else readScalar? s

/-- Reads the items of a list up to the bracket that closes it. -/
def readItems? : (fuel depth : Nat) → List Char → Option (List Setting × List Char)
  | 0, _, _ => none
  | fuel + 1, depth, s =>
    match skipLines false s with
    | ']' :: s => some ([], s)
    | s => do
      let (item, s) ← readValue? fuel depth s
      match skipLines false s with
      | ',' :: s => do
        let (items, s) ← readItems? fuel depth s
        return (item :: items, s)
      | ']' :: s => some ([item], s)
      | _ => none

/-- Reads the settings of a group up to the brace that closes it. -/
def readEntries? : (fuel depth : Nat) → Group → List Char → Option (Group × List Char)
  | 0, _, _, _ => none
  | fuel + 1, depth, g, s =>
    match skipLines false s with
    | '\x7d' :: s => some (g, s)
    | s => do
      let ((path, name), s) ← readKey? greatestDepth s
      match skipLines false s with
      | '=' :: s => do
        let (setting, s) ← readValue? fuel depth (skipLines false s)
        let g ← g.addSetting path name setting
        match skipLines false s with
        | ',' :: s => readEntries? fuel depth g s
        | '\x7d' :: s => some (g, s)
        | _ => none
      | _ => none

end

/-- Reads lines. `path` leads to the group that gets the settings. -/
def readLines? : (fuel : Nat) → (path : List String) → Group → List Char → Option Group
  | 0, _, _, _ => none
  | fuel + 1, path, g, s =>
    match skipLines false s with
    | [] => some g
    | '[' :: '[' :: s => do
      let ((outer, name), s) ← readKey? greatestDepth s
      match s with
      | ']' :: ']' :: s => do
        let rest ← endLine? s
        let g ← g.descend false (·.openNext name) outer
        readLines? fuel (outer ++ [name]) g rest
      | _ => none
    | '[' :: s => do
      let ((outer, name), s) ← readKey? greatestDepth s
      match s with
      | ']' :: s => do
        let rest ← endLine? s
        let g ← g.descend false (·.openGroup name) outer
        readLines? fuel (outer ++ [name]) g rest
      | _ => none
    | s => do
      let ((inner, name), s) ← readKey? greatestDepth s
      match s with
      | '=' :: s => do
        let (setting, s) ← readValue? fuel greatestDepth (skipSpace s)
        let rest ← endLine? s
        let g ← g.descend false (·.addSetting inner name setting) path
        readLines? fuel path g rest
      | _ => none

def skipMark : List Char → List Char
  | '\uFEFF' :: s => s
  | s => s

def readDocument? (text : String) : Option Entries :=
  let s := skipMark text.toList
  (readLines? (2 * s.length + 2) [] ⟨.header, []⟩ s).map Group.entries

end RecordTables.Config
