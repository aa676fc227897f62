/-! # Settings

The data of a configuration document: named settings in groups. How a group came about decides how
it may be extended: one that a longer header or a dotted key only passes through is open, one with
its own header can be extended by headers below it, and one between braces is closed. -/

namespace RecordTables.Config

/-- How a group came about. -/
inductive Origin where
  | header
  | passed
  | dotted
  | braces
  deriving DecidableEq

/-- A setting. A configuration has no use for numbers that are not integers, dates and times. Under
`unreadable` fall numbers that are too large and numerals that write no number. -/
inductive Setting where
  | text (s : String)
  | integer (n : Int)
  | truth (b : Bool)
  | unused
  | unreadable
  | list (items : List Setting)
  | group (origin : Origin) (entries : List (String × Setting))
  | series (groups : List (List (String × Setting)))

namespace Setting

mutual

def isReadable : Setting → Bool
  | .unreadable => false
  | .list items => areReadable items
  | .group _ entries => haveReadable entries
  | .series groups => allHaveReadable groups
  | _ => true

def areReadable : List Setting → Bool
  | [] => true
  | setting :: rest => setting.isReadable && areReadable rest

def haveReadable : List (String × Setting) → Bool
  | [] => true
  | (_, setting) :: rest => setting.isReadable && haveReadable rest

def allHaveReadable : List (List (String × Setting)) → Bool
  | [] => true
  | entries :: rest => haveReadable entries && allHaveReadable rest

end

end Setting

abbrev Entries := List (String × Setting)

/-- A group still to be filled. -/
structure Group where
  origin : Origin
  entries : Entries

namespace Entries

def get? (name : String) (entries : Entries) : Option Setting :=
  (entries.find? fun e => e.1 = name).map (·.2)

/-- Gives a name a setting, in its place if it has one. -/
def put (name : String) (setting : Setting) : Entries → Entries
  | [] => [(name, setting)]
  | (n, s) :: rest =>
    if n = name then (name, setting) :: rest else (n, s) :: put name setting rest

end Entries

namespace Group

/-- Changes the group at the end of a path, adding groups on the way. A dotted key cannot pass a
group that has a header of its own; nothing passes a group between braces. -/
def descend (dotted : Bool) (act : Group → Option Group) : List String → Group → Option Group
  | [], g => act g
  | name :: path, g =>
    match Entries.get? name g.entries with
    | none => do
      let inner ← descend dotted act path ⟨if dotted then .dotted else .passed, []⟩
      return { g with entries := Entries.put name (.group inner.origin inner.entries) g.entries }
    | some (.group origin entries) =>
      if origin = .braces ∨ (dotted ∧ origin = .header) then none
      else do
        let inner ← descend dotted act path ⟨origin, entries⟩
        return { g with entries := Entries.put name (.group inner.origin inner.entries) g.entries }
    | some (.series groups) =>
      match groups.getLast? with
      | none => none
      | some last => do
        let inner ← descend dotted act path ⟨.header, last⟩
        let groups := groups.dropLast ++ [inner.entries]
        return { g with entries := Entries.put name (.series groups) g.entries }
    | some _ => none

/-- Adds a setting under a name that has none yet. -/
def addNew (name : String) (setting : Setting) (g : Group) : Option Group :=
  match Entries.get? name g.entries with
  | none => some { g with entries := g.entries ++ [(name, setting)] }
  | some _ => none

/-- Adds a setting under a dotted key. The group that gets it must have come about in the same way:
by dotted keys if the key has dots, and not by them if it has none. -/
def addSetting (path : List String) (name : String) (setting : Setting) (g : Group) :
    Option Group :=
  let add (inner : Group) : Option Group :=
    if (inner.origin = .dotted) = path.isEmpty then none else inner.addNew name setting
  g.descend true add path

/-- Opens the group of a header, which must be new or only passed through before. -/
def openGroup (name : String) (g : Group) : Option Group :=
  match Entries.get? name g.entries with
  | none => g.addNew name (.group .header [])
  | some (.group .passed entries) =>
    some { g with entries := Entries.put name (.group .header entries) g.entries }
  | some _ => none

def openNext (name : String) (g : Group) : Option Group :=
  match Entries.get? name g.entries with
  | none => g.addNew name (.series [[]])
  | some (.series groups) =>
    some { g with entries := Entries.put name (.series (groups ++ [[]])) g.entries }
  | some _ => none

end Group

end RecordTables.Config
