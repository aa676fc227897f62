import RecordTables.Config.Decode
import RecordTables.Config.Environment

/-! # The place of the configuration

An environment variable, which an environment file may set, names the file of the configuration.
Without it the file has a usual name. -/

namespace RecordTables.Config

/-- The files under the working directory, by their paths. Of two with one path the later counts. -/
abbrev Files := List (String × String)

namespace Files

def names (path : String) : List String :=
  (path.splitOn "/").filter fun n => n ≠ "" && n ≠ "."

def hasFolder (files : Files) (path : List String) : Bool :=
  path.isEmpty || files.any fun f => path.isPrefixOf (names f.1) && path ≠ names f.1

/-- The path without its steps back, each of which must leave a folder. -/
def walk? (files : Files) (here : List String) : List String → Option (List String)
  | [] => some here
  | name :: rest =>
    if ¬files.hasFolder here then none
    else if name ≠ ".." then files.walk? (here ++ [name]) rest
    else if here.isEmpty then none
    else files.walk? here.dropLast rest

/-- The names of a path that stays below the working directory. -/
def resolve? (files : Files) (path : String) : Option (List String) :=
  if path = "" ∨ path.startsWith "/" then none else files.walk? [] (names path)

def read? (files : Files) (path : String) : Option String := do
  let place ← files.resolve? path
  let last := ((path.splitOn "/").getLast?).getD ""
  if last = "" ∨ last = "." then none
  else ((files.filter fun f => names f.1 = place).getLast?).map (·.2)

def has (files : Files) (path : String) : Bool :=
  (files.read? path).isSome || ((files.resolve? path).map files.hasFolder).getD false

end Files

def locationVariable : String := "TABLEMAP_CONFIG"

def usualPath : String := "./tablemap.toml"

def environmentPath : String := ".env"

end RecordTables.Config

namespace RecordTables.AppConfig

open RecordTables.Config

def ofFile (files : Files) (path : String) : Except Failure AppConfig :=
  match files.read? path with
  | none => .error .unreadable
  | some document => ofDocument document

def locate (files : Files) (vs : Variables) : Except Failure AppConfig :=
  match vs.get? locationVariable with
  | some path => ofFile files path
  | none =>
    if files.has usualPath then ofFile files usualPath
    else .error (.invalid (.noLocation locationVariable usualPath))

/-- Reads the configuration, given the variables that are set. The environment file, if there is
one, is obeyed first. -/
def load (files : Files) (vs : Variables) : Except Failure AppConfig :=
  match files.read? environmentPath with
  | none => locate files vs
  | some text =>
    match vs.addFile? text with
    | none => .error .badEnvironment
    | some vs => locate files vs

end RecordTables.AppConfig
