import RecordTables.Config
import RecordTables.Config.Document

/-! # Configurations from documents

The groups `database` and `mapper` of a document make a configuration. Names that mean nothing are
passed over, but nothing unreadable may stand under them. A group may also be given as a list of its
fields in their order, and what is left of the list is not looked at. -/

namespace RecordTables.Config

/-- Why there is no configuration. -/
inductive Failure where
  | malformed
  | unreadable
  | badEnvironment
  | invalid (fault : ConfigFault)
  deriving DecidableEq

/-- The fields of a group with known names. Those with other names must be readable. -/
def known? (names : List String) (entries : Entries) : Option Entries :=
  let others := entries.filter fun e => !names.contains e.1
  if Setting.haveReadable others then some entries else none

/-- The fields of a setting that stands for a group: `names` are those it may have, in the order in
which a list gives them. -/
def fields? (names : List String) : Setting → Option Entries
  | .group _ entries => known? names entries
  | .list items => some (names.zip items)
  | .series groups => some (names.zip (groups.map (.group .header ·)))
  | _ => none

def optional {α : Type} (fields : Entries) (name : String) (read : Setting → Option α)
    (default : α) : Option α :=
  (fields.get? name).elim (some default) read

def required {α : Type} (fields : Entries) (name : String) (read : Setting → Option α) :
    Option α :=
  (fields.get? name).bind read

def text? : Setting → Option String
  | .text s => some s
  | _ => none

def truth? : Setting → Option Bool
  | .truth b => some b
  | _ => none

/-- The number of a setting, if it is below `bound`. -/
def below? (bound : Nat) : Setting → Option Nat
  | .integer n => if 0 ≤ n ∧ n < bound then some n.toNat else none
  | _ => none

def isEmpty : Setting → Bool
  | .list [] => true
  | .group _ [] => true
  | _ => false

/-- The dialect with the name that a setting gives, as a text or as the only name of a group. -/
def dialect? : Setting → Option Dialect
  | .text s => Dialect.ofName? s
  | .group _ [(name, content)] => if isEmpty content then Dialect.ofName? name else none
  | _ => none

def databaseFields : List String :=
  ["dialect", "url", "host", "port", "database", "username", "password", "min_connections",
    "max_connections", "connection_timeout_seconds", "idle_timeout_seconds",
    "max_lifetime_seconds"]

def database? (setting : Setting) : Option DatabaseConfig := do
  let fields ← fields? databaseFields setting
  let dialect ← required fields "dialect" dialect?
  let url ← optional fields "url" (fun s => (text? s).map some) none
  let host ← optional fields "host" text? ""
  let port ← optional fields "port" (below? (2 ^ 16)) 0
  let database ← required fields "database" text?
  let username ← optional fields "username" text? ""
  let password ← optional fields "password" text? ""
  let base : DatabaseConfig := { dialect, database }
  let count (name : String) (default : UInt32) : Option UInt32 :=
    (optional fields name (below? (2 ^ 32)) default.toNat).map UInt32.ofNat
  let minConnections ← count "min_connections" base.minConnections
  let maxConnections ← count "max_connections" base.maxConnections
  let seconds (name : String) (default : UInt64) : Option UInt64 :=
    (optional fields name (below? (2 ^ 64)) default.toNat).map UInt64.ofNat
  let connectionTimeout ← seconds "connection_timeout_seconds" base.connectionTimeout
  let idleTimeout ← seconds "idle_timeout_seconds" base.idleTimeout
  let maxLifetime ← seconds "max_lifetime_seconds" base.maxLifetime
  return {
    dialect, url, host, port := .ofNat port, database, username, password
    minConnections, maxConnections, connectionTimeout, idleTimeout, maxLifetime }

def mapperFields : List String :=
  ["dialect", "default_schema", "log_queries"]

def mapper? (setting : Setting) : Option MapperConfig := do
  let fields ← fields? mapperFields setting
  let dialect ← required fields "dialect" dialect?
  let base : MapperConfig := { dialect }
  let defaultSchema ← optional fields "default_schema" text? base.defaultSchema
  let logQueries ← optional fields "log_queries" truth? base.logQueries
  return { dialect, defaultSchema, logQueries }

def describe? (document : String) : Option AppConfig := do
  let entries ← known? ["database", "mapper"] (← readDocument? document)
  let database ← required entries "database" database?
  let mapper ← required entries "mapper" mapper?
  return { database, mapper }

end RecordTables.Config

namespace RecordTables.AppConfig

open RecordTables.Config

def ofDocument (document : String) : Except Failure AppConfig :=
  match describe? document with
  | none => .error .malformed
  | some config =>
    match config.validate with
    | .error fault => .error (.invalid fault)
    | .ok () => .ok config

end RecordTables.AppConfig
