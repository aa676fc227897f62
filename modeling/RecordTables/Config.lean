import RecordTables.Dialect
import RecordTables.Text

/-! # Configuration

Where the database is, how many connections it may have, and how the mapper is set up. A
configuration is checked field by field; the first fault is reported. -/

namespace RecordTables

open RecordTables.Text

/-- What is wrong with a configuration. -/
inductive ConfigFault where
  | emptyDatabase
  | emptyHost
  | zeroPort
  | emptyUsername
  | zeroMinConnections
  | zeroMaxConnections
  | minAboveMax
  | zeroConnectionTimeout
  | emptyDefaultSchema
  | dialectMismatch (mapper database : Dialect)
  | unsupportedScheme (url : String)
  | noLocation (name path : String)
  deriving DecidableEq

def ConfigFault.description : ConfigFault → String
  | .emptyDatabase => "Database name cannot be empty"
  | .emptyHost => "Database host cannot be empty"
  | .zeroPort => "Database port cannot be zero"
  | .emptyUsername => "Database username cannot be empty"
  | .zeroMinConnections => "Database min_connections must be greater than 0"
  | .zeroMaxConnections => "Database max_connections must be greater than 0"
  | .minAboveMax => "Database min_connections cannot be greater than max_connections"
  | .zeroConnectionTimeout => "Database connection_timeout_seconds must be greater than 0"
  | .emptyDefaultSchema => "Mapper default_schema cannot be empty"
  | .dialectMismatch mapper database =>
    s!"Mapper dialect {mapper.name} does not match database dialect {database.name}"
  | .unsupportedScheme url => s!"Unsupported database URL scheme in '{url}'"
  | .noLocation name path =>
    s!"Config path must be specified in .env file as {name} or in {path} file"

def ConfigFault.message (f : ConfigFault) : String :=
  "Invalid configuration: " ++ f.description

/-- Where the database is and how it is connected to. -/
structure DatabaseConfig where
  dialect : Dialect
  url : Option String := none
  host : String := ""
  port : UInt16 := 0
  database : String
  username : String := ""
  password : String := ""
  minConnections : UInt32 := 1
  maxConnections : UInt32 := 10
  connectionTimeout : UInt64 := 30
  idleTimeout : UInt64 := 600
  maxLifetime : UInt64 := 3600

namespace DatabaseConfig

def memory : String := ":memory:"

/-- A database file, or the database in memory. -/
def sqlite (path : String) : DatabaseConfig :=
  { dialect := .sqlite, database := path }

/-- The dialect that the scheme of a URL stands for. -/
def schemeDialect? (url : String) : Option Dialect :=
  if "sqlite:".toList.isPrefixOf url.toList then some .sqlite
  else if "postgres://".toList.isPrefixOf url.toList then some .postgres
  else if "postgresql://".toList.isPrefixOf url.toList then some .postgres
  else none

def ofUrl (url : String) : Except ConfigFault DatabaseConfig :=
  match schemeDialect? url with
  | none => .error (.unsupportedScheme url)
  | some dialect => .ok { dialect, url := some url, database := "" }

/-- The URL to connect with: the given one, or one made of the other fields. -/
def connectionString (c : DatabaseConfig) : String :=
  match c.url with
  | some url => url
  | none =>
    match c.dialect with
    | .sqlite => if c.database = memory then "sqlite::memory:" else "sqlite://" ++ c.database
    | .postgres =>
      "postgresql://" ++ c.username ++ ":" ++ c.password ++ "@" ++ c.host ++ ":" ++
        String.ofList (digits c.port.toNat) ++ "/" ++ c.database

/-- Whether the database lives only as long as its connection. -/
def isInMemory (c : DatabaseConfig) : Bool :=
  c.dialect = .sqlite &&
    match c.url with
    | some url => occursIn memory.toList url.toList || occursIn "mode=memory".toList url.toList
    | none => c.database = memory

/-- The least and the greatest count of connections. A database in memory has just one. -/
def poolBounds (c : DatabaseConfig) : UInt32 × UInt32 :=
  if c.isInMemory then (1, 1) else (c.minConnections, c.maxConnections)

/-- Checks the fields that a URL would replace. -/
def validateLocation (c : DatabaseConfig) : Except ConfigFault Unit :=
  if c.database = "" then .error .emptyDatabase
  else if c.dialect = .postgres then
    if c.host = "" then .error .emptyHost
    else if c.port = 0 then .error .zeroPort
    else if c.username = "" then .error .emptyUsername
    else .ok ()
  else .ok ()

def validatePool (c : DatabaseConfig) : Except ConfigFault Unit :=
  if c.minConnections = 0 then .error .zeroMinConnections
  else if c.maxConnections = 0 then .error .zeroMaxConnections
  else if c.maxConnections < c.minConnections then .error .minAboveMax
  else if c.connectionTimeout = 0 then .error .zeroConnectionTimeout
  else .ok ()

/-- Checks a configuration. Without a URL its location is checked first. -/
def validate (c : DatabaseConfig) : Except ConfigFault Unit := do
  if c.url.isNone then c.validateLocation
  c.validatePool

end DatabaseConfig

structure MapperConfig where
  dialect : Dialect
  defaultSchema : String := "main"
  logQueries : Bool := false

def MapperConfig.validate (c : MapperConfig) : Except ConfigFault Unit :=
  if c.defaultSchema = "" then .error .emptyDefaultSchema else .ok ()

structure AppConfig where
  database : DatabaseConfig
  mapper : MapperConfig

/-- Checks both parts, and that they are for one dialect. -/
def AppConfig.validate (c : AppConfig) : Except ConfigFault Unit := do
  c.database.validate
  c.mapper.validate
  if c.database.dialect ≠ c.mapper.dialect then
    throw (.dialectMismatch c.mapper.dialect c.database.dialect)

end RecordTables
