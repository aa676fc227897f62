import RecordTables.Serializer.Sqlite
import RecordTables.Serializer.Postgres

/-! # Built-in serializers

One serializer for each of the thirteen built-in types in each dialect. -/

namespace RecordTables.Serializer

def sqlite : List Serializer := [
  ⟨.bool, .sqlite, "BOOLEAN", .boolean, Codec.Sqlite.bool⟩,
  ⟨.int16, .sqlite, "SMALLINT", .smallInt, Codec.Sqlite.int16⟩,
  ⟨.int32, .sqlite, "INTEGER", .integer, Codec.Sqlite.int32⟩,
  ⟨.int64, .sqlite, "BIGINT", .bigInt, Codec.Sqlite.int64⟩,
  ⟨.float32, .sqlite, "REAL", .real, Codec.Sqlite.float32⟩,
  ⟨.float64, .sqlite, "DOUBLE", .double, Codec.Sqlite.float64⟩,
  ⟨.char, .sqlite, "CHAR(1)", .char, Codec.char⟩,
  ⟨.text, .sqlite, "TEXT", .varchar, Codec.text⟩,
  ⟨.bytes, .sqlite, "BLOB", .binary, Codec.bytes⟩,
  ⟨.uuid, .sqlite, "CHAR(36)", .uuid, Codec.Sqlite.uuid⟩,
  ⟨.timestamp, .sqlite, "TEXT", .timestamp, Codec.Sqlite.timestamp⟩,
  ⟨.date, .sqlite, "DATE", .date, Codec.Sqlite.date⟩,
  ⟨.json, .sqlite, "JSON", .json, Codec.Sqlite.json⟩]

def postgres : List Serializer := [
  ⟨.bool, .postgres, "BOOLEAN", .boolean, Codec.Postgres.bool⟩,
  ⟨.int16, .postgres, "SMALLINT", .smallInt, Codec.Postgres.int16⟩,
  ⟨.int32, .postgres, "INTEGER", .integer, Codec.Postgres.int32⟩,
  ⟨.int64, .postgres, "BIGINT", .bigInt, Codec.Postgres.int64⟩,
  ⟨.float32, .postgres, "REAL", .real, Codec.Postgres.float32⟩,
  ⟨.float64, .postgres, "DOUBLE PRECISION", .double, Codec.Postgres.float64⟩,
  ⟨.char, .postgres, "VARCHAR(1)", .char, Codec.char⟩,
  ⟨.text, .postgres, "VARCHAR", .varchar, Codec.text⟩,
  ⟨.bytes, .postgres, "BYTEA", .binary, Codec.bytes⟩,
  ⟨.uuid, .postgres, "UUID", .uuid, Codec.Postgres.uuid⟩,
  ⟨.timestamp, .postgres, "TIMESTAMP WITH TIME ZONE", .timestamp, Codec.Postgres.timestamp⟩,
  ⟨.date, .postgres, "DATE", .date, Codec.Postgres.date⟩,
  ⟨.json, .postgres, "JSONB", .json, Codec.Postgres.json⟩]

def builtins : Dialect → List Serializer
  | .sqlite => sqlite
  | .postgres => postgres

/-- The built-in serializer of a type, if the type is built in. -/
def builtin? (type : ValueType) (dialect : Dialect) : Option Serializer :=
  (builtins dialect).find? fun s => s.valueType = type

end RecordTables.Serializer
