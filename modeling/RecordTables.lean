import RecordTables.Catalog
import RecordTables.Config.Location
import RecordTables.Declaration.Outline
import RecordTables.DriverValue.Tagged
import RecordTables.QueryBuilder
import RecordTables.Session
import RecordTables.Value.Tagged
import RecordTables.Proofs.Placeholder.Scan
import RecordTables.Proofs.Placeholder.Numbering
import RecordTables.Proofs.Placeholder.Quoting
import RecordTables.Proofs.Placeholder.Template
import RecordTables.Proofs.QueryBuilder.Order
import RecordTables.Proofs.Table.Repeats
import RecordTables.Proofs.Table.Build
import RecordTables.Proofs.Schema.Assembly
import RecordTables.Proofs.Schema.Linking
import RecordTables.Proofs.Schema.Procedures
import RecordTables.Proofs.Placeholder.Renumbering
import RecordTables.Proofs.Statement.Binding
import RecordTables.Proofs.Statement.Noninterference
import RecordTables.Proofs.Serializer.Encoding
import RecordTables.Proofs.Table.Rows
import RecordTables.Proofs.Session.Registration
import RecordTables.Proofs.Session.Lookup
import RecordTables.Proofs.Text.Digits
import RecordTables.Proofs.Date.Calendar
import RecordTables.Proofs.Timestamp.RoundTrip
import RecordTables.Proofs.Floating.Meaning
import RecordTables.Proofs.Json.Equality
import RecordTables.Proofs.Value.Equality
import RecordTables.Proofs.Query.Equality
import RecordTables.Proofs.Json.RoundTrip
import RecordTables.Proofs.Mapper.Registration
import RecordTables.Proofs.Mapper.Inputs
import RecordTables.Proofs.Identifier.Rules
import RecordTables.Proofs.Table.Rules
import RecordTables.Proofs.Schema.Rules
import RecordTables.Proofs.Schema.Standalone
import RecordTables.Proofs.Schema.Keys
import RecordTables.Proofs.QueryBuilder.Agreement
import RecordTables.Proofs.Declaration.Reading
import RecordTables.Proofs.Declaration.Tables
import RecordTables.Proofs.Text.Delimited
import RecordTables.Proofs.Statement.Definition
import RecordTables.Proofs.Text.Hex
import RecordTables.Proofs.Uuid.Reading
import RecordTables.Proofs.Date.RoundTrip
import RecordTables.Proofs.Timestamp.Reading
import RecordTables.Proofs.Floating.Conversion
import RecordTables.Proofs.Floating.Widening
import RecordTables.Proofs.Serializer.Integers
import RecordTables.Proofs.Serializer.Numbers
import RecordTables.Proofs.Serializer.Native
import RecordTables.Proofs.Serializer.Rereading
import RecordTables.Proofs.Date.Spelling
import RecordTables.Proofs.Text.Casing
import RecordTables.Proofs.Uuid.Spelling
import RecordTables.Proofs.Serializer.Spellings
import RecordTables.Proofs.Statement.Refusal
import RecordTables.Proofs.Table.Increment
import RecordTables.Proofs.Keyed
import RecordTables.Proofs.Placeholder.Lexing
import RecordTables.Proofs.Registry.Registration
import RecordTables.Proofs.Mapper.Frame
import RecordTables.Proofs.Statement.Nullability
import RecordTables.Proofs.Procedure.Identity
import RecordTables.Proofs.Identifier.Agreement
import RecordTables.Proofs.Config.Urls
import RecordTables.Proofs.Config.Memory
import RecordTables.Proofs.Config.Parts
