import RecordTables.MappingError
import RecordTables.Query.Rewriting
import RecordTables.Value.Fingerprint

/-! # Queries

The text of a statement with placeholders, and the values bound to them in order. Two queries are
equal if text, names, values and wire types are, and also their digests. -/

namespace RecordTables

open RecordTables.Text

/-- A value bound to a placeholder, with the encoder that will be used for it. -/
structure QueryValue where
  name : String
  value : Value
  wireType : WireType
  encoder : Encoder

namespace QueryValue

def ofSerializer (name : String) (value : Value) (s : Serializer) : QueryValue :=
  ⟨name, value, s.wireType, s.codec.encoder⟩

/-- The driver value; the absent value stays absent. -/
def encode (v : QueryValue) : Except MappingError DriverValue :=
  (v.encoder.run v.value).mapError .serializer

/-- The octets that the digest of a bound value is taken of. Its encoder has no part in them. -/
def octets (v : QueryValue) : List UInt8 :=
  Digest.text v.name ++ v.value.octets ++ Digest.number 8 v.wireType.ctorIdx

def digest [Digest] (v : QueryValue) : UInt64 :=
  Digest.take v.octets

/-- Equality of bound values. Their encoders do not count. -/
def same [Digest] (a b : QueryValue) : Bool :=
  a.digest = b.digest ∧ a.name = b.name ∧ a.value.same b.value ∧ a.wireType = b.wireType

def display (v : QueryValue) : String :=
  v.name ++ ": " ++ v.wireType.name ++ " = " ++ v.value.escaped

def outline (v : QueryValue) : String :=
  "QueryValue \x7b name: " ++ literal v.name ++ ", value: " ++ v.value.outline ++ ", wire_type: " ++
    v.wireType.label ++ " \x7d"

end QueryValue

/-- A statement and the values bound to its placeholders. -/
structure Query where
  sql : String
  values : List QueryValue

namespace Query

def raw (sql : String) : Query :=
  ⟨sql, []⟩

def placeholderCount (q : Query) : Nat :=
  Placeholder.count q.sql

def checkPlaceholders (q : Query) : Except MappingError Unit :=
  if q.placeholderCount = q.values.length then .ok ()
  else .error (.placeholderCount q.placeholderCount q.values.length)

/-- The text with the placeholders of a dialect. -/
def dialectSql (q : Query) : Dialect → String
  | .sqlite => q.sql
  | .postgres => (Placeholder.rewrite? .postgres q.sql).get (Placeholder.isSome_rewrite? _ _)

/-- The driver values with their wire types in the order of the placeholders. -/
def encodedValues (q : Query) : Except MappingError (List (WireType × DriverValue)) :=
  q.values.mapM fun v => do
    let encoded ← v.encode
    return (v.wireType, encoded)

/-- The digest of a query, which sees of the values only their digests. -/
def digest [Digest] (q : Query) : UInt64 :=
  Digest.take (Digest.text q.sql ++ Digest.number 8 q.values.length ++
    q.values.flatMap fun v => Digest.number 8 v.digest.toNat)

def sameValues [Digest] : List QueryValue → List QueryValue → Bool
  | [], [] => true
  | a :: as, b :: bs => a.same b && sameValues as bs
  | _, _ => false

def same [Digest] (a b : Query) : Bool :=
  a.digest = b.digest ∧ a.sql = b.sql ∧ sameValues a.values b.values

/-- Bound values in a listing, numbered on from `index`. -/
def listing (index : Nat) : List QueryValue → String
  | [] => ""
  | v :: rest => "\n  " ++ toString index ++ ") " ++ v.display ++ listing (index + 1) rest

def display (q : Query) : String :=
  q.sql ++ listing 1 q.values

def outline (q : Query) : String :=
  "Query \x7b sql: " ++ literal q.sql ++ ", values: " ++
    bracketed (q.values.map QueryValue.outline) ++ " \x7d"

end Query

end RecordTables
