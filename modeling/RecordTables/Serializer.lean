import RecordTables.Dialect
import RecordTables.WireType
import RecordTables.DriverValue.Text

/-! # Serializers

A serializer turns the values of one type into driver values of one dialect and back. It also names
the type of the column and the tag that goes with every bound value. The absent value passes through
every serializer. -/

namespace RecordTables

open RecordTables.Text

/-- Why a value has no serializer, or its serializer refuses it. -/
inductive SerializerError where
  | duplicate (valueType : ValueType) (dialect : Dialect)
  | unknownType (valueType : ValueType) (dialect : Dialect)
  | cannotEncode (found : Value) (expected : String)
  | cannotDecode (found : DriverValue) (expected : String)

def SerializerError.message : SerializerError → String
  | .duplicate type dialect =>
    "Serializer for type '" ++ type.name ++ "' is already registered for dialect " ++ dialect.name
  | .unknownType type dialect =>
    "Unknown type '" ++ type.name ++ "' for dialect " ++ dialect.name ++
      ": no serializer registered"
  | .cannotEncode found expected => "Cannot encode value " ++ found.outline ++ " as " ++ expected
  | .cannotDecode found expected =>
    "Cannot decode driver value " ++ found.outline ++ " as " ++ expected

def SerializerError.kind : SerializerError → String
  | .duplicate _ _ => "DuplicateSerializer"
  | .unknownType _ _ => "UnknownType"
  | .cannotEncode _ _ => "Encode"
  | .cannotDecode _ _ => "Decode"

/-- Turns a present value into a driver value. -/
abbrev Encoder := Value → Except SerializerError DriverValue

/-- Turns a present driver value into a value. -/
abbrev Decoder := DriverValue → Except SerializerError Value

/-- Encodes a value. The absent value does not reach the encoder. -/
def Encoder.run (encoder : Encoder) (v : Value) : Except SerializerError DriverValue :=
  if v.isNull then .ok .null else encoder v

/-- Decodes a driver value. The absent value does not reach the decoder. -/
def Decoder.run (decoder : Decoder) (v : DriverValue) : Except SerializerError Value :=
  if v.isNull then .ok .null else decoder v

/-- The two directions of a serializer. -/
structure Codec where
  encoder : Encoder
  decoder : Decoder

/-- How values of one type are stored in one dialect. -/
structure Serializer where
  valueType : ValueType
  dialect : Dialect
  dbType : String
  wireType : WireType
  codec : Codec

namespace Serializer

def encode (s : Serializer) (v : Value) : Except SerializerError DriverValue :=
  s.codec.encoder.run v

def decode (s : Serializer) (v : DriverValue) : Except SerializerError Value :=
  s.codec.decoder.run v

def serves (s : Serializer) (type : ValueType) (dialect : Dialect) : Bool :=
  s.valueType = type ∧ s.dialect = dialect

def display (s : Serializer) : String :=
  "TS<" ++ s.valueType.name ++ "@" ++ s.dialect.name ++ ">"

def outline (s : Serializer) : String :=
  "TypeSerializer \x7b value_type: " ++ literal s.valueType.name ++ ", dialect: " ++
    s.dialect.label ++ ", db_type: " ++ literal s.dbType ++ ", wire_type: " ++ s.wireType.label ++
    " \x7d"

end Serializer

end RecordTables
