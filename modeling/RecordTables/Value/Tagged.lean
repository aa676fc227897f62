import RecordTables.Value
import RecordTables.Json.Tagged

/-! # Values as documents

The tagged document of a value and its reader. -/

namespace RecordTables.Value

open RecordTables.Text RecordTables.Json

/-- The tagged document of a value, in compact form. -/
def taggedText (v : Value) : String :=
  match v with
  | .null => String.ofList (quoted v.kind)
  | .bool b => taggedChars v.kind (Json.bool b).chars
  | .int16 n => taggedChars v.kind (signedDigits n.toInt)
  | .int32 n => taggedChars v.kind (signedDigits n.toInt)
  | .int64 n => taggedChars v.kind (signedDigits n.toInt)
  | .float32 x => taggedChars v.kind (singleChars x)
  | .float64 x => taggedChars v.kind (doubleChars x)
  | .char c => taggedChars v.kind (quoted (String.singleton c))
  | .text s => taggedChars v.kind (quoted s)
  | .bytes bs => taggedChars v.kind (bytesChars bs)
  | .uuid u => taggedChars v.kind (quoted u.text)
  | .timestamp t => taggedChars v.kind (quoted t.text)
  | .date d => taggedChars v.kind (quoted d.text)
  | .json j => taggedChars v.kind j.chars

def ofContent? (kind : String) (content : Json) : Option Value :=
  match kind with
  | "Bool" => content.toBool?.map .bool
  | "I16" =>
    (content.toInt? Int16.minValue.toInt Int16.maxValue.toInt).map fun n => .int16 (.ofInt n)
  | "I32" =>
    (content.toInt? Int32.minValue.toInt Int32.maxValue.toInt).map fun n => .int32 (.ofInt n)
  | "I64" =>
    (content.toInt? Int64.minValue.toInt Int64.maxValue.toInt).map fun n => .int64 (.ofInt n)
  | "F32" => content.toSingle?.map .float32
  | "F64" => content.toDouble?.map .float64
  | "Char" => content.toChar?.map .char
  | "Text" => content.toText?.map .text
  | "Bytes" => content.toBytes?.map .bytes
  | "Uuid" => content.toUuid?.map .uuid
  | "Timestamp" => content.toTimestamp?.map .timestamp
  | "Date" => content.toDate?.map .date
  | "Json" => some (.json content)
  | _ => none

def readTagged? (text : String) : Option Value := do
  let t ← Json.readTagged? ["Json"] text
  if t.tag = "Null" then t.bare?.map fun _ => .null
  else t.content.bind (ofContent? t.tag)

end RecordTables.Value
