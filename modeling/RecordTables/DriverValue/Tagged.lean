import RecordTables.DriverValue
import RecordTables.Json.Tagged

/-! # Driver values as documents

The tagged document of a driver value and its reader. -/

namespace RecordTables.DriverValue

open RecordTables.Text RecordTables.Json

/-- The tagged document of a driver value, in compact form. -/
def taggedText (v : DriverValue) : String :=
  match v with
  | .null => String.ofList (quoted v.kind)
  | .boolean b => taggedChars v.kind (Json.bool b).chars
  | .smallInt n => taggedChars v.kind (signedDigits n.toInt)
  | .integer n => taggedChars v.kind (signedDigits n.toInt)
  | .bigInt n => taggedChars v.kind (signedDigits n.toInt)
  | .real x => taggedChars v.kind (singleChars x)
  | .double x => taggedChars v.kind (doubleChars x)
  | .text s => taggedChars v.kind (quoted s)
  | .blob bs => taggedChars v.kind (bytesChars bs)
  | .uuid u => taggedChars v.kind (quoted u.text)
  | .timestamp t => taggedChars v.kind (quoted t.text)
  | .date d => taggedChars v.kind (quoted d.text)
  | .json j => taggedChars v.kind j.chars

def ofContent? (kind : String) (content : Json) : Option DriverValue :=
  match kind with
  | "Boolean" => content.toBool?.map .boolean
  | "SmallInt" =>
    (content.toInt? Int16.minValue.toInt Int16.maxValue.toInt).map fun n => .smallInt (.ofInt n)
  | "Integer" =>
    (content.toInt? Int32.minValue.toInt Int32.maxValue.toInt).map fun n => .integer (.ofInt n)
  | "BigInt" =>
    (content.toInt? Int64.minValue.toInt Int64.maxValue.toInt).map fun n => .bigInt (.ofInt n)
  | "Real" => content.toSingle?.map .real
  | "Double" => content.toDouble?.map .double
  | "Text" => content.toText?.map .text
  | "Blob" => content.toBytes?.map .blob
  | "Uuid" => content.toUuid?.map .uuid
  | "Timestamp" => content.toTimestamp?.map .timestamp
  | "Date" => content.toDate?.map .date
  | "Json" => some (.json content)
  | _ => none

def readTagged? (text : String) : Option DriverValue := do
  let t ← Json.readTagged? ["Json"] text
  if t.tag = "Null" then t.bare?.map fun _ => .null
  else t.content.bind (ofContent? t.tag)

end RecordTables.DriverValue
