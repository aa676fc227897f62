import RecordTables.Value
import RecordTables.Json.Printer
import RecordTables.Text
import RecordTables.Timestamp.Text

/-! # Values as text

The plain text of a value, the text with quotes around text and characters, and the outline that
names the kind of the value. None of them is ever part of a statement. -/

namespace RecordTables.Value

open RecordTables.Text RecordTables.Floating

def plain : Value → String
  | .null => "NULL"
  | .bool true => "true"
  | .bool false => "false"
  | .int16 n => String.ofList (signedDigits n.toInt)
  | .int32 n => String.ofList (signedDigits n.toInt)
  | .int64 n => String.ofList (signedDigits n.toInt)
  | .float32 x => NumeralStyle.plain.single x
  | .float64 x => NumeralStyle.plain.double x
  | .char c => String.singleton c
  | .text s => s
  | .bytes bs => String.ofList ('0' :: 'x' :: hexBytes bs)
  | .uuid u => u.text
  | .timestamp t => t.offsetText
  | .date d => d.text
  | .json j => j.compact

/-- The text of a value in a listing: text and characters stand between single quotes. -/
def escaped : Value → String
  | .text s => String.ofList (quotedToken '\'' s.toList)
  | .char c => String.ofList (quotedToken '\'' [c])
  | v => v.plain

def outlineBytes (bs : List UInt8) : String :=
  bracketed (bs.map fun b => String.ofList (digits b.toNat))

/-- The kind of a value and its content between parentheses. -/
def outline (v : Value) : String :=
  let content : Option String := match v with
    | .null => none
    | .float32 x => some (NumeralStyle.diagnostic.single x)
    | .float64 x => some (NumeralStyle.diagnostic.double x)
    | .char c => some (charLiteral c)
    | .text s => some (literal s)
    | .bytes bs => some (outlineBytes bs)
    | .timestamp t => some t.text
    | .json j => some j.outline
    | v => some v.plain
  match content with
  | none => v.kind
  | some content => v.kind ++ "(" ++ content ++ ")"

end RecordTables.Value
