import RecordTables.DriverValue
import RecordTables.Value.Text

/-! # Driver values as text

The outline that names the kind of a driver value, for messages. -/

namespace RecordTables.DriverValue

open RecordTables.Text RecordTables.Floating

/-- The kind of a driver value and its content between parentheses. -/
def outline (v : DriverValue) : String :=
  let content : Option String := match v with
    | .null => none
    | .boolean b => some (if b then "true" else "false")
    | .smallInt n => some (String.ofList (signedDigits n.toInt))
    | .integer n => some (String.ofList (signedDigits n.toInt))
    | .bigInt n => some (String.ofList (signedDigits n.toInt))
    | .real x => some (NumeralStyle.diagnostic.single x)
    | .double x => some (NumeralStyle.diagnostic.double x)
    | .text s => some (literal s)
    | .blob bs => some (Value.outlineBytes bs)
    | .uuid u => some u.text
    | .timestamp t => some t.text
    | .date d => some d.text
    | .json j => some j.outline
  match content with
  | none => v.kind
  | some content => v.kind ++ "(" ++ content ++ ")"

end RecordTables.DriverValue
