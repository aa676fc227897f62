import RecordTables.Json.Printer
import RecordTables.Json.Reader
import RecordTables.Date.Text
import RecordTables.Timestamp.Text
import RecordTables.Uuid

/-! # Tagged documents

The document form of a value of one of several kinds: the name of the kind alone, or an object whose
only field has that name and holds the content. Beside it stand the document forms of contents that
documents have no values of their own for. -/

namespace RecordTables.Json

open RecordTables.Text RecordTables.Floating

/-- A kind and its content, if there is one. -/
structure Tagged where
  tag : String
  content : Option Json

/-- Reads a kind alone or the only field of an object. The braces count as one level of nesting.
Documents can be embedded in the content of the kinds in `documents` only. -/
def readTagged? (documents : List String) (text : String) : Option Tagged :=
  let s := text.toList
  match skipSpace s with
  | '"' :: s => do
    let (tag, s) ← readString? s
    if (skipSpace s).isEmpty then some ⟨String.ofList tag, none⟩ else none
  | '\x7b' :: s =>
    match skipSpace s with
    | '"' :: s => do
      let (tag, s) ← readString? s
      match skipSpace s with
      | ':' :: s => do
        let tag := String.ofList tag
        let (content, s) ←
          readValue? (documents.contains tag) (2 * s.length + 2) (greatestDepth - 1) s
        match skipSpace s with
        | '\x7d' :: s => if (skipSpace s).isEmpty then some ⟨tag, some content⟩ else none
        | _ => none
      | _ => none
    | _ => none
  | _ => none

/-- The tag of a kind without content, which may also be written with an absent content. -/
def Tagged.bare? (t : Tagged) : Option String :=
  match t.content with
  | none => some t.tag
  | some .null => some t.tag
  | some _ => none

def readName? (text : String) : Option String :=
  (readTagged? [] text).bind Tagged.bare?

/-- The compact form of a kind with the compact form of its content. -/
def taggedChars (tag : String) (content : List Char) : String :=
  String.ofList ('\x7b' :: quoted tag ++ ':' :: content ++ ['\x7d'])

def toBool? : Json → Option Bool
  | .bool b => some b
  | _ => none

def toText? : Json → Option String
  | .string s => some s
  | _ => none

/-- The integer of a document, if it is from `low` to `high`. -/
def toInt? (low high : Int) : Json → Option Int
  | .number (.integer n _) => if low ≤ n ∧ n ≤ high then some n else none
  | _ => none

def toBytes? : Json → Option (List UInt8)
  | .array items => items.mapM fun item => (item.toInt? 0 255).map fun n => UInt8.ofNat n.toNat
  | _ => none

def toChar? (j : Json) : Option Char :=
  match j.toText?.map String.toList with
  | some [c] => some c
  | _ => none

def toSingle? : Json → Option Single
  | .number (.integer n _) => some (Single.ofInt n)
  | .number (.float x _) => some x.narrow
  | _ => none

def toDouble? : Json → Option Double
  | .number (.integer n _) => some (Double.ofInt n)
  | .number (.float x _) => some x
  | _ => none

def toUuid? (j : Json) : Option Uuid :=
  j.toText?.bind fun s => Uuid.read? s.toList

def toTimestamp? (j : Json) : Option Timestamp :=
  j.toText?.bind fun s => Timestamp.readLoose? s.toList

def toDate? (j : Json) : Option Date :=
  j.toText?.bind fun s => Date.readLoose? s.toList

/-- The numeral of a number of 32 bits, or `null` for what documents have no number for. -/
def singleChars (x : Single) : List Char :=
  match x.meaning with
  | .number n m e => NumeralStyle.singleDocument.meaning .single (.number n m e)
  | _ => Json.null.chars

def doubleChars (x : Double) : List Char :=
  match x.meaning with
  | .number n m e => NumeralStyle.document.meaning .double (.number n m e)
  | _ => Json.null.chars

/-- Bytes as a list of numbers. -/
def bytesChars (bs : List UInt8) : List Char :=
  '[' :: [','].intercalate (bs.map fun b => digits b.toNat) ++ [']']

end RecordTables.Json
