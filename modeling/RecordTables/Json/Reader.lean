import RecordTables.Json.Number
import RecordTables.Text.Hex

/-! # Reading documents

A text is a document if it holds exactly one value, with blanks around its tokens, whose arrays and
objects nest at most 127 deep. Of fields with the same key the last one counts. An object can embed
a document as text: it then has a single field with a key of its own, and stands for what the text
of the field spells. -/

namespace RecordTables.Json

open RecordTables.Text

def greatestDepth : Nat := 127

/-- The text after its leading blanks, of which documents have four. -/
def skipSpace (s : List Char) : List Char :=
  s.dropWhile fun c => c = ' ' || c = '\n' || c = '\t' || c = '\r'

def unescape? : Char → Option Char
  | '"' => some '"'
  | '\\' => some '\\'
  | '/' => some '/'
  | 'b' => some '\x08'
  | 'f' => some '\x0c'
  | 'n' => some '\n'
  | 'r' => some '\r'
  | 't' => some '\t'
  | _ => none

def isHighHalf (n : Nat) : Bool :=
  0xD800 ≤ n ∧ n < 0xDC00

def isLowHalf (n : Nat) : Bool :=
  0xDC00 ≤ n ∧ n < 0xE000

/-- Reads a string after its opening quote, and the quote that closes it. -/
def readString? : List Char → Option (List Char × List Char)
  | [] => none
  | '"' :: s => some ([], s)
  | '\\' :: 'u' :: a :: b :: c :: d :: s => do
    let unit ← ofHexDigits? [a, b, c, d]
    if isLowHalf unit then none
    else if isHighHalf unit then
      match s with
      | '\\' :: 'u' :: e :: f :: g :: h :: t => do
        let low ← ofHexDigits? [e, f, g, h]
        if isLowHalf low then
          let (cs, rest) ← readString? t
          return (Char.ofNat (0x10000 + (unit - 0xD800) * 0x400 + (low - 0xDC00)) :: cs, rest)
        else none
      | _ => none
    else
      let (cs, rest) ← readString? s
      return (Char.ofNat unit :: cs, rest)
  | '\\' :: c :: s => do
    let plain ← unescape? c
    let (cs, rest) ← readString? s
    return (plain :: cs, rest)
  | c :: s => do
    if c = '\\' ∨ c.toNat < 0x20 then none
    else
      let (cs, rest) ← readString? s
      return (c :: cs, rest)

/-- The key of an object that embeds a document. -/
def embeddingKey : String := "$serde_json::private::RawValue"

/-- The text after the first key of an object, if the object embeds a document. -/
def afterEmbeddingKey? : List Char → Option (List Char)
  | '"' :: s => do
    let (key, s) ← readString? s
    if String.ofList key = embeddingKey then some s else none
  | _ => none

/-- Reads the text of an embedded document after its key, and the brace that closes the object. -/
def readEmbedded? (s : List Char) : Option (List Char × List Char) :=
  match skipSpace s with
  | ':' :: s =>
    match skipSpace s with
    | '"' :: s => do
      let (text, s) ← readString? s
      match skipSpace s with
      | '\x7d' :: s => some (text, s)
      | _ => none
    | _ => none
  | _ => none

mutual

/-- Reads a value after blanks. `fuel` bounds the steps, `depth` the nesting. Only where `embeds`
holds can objects embed documents; the nesting of an embedded one counts from its own start. -/
def readValue? (embeds : Bool) : (fuel depth : Nat) → List Char → Option (Json × List Char)
  | 0, _, _ => none
  | fuel + 1, depth, s =>
    match skipSpace s with
    | 'n' :: 'u' :: 'l' :: 'l' :: s => some (.null, s)
    | 't' :: 'r' :: 'u' :: 'e' :: s => some (.bool true, s)
    | 'f' :: 'a' :: 'l' :: 's' :: 'e' :: s => some (.bool false, s)
    | '"' :: s => (readString? s).map fun (cs, s) => (.string (String.ofList cs), s)
    | '[' :: s =>
      match depth with
      | 0 => none
      | depth + 1 =>
        match skipSpace s with
        | ']' :: s => some (.array [], s)
        | s => (readItems? embeds fuel depth s).map fun (items, s) => (.array items, s)
    | '\x7b' :: s =>
      match depth with
      | 0 => none
      | depth + 1 =>
        match skipSpace s with
        | '\x7d' :: s => some (.object [], s)
        | s =>
          match if embeds then afterEmbeddingKey? s else none with
          | none => (readFields? embeds fuel depth s).map fun (fields, s) => (.object fields, s)
          | some s => do
            let (text, s) ← readEmbedded? s
            let (value, rest) ← readValue? embeds fuel greatestDepth text
            if (skipSpace rest).isEmpty then some (value, s) else none
    | s => (JsonNumber.read? s).map fun (n, s) => (.number n, s)

def readItems? (embeds : Bool) : (fuel depth : Nat) → List Char → Option (List Json × List Char)
  | 0, _, _ => none
  | fuel + 1, depth, s => do
    let (item, s) ← readValue? embeds fuel depth s
    match skipSpace s with
    | ',' :: s => do
      let (items, s) ← readItems? embeds fuel depth s
      return (item :: items, s)
    | ']' :: s => some ([item], s)
    | _ => none

def readFields? (embeds : Bool) :
    (fuel depth : Nat) → List Char → Option (List (String × Json) × List Char)
  | 0, _, _ => none
  | fuel + 1, depth, s =>
    match skipSpace s with
    | '"' :: s => do
      let (key, s) ← readString? s
      match skipSpace s with
      | ':' :: s => do
        let (value, s) ← readValue? embeds fuel depth s
        match skipSpace s with
        | ',' :: s => do
          let (fields, s) ← readFields? embeds fuel depth s
          return (addField (String.ofList key) value fields, s)
        | '\x7d' :: s => some ([(String.ofList key, value)], s)
        | _ => none
      | _ => none
    | _ => none

end

def readChars? (s : List Char) : Option Json := do
  let (value, rest) ← readValue? true (2 * s.length + 2) greatestDepth s
  if (skipSpace rest).isEmpty then some value else none

def read? (s : String) : Option Json :=
  readChars? s.toList

end RecordTables.Json
