import RecordTables.Json
import RecordTables.Text.Hex
import RecordTables.Text.Literal
import RecordTables.Floating.Numeral

/-! # Written documents

The compact form has no blanks; strings escape quotes, backslashes and control characters only. The
outline names the kind of every node, for messages. -/

namespace RecordTables

open RecordTables.Text RecordTables.Floating

/-- The numeral of a number. A floating-point number has a point or an exponent. -/
def JsonNumber.chars : JsonNumber → List Char
  | .integer n _ => signedDigits n
  | .float x _ => NumeralStyle.document.meaning .double x.meaning

namespace Json

def escapeChar (c : Char) : List Char :=
  if c = '"' then ['\\', '"']
  else if c = '\\' then ['\\', '\\']
  else if c = '\x08' then ['\\', 'b']
  else if c = '\x0c' then ['\\', 'f']
  else if c = '\n' then ['\\', 'n']
  else if c = '\r' then ['\\', 'r']
  else if c = '\t' then ['\\', 't']
  else if c.toNat < 0x20 then ['\\', 'u', '0', '0'] ++ hexByte (UInt8.ofNat c.toNat)
  else [c]

def quoted (s : String) : List Char :=
  '"' :: s.toList.flatMap escapeChar ++ ['"']

mutual

def chars : Json → List Char
  | .null => ['n', 'u', 'l', 'l']
  | .bool true => ['t', 'r', 'u', 'e']
  | .bool false => ['f', 'a', 'l', 's', 'e']
  | .number n => n.chars
  | .string s => quoted s
  | .array items => '[' :: itemsChars items ++ [']']
  | .object fields => '\x7b' :: fieldsChars fields ++ ['\x7d']

def itemsChars : List Json → List Char
  | [] => []
  | [item] => item.chars
  | item :: rest => item.chars ++ ',' :: itemsChars rest

def fieldsChars : List (String × Json) → List Char
  | [] => []
  | [(key, value)] => quoted key ++ ':' :: value.chars
  | (key, value) :: rest => quoted key ++ ':' :: value.chars ++ ',' :: fieldsChars rest

end

def compact (j : Json) : String :=
  String.ofList j.chars

mutual

/-- The tree with the kind of every node. -/
def outline : Json → String
  | .null => "Null"
  | .bool true => "Bool(true)"
  | .bool false => "Bool(false)"
  | .number n => "Number(" ++ String.ofList n.chars ++ ")"
  | .string s => "String(" ++ literal s ++ ")"
  | .array items => "Array " ++ bracketed (outlineItems items)
  | .object fields => "Object \x7b" ++ ", ".intercalate (outlineFields fields) ++ "\x7d"

def outlineItems : List Json → List String
  | [] => []
  | item :: rest => item.outline :: outlineItems rest

def outlineFields : List (String × Json) → List String
  | [] => []
  | (key, value) :: rest => (literal key ++ ": " ++ value.outline) :: outlineFields rest

end

end Json

end RecordTables
