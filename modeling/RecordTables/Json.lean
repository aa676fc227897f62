import RecordTables.Floating.Format

/-! # Documents

Values of the JSON data model. An object lists its fields in ascending order of their keys, each key
once. Integers of 64 bits, with or without a sign, are exact; all other numbers are floating-point.
-/

namespace RecordTables

open RecordTables.Floating

inductive JsonNumber where
  | integer (n : Int) (fits : -2 ^ 63 ≤ n ∧ n < 2 ^ 64)
  | float (x : Double) (finite : x.isFinite = true)
  deriving DecidableEq

def JsonNumber.ofInt? (n : Int) : Option JsonNumber :=
  if h : -2 ^ 63 ≤ n ∧ n < 2 ^ 64 then some (.integer n h) else none

def JsonNumber.ofDouble? (x : Double) : Option JsonNumber :=
  if h : x.isFinite = true then some (.float x h) else none

/-- Equality of numbers. An integer never equals a floating-point number; zeros of either sign are
equal. -/
def JsonNumber.same : JsonNumber → JsonNumber → Bool
  | .integer m _, .integer n _ => m = n
  | .float x _, .float y _ => x.meaning.sameNumber y.meaning
  | _, _ => false

inductive Json where
  | null
  | bool (b : Bool)
  | number (n : JsonNumber)
  | string (s : String)
  | array (items : List Json)
  | object (fields : List (String × Json))

namespace Json

mutual

/-- Equality of documents: the same tree, with equal numbers in it. -/
def same : Json → Json → Bool
  | .null, .null => true
  | .bool a, .bool b => a = b
  | .number a, .number b => a.same b
  | .string a, .string b => a = b
  | .array as, .array bs => sameItems as bs
  | .object as, .object bs => sameFields as bs
  | _, _ => false

def sameItems : List Json → List Json → Bool
  | [], [] => true
  | a :: as, b :: bs => a.same b && sameItems as bs
  | _, _ => false

def sameFields : List (String × Json) → List (String × Json) → Bool
  | [], [] => true
  | (k, a) :: as, (l, b) :: bs => k = l && a.same b && sameFields as bs
  | _, _ => false

end

/-- Adds a field to fields in ascending order unless they have its key already. -/
def addField (key : String) (value : Json) : List (String × Json) → List (String × Json)
  | [] => [(key, value)]
  | (k, v) :: rest =>
    if key = k then (k, v) :: rest
    else if key < k then (key, value) :: (k, v) :: rest
    else (k, v) :: addField key value rest

def field? (key : String) : Json → Option Json
  | .object fields => (fields.find? fun f => f.1 = key).map (·.2)
  | _ => none

end Json

end RecordTables
