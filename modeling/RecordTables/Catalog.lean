import RecordTables.Schema

/-! # Catalogs

Schemas under handles, and tables that are kept beyond the schema they come from. A foreign key of a
kept table can be followed as long as the table that it references is kept too, or its schema is
still there. -/

namespace RecordTables

/-- A table of a schema, as the number of the schema in the catalog and a position in it. -/
structure TablePlace where
  schema : Nat
  position : Nat
  deriving DecidableEq

/-- A table with the tables around it that are still there. -/
structure PlacedTable where
  table : Table
  neighbours : Neighbours

def PlacedTable.alone (t : Table) : PlacedTable :=
  ⟨t, []⟩

/-- All schemas that were ever added, the handles of those still there, and the kept tables. -/
structure Catalog where
  schemas : List Schema
  handles : List (String × Nat)
  kept : List (String × TablePlace)

namespace Catalog

def empty : Catalog :=
  ⟨[], [], []⟩

def resolve? {α : Type} (handle : String) (pairs : List (String × α)) : Option α :=
  (pairs.find? fun p => p.1 = handle).map (·.2)

def assign {α : Type} (handle : String) (a : α) (pairs : List (String × α)) :
    List (String × α) :=
  (handle, a) :: pairs.filter fun p => p.1 ≠ handle

def schema? (c : Catalog) (handle : String) : Option Schema :=
  (resolve? handle c.handles).bind fun n => c.schemas[n]?

/-- Adds a schema under a handle. Another schema under it is dropped. -/
def add (c : Catalog) (handle : String) (s : Schema) : Catalog :=
  { c with schemas := c.schemas ++ [s], handles := assign handle c.schemas.length c.handles }

/-- Puts a schema with the same tables into the place of that under a handle. -/
def replace (c : Catalog) (handle : String) (s : Schema) : Catalog :=
  match resolve? handle c.handles with
  | some n => { c with schemas := c.schemas.set n s }
  | none => c

/-- Drops the schema under a handle. Tables that are not kept are dropped with it. -/
def drop (c : Catalog) (handle : String) : Catalog :=
  { c with handles := c.handles.filter fun p => p.1 ≠ handle }

def isThere (c : Catalog) (place : TablePlace) : Bool :=
  (c.handles.any fun p => p.2 = place.schema) || c.kept.any fun p => p.2 = place

/-- The tables of a schema that are still there, by position. -/
def neighbours (c : Catalog) (schema : Nat) : Neighbours :=
  match c.schemas[schema]? with
  | none => []
  | some s => s.tables.zipIdx.map fun (t, position) =>
    if c.isThere ⟨schema, position⟩ then some t else none

def placed? (c : Catalog) (place : TablePlace) : Option PlacedTable := do
  let s ← c.schemas[place.schema]?
  let t ← s.tables[place.position]?
  return ⟨t, c.neighbours place.schema⟩

/-- The place of the first table of a schema that passes a test. -/
def place? (c : Catalog) (handle : String) (test : Table → Bool) : Option TablePlace := do
  let n ← resolve? handle c.handles
  let s ← c.schemas[n]?
  let position ← s.tables.findIdx? test
  return ⟨n, position⟩

def keep (c : Catalog) (handle : String) (place : TablePlace) : Catalog :=
  { c with kept := assign handle place c.kept }

def kept? (c : Catalog) (handle : String) : Option TablePlace :=
  resolve? handle c.kept

end Catalog

end RecordTables
