import RecordTables.Proofs.Placeholder.Scan
import RecordTables.Proofs.Table.Build
import RecordTables.Statement

/-!
# Definitions of columns

What the definition of a column says can be read from the words after its name. It has a word for
each property of the column, and no type has one of these words.
-/

namespace RecordTables

open Placeholder

/-- What the definition of a column says. -/
structure ColumnTraits where
  name : String
  isPrimary : Bool
  isAutoIncrement : Bool
  isNotNull : Bool
  isUnique : Bool
  deriving DecidableEq

def Column.traits (c : Column) : ColumnTraits :=
  ⟨c.name, c.isPrimary, c.isAutoIncrement, c.isNotNull, c.isUnique⟩

namespace Statement

def words (s : String) : List String :=
  (s.toList.splitOn ' ').map String.ofList

private theorem words_append_blank (s t : String) :
    words (s ++ (" " ++ t)) = words s ++ words t := by
  have hblank : (s ++ (" " ++ t)).toList = s.toList ++ ' ' :: t.toList := by
    simp [String.toList_append]
  rw [words, hblank, List.splitOn_append_cons_self, List.map_append, words, words]

def reserved : List String :=
  ["PRIMARY", "AUTOINCREMENT", "SMALLSERIAL", "SERIAL", "BIGSERIAL", "NOT", "UNIQUE"]

/-- The words that say that the database makes up the values. -/
def serials : List String :=
  ["AUTOINCREMENT", "SMALLSERIAL", "SERIAL", "BIGSERIAL"]

theorem dbType_of_builtin {dialect : Dialect} {s : Serializer}
    (hs : s ∈ Serializer.builtins dialect) :
    ',' ∉ s.dbType.toList ∧ ∀ word ∈ reserved, word ∉ words s.dbType := by
  have hall : ∀ dialect ∈ Dialect.all, ∀ s ∈ Serializer.builtins dialect,
      ',' ∉ s.dbType.toList ∧ ∀ word ∈ reserved, word ∉ words s.dbType := by decide +kernel
  have hdialect : dialect ∈ Dialect.all := by cases dialect <;> decide
  exact hall dialect hdialect s hs

/-- What follows the name in the definition of a column. -/
def clauses (dialect : Dialect) (c : Column) : String :=
  if c.isAutoIncrement then
    match dialect with
    | .sqlite => "INTEGER PRIMARY KEY AUTOINCREMENT"
    | .postgres => serialType c.wireType ++ " PRIMARY KEY"
  else if c.isPrimary then c.dbType ++ " PRIMARY KEY"
  else
    c.dbType ++ ((if c.isNotNull then " NOT NULL" else "") ++
      (if c.isUnique then " UNIQUE" else ""))

theorem columnDefinition_eq (dialect : Dialect) (c : Column) :
    columnDefinition dialect c = dialect.quoteIdentifier c.name ++ (" " ++ clauses dialect c) := by
  unfold columnDefinition clauses
  split
  · cases dialect with
    | sqlite => rfl
    | postgres => simp [String.append_assoc]
  · split <;> simp [String.append_assoc]

/-- What is said of a column by the words of its definition. -/
def readTraits (name : String) (ws : List String) : ColumnTraits :=
  let isPrimary := decide ("PRIMARY" ∈ ws)
  ⟨name, isPrimary, serials.any (· ∈ ws), isPrimary || decide ("NOT" ∈ ws),
    isPrimary || decide ("UNIQUE" ∈ ws)⟩

private theorem words_append_if (s word : String) (b : Bool) :
    words (s ++ if b then " " ++ word else "") = words s ++ if b then words word else [] := by
  cases b with
  | false => simp
  | true => exact words_append_blank s word

private theorem words_serialType (w : WireType) : words (serialType w) = [serialType w] := by
  cases w <;> decide +kernel

private theorem serialType_mem_serials (w : WireType) : serialType w ∈ serials := by
  cases w <;> decide

theorem words_clauses (dialect : Dialect) (c : Column) : words (clauses dialect c) =
    if c.isAutoIncrement then
      match dialect with
      | .sqlite => ["INTEGER", "PRIMARY", "KEY", "AUTOINCREMENT"]
      | .postgres => [serialType c.wireType, "PRIMARY", "KEY"]
    else if c.isPrimary then words c.dbType ++ ["PRIMARY", "KEY"]
    else
      words c.dbType ++ ((if c.isNotNull then ["NOT", "NULL"] else []) ++
        if c.isUnique then ["UNIQUE"] else []) := by
  have hkey : words "PRIMARY KEY" = ["PRIMARY", "KEY"] := by decide +kernel
  have hnotNull : words "NOT NULL" = ["NOT", "NULL"] := by decide +kernel
  have hunique : words "UNIQUE" = ["UNIQUE"] := by decide +kernel
  unfold clauses
  split
  · cases dialect with
    | sqlite =>
      have hall : words "INTEGER PRIMARY KEY AUTOINCREMENT" =
        ["INTEGER", "PRIMARY", "KEY", "AUTOINCREMENT"] := by decide +kernel
      exact hall
    | postgres =>
      have happend := words_append_blank (serialType c.wireType) "PRIMARY KEY"
      rw [words_serialType, hkey] at happend
      exact happend
  · split
    · have happend := words_append_blank c.dbType "PRIMARY KEY"
      rw [hkey] at happend
      exact happend
    · have hfirst := words_append_if c.dbType "NOT NULL" c.isNotNull
      have hsecond := words_append_if (c.dbType ++ if c.isNotNull then " " ++ "NOT NULL" else "")
        "UNIQUE" c.isUnique
      rw [hfirst, hnotNull, hunique, List.append_assoc, String.append_assoc] at hsecond
      exact hsecond

/-- The words of its definition tell what a column is. -/
theorem readTraits_clauses {c : Column} (h : ∀ word ∈ reserved, word ∉ words c.dbType)
    (dialect : Dialect) : readTraits c.name (words (clauses dialect c)) = c.traits := by
  simp only [reserved, List.forall_mem_cons] at h
  obtain ⟨hprimary, hauto, hsmall, hserial, hbig, hnot, hunique, _⟩ := h
  rw [words_clauses]
  by_cases hincrement : c.isAutoIncrement
  · have hkey := Column.isPrimary_of_isAutoIncrement hincrement
    have htraits : c.traits = ⟨c.name, true, true, true, true⟩ := by
      simp [Column.traits, Column.isNotNull, Column.isUnique, hincrement, hkey]
    rw [if_pos hincrement, htraits]
    cases dialect with
    | sqlite => simp [readTraits, serials]
    | postgres =>
      -- Which of the three types it is depends on the wire type of the column.
      have hmade : serials.any (· ∈ [serialType c.wireType, "PRIMARY", "KEY"]) := by
        apply List.any_eq_true.mpr
        exact ⟨_, serialType_mem_serials c.wireType, by simp⟩
      rw [readTraits, hmade]
      simp
  · rw [if_neg hincrement]
    by_cases hkey : c.isPrimary
    · have htraits : c.traits = ⟨c.name, true, false, true, true⟩ := by
        simp [Column.traits, Column.isNotNull, Column.isUnique, hincrement, hkey]
      rw [if_pos hkey, htraits]
      simp [readTraits, serials, hauto, hsmall, hserial, hbig]
    · have htraits : c.traits = ⟨c.name, false, false, c.isNotNull, c.isUnique⟩ := by
        simp [Column.traits, hincrement, hkey]
      rw [if_neg hkey, htraits]
      cases c.isNotNull <;> cases c.isUnique <;>
        simp [readTraits, serials, hprimary, hauto, hsmall, hserial, hbig, hnot, hunique]

theorem comma_notMem_clauses {c : Column} (h : ',' ∉ c.dbType.toList) (dialect : Dialect) :
    ',' ∉ (clauses dialect c).toList := by
  have hserial : ',' ∉ (serialType c.wireType).toList := by
    cases c.wireType <;> decide
  have hsqlite : ',' ∉ "INTEGER PRIMARY KEY AUTOINCREMENT".toList := by decide
  unfold clauses
  split
  · cases dialect with
    | sqlite => exact hsqlite
    | postgres => simp [String.toList_append, hserial]
  · split
    · simp [String.toList_append, h]
    · cases c.isNotNull <;> cases c.isUnique <;> simp [String.toList_append, h]

theorem isFragment_clauses {d : Dialect} {c : Column} (h : c.serializer ∈ Serializer.builtins d)
    (dialect : Dialect) : IsFragment (clauses dialect c) := by
  have hall : ∀ dialect ∈ Dialect.all, ∀ s ∈ Serializer.builtins dialect,
      IsFragment s.dbType := by decide +kernel
  have hd : d ∈ Dialect.all := by cases d <;> decide
  have htype : IsFragment c.dbType := hall d hd _ h
  have hkey : IsFragment " PRIMARY KEY" := by decide
  unfold clauses
  split
  · cases dialect with
    | sqlite =>
      have hwords : IsFragment "INTEGER PRIMARY KEY AUTOINCREMENT" := by decide
      exact hwords
    | postgres =>
      have hserial : IsFragment (serialType c.wireType) := by cases c.wireType <;> decide
      exact hserial.append hkey
  · split
    · exact htype.append hkey
    · have hnotNull : IsFragment (if c.isNotNull then " NOT NULL" else "") := by split <;> decide
      have hunique : IsFragment (if c.isUnique then " UNIQUE" else "") := by split <;> decide
      exact htype.append (hnotNull.append hunique)

end Statement

end RecordTables
