import RecordTables.Proofs.Statement.Definition
import RecordTables.Proofs.Table.Increment

/-!
# Columns without absent values

SQLite refuses an absent value in a column that is declared `NOT NULL`, and in a key of exactly the
type `INTEGER`, which is the number of the row. It takes one in every other key. The definition of a
key never says `NOT NULL`, so that absent values are kept out of keys of few types only.
-/

namespace RecordTables.Statement

open Text

def definitionWords (definition : String) : List String :=
  match readQuoted? '"' definition.toList with
  | some (_, ' ' :: clauses) => words (String.ofList clauses)
  | _ => []

/-- SQLite refuses absent values in a column that is defined by these words. -/
def RefusesNull (ws : List String) : Prop :=
  ["NOT", "NULL"] <:+: ws ∨ ["INTEGER", "PRIMARY", "KEY"] <+: ws

instance (ws : List String) : Decidable (RefusesNull ws) :=
  inferInstanceAs (Decidable (_ ∨ _))

private theorem definitionWords_columnDefinition (dialect : Dialect) (c : Column) :
    definitionWords (columnDefinition dialect c) = words (clauses dialect c) := by
  have hblank : (" " ++ clauses dialect c).toList = ' ' :: (clauses dialect c).toList := by simp
  have hhead : (' ' :: (clauses dialect c).toList).head? ≠ some '"' := by simp
  rw [definitionWords, columnDefinition_eq, String.toList_append, Dialect.toList_quoteIdentifier,
    hblank, readQuoted?_quotedToken _ hhead]
  simp

private theorem refusesNull_increment :
    RefusesNull ["INTEGER", "PRIMARY", "KEY", "AUTOINCREMENT"] := by
  decide

section Sqlite

variable {s : Serializer} {c : Column}

private theorem refusesNull_key_iff (hs : s ∈ Serializer.sqlite) :
    RefusesNull (words s.dbType ++ ["PRIMARY", "KEY"]) ↔ s.valueType = .int32 := by
  have hall : ∀ s ∈ Serializer.sqlite,
      (RefusesNull (words s.dbType ++ ["PRIMARY", "KEY"]) ↔ s.valueType = .int32) := by
    decide +kernel
  exact hall s hs

private theorem refusesNull_plain_iff (hs : s ∈ Serializer.sqlite) (isNotNull isUnique : Bool) :
    RefusesNull (words s.dbType ++ ((if isNotNull then ["NOT", "NULL"] else []) ++
      if isUnique then ["UNIQUE"] else [])) ↔ isNotNull := by
  have hall : ∀ s ∈ Serializer.sqlite, ∀ isNotNull isUnique : Bool,
      (RefusesNull (words s.dbType ++ ((if isNotNull then ["NOT", "NULL"] else []) ++
        if isUnique then ["UNIQUE"] else [])) ↔ isNotNull) := by
    decide +kernel
  exact hall s hs isNotNull isUnique

private theorem isAutoIncrement_iff (hs : c.serializer ∈ Serializer.sqlite)
    (htype : c.serializer.valueType = c.valueType) : c.isAutoIncrement ↔
      c.isPrimary ∧ c.property.nullable ∧ c.valueType ∈ [.int16, .int32, .int64] := by
  have hbuiltin : c.serializer ∈ Serializer.builtins .sqlite := hs
  have hinteger : c.wireType.isInteger ↔ c.serializer.valueType ∈ [.int16, .int32, .int64] :=
    WireType.isInteger_iff.trans (Serializer.agreesOnIntegers_of_builtin hbuiltin)
  rw [htype] at hinteger
  simp only [Column.isAutoIncrement, Bool.and_eq_true, and_assoc, hinteger]

/-- The definition of a column refuses absent values where the column has none, but for a key only
if the type is `INTEGER`, or if the database makes up the key. -/
private theorem refusesNull_columnDefinition_iff (hs : c.serializer ∈ Serializer.sqlite)
    (htype : c.serializer.valueType = c.valueType) :
    RefusesNull (definitionWords (columnDefinition .sqlite c)) ↔ c.isNotNull ∧
      (c.isPrimary → c.valueType = .int32 ∨
        c.property.nullable ∧ c.valueType ∈ [.int16, .int64]) := by
  have hincrement := isAutoIncrement_iff hs htype
  have hnotNull (hkey : c.isPrimary) : c.isNotNull := by simp [Column.isNotNull, hkey]
  rw [definitionWords_columnDefinition, words_clauses]
  by_cases hmade : c.isAutoIncrement
  · obtain ⟨hkey, hnullable, hinteger⟩ := hincrement.mp hmade
    rw [if_pos hmade]
    refine iff_of_true refusesNull_increment ⟨hnotNull hkey, fun _ => ?_⟩
    by_cases hint32 : c.valueType = .int32
    · exact .inl hint32
    · exact .inr ⟨hnullable, by simpa [hint32] using hinteger⟩
  · rw [if_neg hmade]
    by_cases hkey : c.isPrimary
    · rw [if_pos hkey, Column.dbType, refusesNull_key_iff hs, htype]
      constructor
      · intro hint32
        exact ⟨hnotNull hkey, fun _ => .inl hint32⟩
      · rintro ⟨-, hany⟩
        rcases hany hkey with hint32 | ⟨hnullable, hinteger⟩
        · exact hint32
        -- Such a key would be made up by the database.
        · have hall : c.valueType ∈ [.int16, .int32, .int64] := by
            rcases List.mem_pair.mp hinteger with h | h <;> simp [h]
          exact absurd (hincrement.mpr ⟨hkey, hnullable, hall⟩) hmade
    · rw [if_neg hkey, Column.dbType, refusesNull_plain_iff hs]
      simp [hkey]

end Sqlite

/-- Over the built-in serializers of SQLite a table is created by a text with a definition for each
of its columns. The definition keeps absent values out of a column that has none, but not out of
every key: a key is never declared `NOT NULL`, so that absent values are kept out if and only if the
key is a 32-bit integer, or another integer that the database makes up. -/
theorem definitions_refuse_null_but_for_keys {t : Table} (ht : t.IsObtained)
    (hbuiltin : ∀ c ∈ t.columns, c.serializer ∈ Serializer.sqlite) :
    (∀ neighbours q, createTable .sqlite neighbours t = .ok q ↔
      ∃ keys : List (Column × Table), keys.map Prod.fst = t.foreignColumns ∧
        (∀ key ∈ keys, Table.foreignTable neighbours key.1 = .ok key.2) ∧
        q = .raw (tableDefinition .sqlite t keys)) ∧
    (∀ s : Schema, s.IsBuilt → t ∈ s.tables → ∃ q, createTable .sqlite s.neighbours t = .ok q) ∧
    ∀ c ∈ t.columns, RefusesNull (definitionWords (columnDefinition .sqlite c)) ↔
      c.isNotNull ∧ (c.isPrimary → c.valueType = .int32 ∨
        c.property.nullable ∧ c.valueType ∈ [.int16, .int64]) := by
  refine ⟨fun _ _ => createTable_eq_ok, ?_, ?_⟩
  · intro s hs hmem
    exact hs.isLinked.exists_createTable hmem .sqlite
  · intro c hc
    exact refusesNull_columnDefinition_iff (hbuiltin c hc) (ht.valueType_eq hc)

/-- The numbers of categories are 32-bit integers. -/
theorem definitions_refuse_null_but_for_keys_of_category :
    let category : EntityType := ⟨0, "Category"⟩
    let d : SchemaDeclaration := ⟨"shop", [], [⟨⟨category, [
      ⟨"id", .int32, false, false, none, fun fields => fields.headD .null⟩,
      ⟨"parent", .int32, true, false, some category, fun fields => fields.getD 1 .null⟩,
      ⟨"name", .text, false, true, none, fun fields => fields.getD 2 .null⟩],
      none, none⟩, "id", none⟩]⟩
    ∃ s t, d.build (.ofDialect .sqlite) = .ok s ∧ t ∈ s.tables ∧ t.IsObtained ∧
      (∀ c ∈ t.columns, c.serializer ∈ Serializer.sqlite) ∧
      (∃ q, createTable .sqlite s.neighbours t = .ok q) ∧
      ∀ c ∈ t.columns, RefusesNull (definitionWords (columnDefinition .sqlite c)) ↔
        c.isNotNull := by
  intro category d
  have hshape : (d.build (.ofDialect .sqlite)).toOption.map (fun s => s.tables.map fun t =>
      t.columns.all fun c => !c.isPrimary || decide (c.valueType = .int32)) = some [true] := by
    decide +kernel
  obtain ⟨s, hs, htables⟩ := Check.exists_of_toOption hshape
  obtain ⟨t, ht, hkeys⟩ := List.map_eq_singleton_iff.mp htables
  have hmem : t ∈ s.tables := by simp [ht]
  have hbuilt : s.IsBuilt := .declared hs
  have hobtained : t.IsObtained := .ofSchema hbuilt hmem
  have hbuiltin : ∀ c ∈ t.columns, c.serializer ∈ Serializer.sqlite := by
    intro c hc
    exact Table.mem_builtins_of_declared rfl hs hmem hc
  obtain ⟨-, hcreate, hrefuses⟩ := definitions_refuse_null_but_for_keys hobtained hbuiltin
  refine ⟨s, t, hs, hmem, hobtained, hbuiltin, hcreate s hbuilt hmem, ?_⟩
  intro c hc
  rw [hrefuses c hc]
  apply and_iff_left
  intro hkey
  have hint32 := List.all_eq_true.mp hkeys c hc
  exact .inl (by simpa [hkey] using hint32)

/-- The code of a country is a text, so that SQLite takes countries without one. -/
theorem key_of_country_takes_null :
    let country : Entity := ⟨⟨0, "Country"⟩,
      [⟨"code", .text, false, false, none, fun fields => fields.headD .null⟩], some "code", none⟩
    ∃ t q, Table.ofEntity (.ofDialect .sqlite) country = .ok t ∧
      (∀ c ∈ t.columns, c.serializer ∈ Serializer.sqlite) ∧ createTable .sqlite [] t = .ok q ∧
      q.sql = "CREATE TABLE IF NOT EXISTS \"Country\" (\"code\" TEXT PRIMARY KEY)" ∧
      ∃ c ∈ t.columns, c.isNotNull ∧
        ¬RefusesNull (definitionWords (columnDefinition .sqlite c)) := by
  intro country
  have hshape : (Table.ofEntity (.ofDialect .sqlite) country).toOption.map (fun t =>
      ((createTable .sqlite [] t).toOption.map Query.sql, t.primary.isNotNull,
        decide (RefusesNull (definitionWords (columnDefinition .sqlite t.primary))))) =
      some (some "CREATE TABLE IF NOT EXISTS \"Country\" (\"code\" TEXT PRIMARY KEY)", true,
        false) := by
    decide +kernel
  obtain ⟨t, ht, hparts⟩ := Check.exists_of_toOption hshape
  simp only [Prod.mk.injEq] at hparts
  obtain ⟨hcreate, hnotNull, hrefuses⟩ := hparts
  obtain ⟨q, hq, hsql⟩ := Check.exists_of_toOption hcreate
  have hbuild : Table.build (.ofDialect .sqlite) [] country "code" none = .ok t := ht
  exact ⟨t, q, ht, fun c hc => Table.mem_builtins_of_build hbuild hc, hq, hsql, t.primary,
    t.primary_mem_columns, hnotNull, of_decide_eq_false hrefuses⟩

end RecordTables.Statement
