import Mathlib.Tactic.Choose
import RecordTables.Proofs.Placeholder.Renumbering
import RecordTables.Proofs.Statement.Binding
import RecordTables.Proofs.Statement.Columns
import RecordTables.Proofs.Table.Rows
import RecordTables.Proofs.Text.Delimited
import RecordTables.Proofs.Text.Quoted

/-!
# Definitions of tables

The text that creates a table can be read back. Names stand between quotes and end where their
quotes do, a column ends at the next comma, and a foreign key starts otherwise than a column. Two
tables with one text therefore agree in everything that the text is about.
-/

namespace RecordTables

open Placeholder Text

/-- The foreign keys of a table by name, each with the names of the table that it references and of
the key there. -/
def Schema.references (s : Schema) (t : Table) :
    Except MappingError (List (String × String × String)) :=
  t.foreignColumns.mapM fun c => do
    let target ← s.foreignTable c
    return (c.name, target.name, target.primary.name)

namespace Statement

private theorem tablePath_append_inj {dialect : Dialect} {t w : Table} {x y : String}
    (ht : t.schema.isSome) (hw : w.schema.isSome) (hx : x.toList.head? ≠ some '"')
    (hy : y.toList.head? ≠ some '"') (h : tablePath dialect t ++ x = tablePath dialect w ++ y) :
    t.name = w.name ∧ x = y := by
  obtain ⟨schema, hschema⟩ := Option.isSome_iff_exists.mp ht
  obtain ⟨other, hother⟩ := Option.isSome_iff_exists.mp hw
  cases dialect with
  | sqlite => exact Dialect.quoteIdentifier_append_inj hx hy h
  | postgres =>
    have hdot (z : String) : ("." ++ z).toList.head? ≠ some '"' := by simp
    simp only [tablePath, hschema, hother, String.append_assoc] at h
    obtain ⟨_, h⟩ := Dialect.quoteIdentifier_append_inj (hdot _) (hdot _) h
    rw [String.append_right_inj] at h
    exact Dialect.quoteIdentifier_append_inj hx hy h

def keyDefinition (dialect : Dialect) (c : Column) (target : Table) : String :=
  "FOREIGN KEY (" ++ dialect.quoteIdentifier c.name ++ ") REFERENCES " ++
    tablePath dialect target ++ " (" ++ dialect.quoteIdentifier target.primary.name ++ ")"

/-- What stands between the parentheses of a definition: a column, or a foreign key with the table
that it references. -/
inductive Part where
  | column (c : Column)
  | key (c : Column) (target : Table)

namespace Part

def text (dialect : Dialect) : Part → String
  | column c => columnDefinition dialect c
  | key c target => keyDefinition dialect c target

def reading : Part → ColumnTraits ⊕ (String × String × String)
  | column c => .inl c.traits
  | key c target => .inr (c.name, target.name, target.primary.name)

/-- The column has a built-in serializer, or the referenced table belongs to a schema. -/
def IsReadable : Part → Prop
  | column c => ∃ dialect, c.serializer ∈ Serializer.builtins dialect
  | key _ target => target.schema.isSome

/-- A part ends before a comma, or at the end of the parts. -/
def EndsPart (rest : String) : Prop :=
  ∀ c, rest.toList.head? = some c → c = ','

private theorem column_append_inj {dialect : Dialect} {a b : Column} {x y : String}
    (ha : IsReadable (column a)) (hb : IsReadable (column b)) (hx : EndsPart x) (hy : EndsPart y)
    (h : columnDefinition dialect a ++ x = columnDefinition dialect b ++ y) :
    a.traits = b.traits ∧ x = y := by
  obtain ⟨_, ha⟩ := ha
  obtain ⟨_, hb⟩ := hb
  obtain ⟨hacomma, hawords⟩ := dbType_of_builtin ha
  obtain ⟨hbcomma, hbwords⟩ := dbType_of_builtin hb
  have hblank (z : String) : (" " ++ z).toList.head? ≠ some '"' := by simp
  rw [columnDefinition_eq, columnDefinition_eq] at h
  simp only [String.append_assoc] at h
  obtain ⟨hname, h⟩ := Dialect.quoteIdentifier_append_inj (hblank _) (hblank _) h
  rw [String.append_right_inj] at h
  obtain ⟨hclauses, hrest⟩ := append_inj_of_notMem (comma_notMem_clauses hacomma dialect)
    (comma_notMem_clauses hbcomma dialect) hx hy h
  refine ⟨?_, hrest⟩
  rw [← readTraits_clauses hawords dialect, ← readTraits_clauses hbwords dialect, hname, hclauses]

private theorem key_append_inj {dialect : Dialect} {a b : Column} {t w : Table} {x y : String}
    (ht : t.schema.isSome) (hw : w.schema.isSome)
    (h : keyDefinition dialect a t ++ x = keyDefinition dialect b w ++ y) :
    (a.name, t.name, t.primary.name) = (b.name, w.name, w.primary.name) ∧ x = y := by
  have hclose (z : String) : (")" ++ z).toList.head? ≠ some '"' := by simp
  have hreferences (z : String) : (") REFERENCES " ++ z).toList.head? ≠ some '"' := by simp
  have hopen (z : String) : (" (" ++ z).toList.head? ≠ some '"' := by simp
  unfold keyDefinition at h
  simp only [String.append_assoc] at h
  -- From the left, words that are the same and quoted names take turns.
  rw [String.append_right_inj] at h
  obtain ⟨hcolumn, h⟩ := Dialect.quoteIdentifier_append_inj (hreferences _) (hreferences _) h
  rw [String.append_right_inj] at h
  obtain ⟨htable, h⟩ := tablePath_append_inj ht hw (hopen _) (hopen _) h
  rw [String.append_right_inj] at h
  obtain ⟨hkey, h⟩ := Dialect.quoteIdentifier_append_inj (hclose _) (hclose _) h
  rw [String.append_right_inj] at h
  rw [hcolumn, htable, hkey]
  exact ⟨rfl, h⟩

private theorem head?_column (dialect : Dialect) (c : Column) (x : String) :
    (columnDefinition dialect c ++ x).toList.head? = some '"' := by
  rw [columnDefinition_eq, String.append_assoc, String.toList_append,
    Dialect.toList_quoteIdentifier]
  rfl

private theorem head?_key (dialect : Dialect) (c : Column) (target : Table) (x : String) :
    (keyDefinition dialect c target ++ x).toList.head? = some 'F' := by
  unfold keyDefinition
  simp only [String.append_assoc]
  simp

private theorem delimits (dialect : Dialect) :
    Delimits IsReadable (text dialect) reading EndsPart := by
  intro a b x y ha hb hx hy h
  have hhead := congrArg (fun s : String => s.toList.head?) h
  cases a with
  | column a =>
    cases b with
    | column b =>
      obtain ⟨htraits, hrest⟩ := column_append_inj ha hb hx hy h
      exact ⟨congrArg Sum.inl htraits, hrest⟩
    | key b w =>
      simp only [text, head?_column, head?_key] at hhead
      cases hhead
  | key a t =>
    cases b with
    | column b =>
      simp only [text, head?_column, head?_key] at hhead
      cases hhead
    | key b w =>
      obtain ⟨hnames, hrest⟩ := key_append_inj ha hb h
      exact ⟨congrArg Sum.inr hnames, hrest⟩

private theorem endsPart_joined (texts : List String) : EndsPart (joined ", " texts) := by
  intro c hc
  cases texts with
  | nil => simp [joined] at hc
  | cons text texts =>
    have hcomma : ',' = c := by simpa [joined] using hc
    exact hcomma.symm

private theorem IsReadable.isFragment {part : Part} (h : part.IsReadable) (dialect : Dialect) :
    IsFragment (part.text dialect) := by
  cases part with
  | column c =>
    obtain ⟨_, hc⟩ := h
    have hblank : IsFragment " " := by decide
    rw [text, columnDefinition_eq]
    exact (isFragment_quoteIdentifier _ _).append (hblank.append (isFragment_clauses hc dialect))
  | key c target =>
    have hforeign : IsFragment "FOREIGN KEY (" := by decide
    have hreferences : IsFragment ") REFERENCES " := by decide
    have hopen : IsFragment " (" := by decide
    have hclose : IsFragment ")" := by decide
    have hcolumn := isFragment_quoteIdentifier c.name dialect
    have hkey := isFragment_quoteIdentifier target.primary.name dialect
    have hhead := (hforeign.append hcolumn).append hreferences
    have htable := (hhead.append (isFragment_tablePath dialect target)).append hopen
    rw [text]
    unfold keyDefinition
    exact (htable.append hkey).append hclose

end Part

def parts (t : Table) (keys : List (Column × Table)) : List Part :=
  t.columns.map Part.column ++ keys.map fun (c, target) => .key c target

def tableDefinition (dialect : Dialect) (t : Table) (keys : List (Column × Table)) : String :=
  "CREATE TABLE IF NOT EXISTS " ++ tablePath dialect t ++ " (" ++
    ", ".intercalate ((parts t keys).map (Part.text dialect)) ++ ")"

section Creation

variable {dialect : Dialect} {neighbours : Neighbours}

private theorem mapM_foreignKey_eq_ok {cs : List Column} {texts : List String} :
    cs.mapM (foreignKey dialect neighbours) = .ok texts ↔
      ∃ keys : List (Column × Table), keys.map Prod.fst = cs ∧
        (∀ key ∈ keys, Table.foreignTable neighbours key.1 = .ok key.2) ∧
        texts = keys.map fun (c, target) => keyDefinition dialect c target := by
  constructor
  · intro h
    rw [Check.mapM_eq_ok] at h
    induction h with
    | nil => exact ⟨[], rfl, by simp, rfl⟩
    | @cons c text cs texts htext _ ih =>
      obtain ⟨target, htarget, hdefinition⟩ := Check.bind_eq_ok.mp htext
      obtain ⟨keys, rfl, hkeys, rfl⟩ := ih
      refine ⟨(c, target) :: keys, rfl, List.forall_mem_cons.mpr ⟨htarget, hkeys⟩, ?_⟩
      rw [List.map_cons, ← Except.ok.inj hdefinition]
      rfl
  · rintro ⟨keys, rfl, hkeys, rfl⟩
    rw [List.mapM_map]
    apply Check.mapM_eq_map
    intro key hkey
    exact Check.bind_eq_ok.mpr ⟨key.2, hkeys key hkey, rfl⟩

theorem createTable_eq_ok {t : Table} {q : Query} :
    createTable dialect neighbours t = .ok q ↔
      ∃ keys : List (Column × Table), keys.map Prod.fst = t.foreignColumns ∧
        (∀ key ∈ keys, Table.foreignTable neighbours key.1 = .ok key.2) ∧
        q = .raw (tableDefinition dialect t keys) := by
  have htext (keys : List (Column × Table)) : tableDefinition dialect t keys =
      "CREATE TABLE IF NOT EXISTS " ++ tablePath dialect t ++ " (" ++ ", ".intercalate
        (t.columns.map (columnDefinition dialect) ++
          keys.map fun (c, target) => keyDefinition dialect c target) ++ ")" := by
    unfold tableDefinition
    rw [parts, List.map_append, List.map_map, List.map_map]
    rfl
  constructor
  · intro h
    obtain ⟨texts, htexts, hq⟩ := Check.bind_eq_ok.mp h
    obtain ⟨keys, hcolumns, hkeys, rfl⟩ := mapM_foreignKey_eq_ok.mp htexts
    exact ⟨keys, hcolumns, hkeys, by rw [htext, ← Except.ok.inj hq]⟩
  · rintro ⟨keys, hcolumns, hkeys, rfl⟩
    rw [htext]
    exact Check.bind_eq_ok.mpr ⟨_, mapM_foreignKey_eq_ok.mpr ⟨keys, hcolumns, hkeys, rfl⟩, rfl⟩

end Creation

/-- These are the foreign keys of a table, each with the table of the schema that it references. -/
structure HasKeys (s : Schema) (t : Table) (keys : List (Column × Table)) : Prop where
  columns_eq : keys.map Prod.fst = t.foreignColumns
  foreignTable_eq : ∀ key ∈ keys, s.foreignTable key.1 = .ok key.2
  attached : ∀ key ∈ keys, key.2.schema.isSome

private theorem exists_keys {s : Schema} {t : Table} (hs : s.IsLinked) (ht : t ∈ s.tables) :
    ∃ keys, HasKeys s t keys := by
  have hall : ∀ c ∈ t.foreignColumns, ∃ target,
      s.foreignTable c = .ok target ∧ target.schema.isSome := by
    intro c hc
    obtain ⟨hmem, hforeign⟩ := List.mem_filter.mp hc
    obtain ⟨references, href⟩ := Option.isSome_iff_exists.mp hforeign
    obtain ⟨target, htarget, htables, _⟩ := hs.exists_foreignTable ht hmem href
    exact ⟨target, htarget, by simp [hs.attached target htables]⟩
  choose target htarget hattached using hall
  refine ⟨t.foreignColumns.attach.map fun c => (c.1, target c.1 c.2), ?_, ?_, ?_⟩
  · simp [Function.comp_def]
  · intro key hkey
    obtain ⟨c, _, rfl⟩ := List.mem_map.mp hkey
    exact htarget c.1 c.2
  · intro key hkey
    obtain ⟨c, _, rfl⟩ := List.mem_map.mp hkey
    exact hattached c.1 c.2

namespace HasKeys

variable {s : Schema} {t : Table} {keys : List (Column × Table)}

private theorem createTable_eq (h : HasKeys s t keys) (dialect : Dialect) :
    createTable dialect s.neighbours t = .ok (.raw (tableDefinition dialect t keys)) :=
  createTable_eq_ok.mpr ⟨keys, h.columns_eq, h.foreignTable_eq, rfl⟩

private theorem isReadable_parts (h : HasKeys s t keys) (hbuiltin : t.UsesBuiltins) :
    ∀ part ∈ parts t keys, part.IsReadable := by
  rw [parts, List.forall_mem_append, List.forall_mem_map, List.forall_mem_map]
  exact ⟨hbuiltin, h.attached⟩

theorem references_eq (h : HasKeys s t keys) :
    s.references t =
      .ok (keys.map fun (c, target) => (c.name, target.name, target.primary.name)) := by
  rw [Schema.references, ← h.columns_eq, List.mapM_map]
  apply Check.mapM_eq_map
  intro key hkey
  exact Check.bind_eq_ok.mpr ⟨key.2, h.foreignTable_eq key hkey, rfl⟩

end HasKeys

private theorem reading_parts (t : Table) (keys : List (Column × Table)) :
    (parts t keys).map Part.reading = (t.columns.map Column.traits).map Sum.inl ++
      (keys.map fun (c, target) => (c.name, target.name, target.primary.name)).map Sum.inr := by
  rw [parts, List.map_append, List.map_map, List.map_map, List.map_map, List.map_map]
  rfl

private theorem map_inl_append_inj {α β : Type} {as cs : List α} {bs ds : List β}
    (h : as.map Sum.inl ++ bs.map Sum.inr = cs.map Sum.inl ++ ds.map Sum.inr) :
    as = cs ∧ bs = ds := by
  have hleft := congrArg (List.filterMap Sum.getLeft?) h
  have hright := congrArg (List.filterMap Sum.getRight?) h
  constructor
  · simpa [List.filterMap_append, List.filterMap_map, Function.comp_def] using hleft
  · simpa [List.filterMap_append, List.filterMap_map, Function.comp_def] using hright

private theorem parts_ne_nil (t : Table) (keys : List (Column × Table)) : parts t keys ≠ [] := by
  have hprimary : Part.column t.primary ∈ parts t keys :=
    List.mem_append_left _ (List.mem_map_of_mem t.primary_mem_columns)
  exact List.ne_nil_of_mem hprimary

private theorem isFragment_tableDefinition (dialect : Dialect) {t : Table}
    {keys : List (Column × Table)}
    (h : ∀ part ∈ parts t keys, part.IsReadable) :
    IsFragment (tableDefinition dialect t keys) := by
  have hcreate : IsFragment "CREATE TABLE IF NOT EXISTS " := by decide
  have hopen : IsFragment " (" := by decide
  have hclose : IsFragment ")" := by decide
  have hhead := (hcreate.append (isFragment_tablePath dialect t)).append hopen
  have hparts : IsFragment (", ".intercalate ((parts t keys).map (Part.text dialect))) := by
    apply isFragment_comma.intercalate
    intro text htext
    obtain ⟨part, hpart, rfl⟩ := List.mem_map.mp htext
    exact (h part hpart).isFragment dialect
  exact (hhead.append hparts).append hclose

/-- Definitions with one text have tables with one name, and parts that read alike. -/
private theorem tableDefinition_inj {dialect : Dialect} {t w : Table}
    {keys others : List (Column × Table)}
    (ht : t.schema.isSome) (hw : w.schema.isSome) (hkeys : ∀ part ∈ parts t keys, part.IsReadable)
    (hothers : ∀ part ∈ parts w others, part.IsReadable)
    (h : tableDefinition dialect t keys = tableDefinition dialect w others) :
    t.name = w.name ∧ (parts t keys).map Part.reading = (parts w others).map Part.reading := by
  have hopen (z : String) : (" (" ++ z).toList.head? ≠ some '"' := by simp
  unfold tableDefinition at h
  -- Without the last parenthesis, the parts are followed by nothing but parts.
  rw [String.append_left_inj] at h
  simp only [String.append_assoc] at h
  rw [String.append_right_inj] at h
  obtain ⟨hname, h⟩ := tablePath_append_inj ht hw (hopen _) (hopen _) h
  rw [String.append_right_inj] at h
  have hreading := (Part.delimits dialect).intercalate (by decide) Part.endsPart_joined
    (parts_ne_nil t keys) (parts_ne_nil w others) hkeys hothers h
  exact ⟨hname, hreading⟩

private theorem filter_traits {t : Table} {entity : Entity} (h : t.Stores entity) :
    (t.columns.map Column.traits).filter ColumnTraits.isPrimary = [t.primary.traits] := by
  rw [List.filter_map]
  exact congrArg (List.map Column.traits) h.filter_isPrimary

/-- In either dialect a table of a schema can be created if its serializers are built in, by a text
without placeholders. Where the text is the same for two tables, they have one name, columns of the
same names in the same order, each with the same properties, among them the same key, and the same
foreign keys to tables and keys of the same names. -/
theorem definitions_tell_tables_apart (dialect : Dialect) {s u : Schema} (hs : s.IsBuilt)
    (hu : u.IsBuilt) {t w : Table} (ht : t ∈ s.tables) (hw : w ∈ u.tables) (htb : t.UsesBuiltins)
    (hwb : w.UsesBuiltins) :
    ∃ q r, createTable dialect s.neighbours t = .ok q ∧ createTable dialect u.neighbours w = .ok r ∧
      q.placeholderCount = 0 ∧ r.placeholderCount = 0 ∧
      (q.sql = r.sql → t.name = w.name ∧ t.columns.map Column.traits = w.columns.map Column.traits ∧
        t.primary.traits = w.primary.traits ∧
        ∃ references, s.references t = .ok references ∧ u.references w = .ok references) := by
  obtain ⟨keys, hkeys⟩ := exists_keys hs.isLinked ht
  obtain ⟨others, hothers⟩ := exists_keys hu.isLinked hw
  have htparts := hkeys.isReadable_parts htb
  have hwparts := hothers.isReadable_parts hwb
  have htfragment := isFragment_tableDefinition dialect htparts
  have hwfragment := isFragment_tableDefinition dialect hwparts
  refine ⟨_, _, hkeys.createTable_eq dialect, hothers.createTable_eq dialect, htfragment.count_eq,
    hwfragment.count_eq, ?_⟩
  intro h
  have htschema : t.schema.isSome := by simp [hs.isLinked.attached t ht]
  have hwschema : w.schema.isSome := by simp [hu.isLinked.attached w hw]
  obtain ⟨hname, hreading⟩ := tableDefinition_inj htschema hwschema htparts hwparts h
  rw [reading_parts, reading_parts] at hreading
  obtain ⟨htraits, hreferences⟩ := map_inl_append_inj hreading
  refine ⟨hname, htraits, ?_, _, hkeys.references_eq, ?_⟩
  · obtain ⟨_, htstores⟩ := hs.isLinked.stores t ht
    obtain ⟨_, hwstores⟩ := hu.isLinked.stores w hw
    -- The columns are equal only as lists, but each list has a single key.
    have hprimary := congrArg (List.filter ColumnTraits.isPrimary) htraits
    rw [filter_traits htstores, filter_traits hwstores] at hprimary
    exact List.singleton_inj.mp hprimary
  · rw [hothers.references_eq, hreferences]

/-- Texts and timestamps have one type in a definition, which says nothing of what is read. -/
theorem definitions_tell_tables_apart_of_categories :
    let category : EntityType := ⟨0, "Category"⟩
    let d (schema : String) (type : ValueType) : SchemaDeclaration :=
      ⟨schema, [], [⟨⟨category, [
        ⟨"id", .int64, true, false, none, fun fields => fields.headD .null⟩,
        ⟨"parent", .int64, true, false, some category, fun fields => fields.getD 1 .null⟩,
        ⟨"since", type, false, true, none, fun fields => fields.getD 2 .null⟩],
        none, none⟩, "id", none⟩]⟩
    ∃ s u t w q r, (d "shop" .text).build (.ofDialect .sqlite) = .ok s ∧
      (d "store" .timestamp).build (.ofDialect .sqlite) = .ok u ∧ t ∈ s.tables ∧ w ∈ u.tables ∧
      t.columns.map Column.valueType ≠ w.columns.map Column.valueType ∧
      createTable .sqlite s.neighbours t = .ok q ∧ createTable .sqlite u.neighbours w = .ok r ∧
      q.sql = r.sql ∧ t.name = w.name ∧
      t.columns.map Column.traits = w.columns.map Column.traits ∧
      t.primary.traits = w.primary.traits ∧
      ∃ references, s.references t = .ok references ∧ u.references w = .ok references := by
  intro category d
  let text : String := "CREATE TABLE IF NOT EXISTS \"Category\" (" ++
    "\"id\" INTEGER PRIMARY KEY AUTOINCREMENT, \"parent\" BIGINT, " ++
    "\"since\" TEXT NOT NULL UNIQUE, " ++
    "FOREIGN KEY (\"parent\") REFERENCES \"Category\" (\"id\"))"
  have hshape : ((d "shop" .text).build (.ofDialect .sqlite)).toOption.map (fun s =>
      s.tables.map fun t => ((createTable .sqlite s.neighbours t).toOption.map Query.sql,
        t.columns.map Column.valueType)) = some [(some text, [.int64, .int64, .text])] := by
    decide +kernel
  have hother : ((d "store" .timestamp).build (.ofDialect .sqlite)).toOption.map (fun u =>
      u.tables.map fun w => ((createTable .sqlite u.neighbours w).toOption.map Query.sql,
        w.columns.map Column.valueType)) = some [(some text, [.int64, .int64, .timestamp])] := by
    decide +kernel
  obtain ⟨s, hs, htables⟩ := Check.exists_of_toOption hshape
  obtain ⟨u, hu, hothers⟩ := Check.exists_of_toOption hother
  obtain ⟨t, ht, htable⟩ := List.map_eq_singleton_iff.mp htables
  obtain ⟨w, hw, hwtable⟩ := List.map_eq_singleton_iff.mp hothers
  obtain ⟨htext, htypes⟩ := Prod.mk.inj htable
  obtain ⟨hwtext, hwtypes⟩ := Prod.mk.inj hwtable
  have htmem : t ∈ s.tables := by simp [ht]
  have hwmem : w ∈ u.tables := by simp [hw]
  obtain ⟨q, r, hq, hr, _, _, halike⟩ := definitions_tell_tables_apart .sqlite (.declared hs)
    (.declared hu) htmem hwmem (Table.usesBuiltins_of_declared rfl hs htmem)
    (Table.usesBuiltins_of_declared rfl hu hwmem)
  have hsql : q.sql = r.sql := by
    rw [hq] at htext
    rw [hr] at hwtext
    exact (Option.some.inj htext).trans (Option.some.inj hwtext).symm
  have hunlike : t.columns.map Column.valueType ≠ w.columns.map Column.valueType := by
    rw [htypes, hwtypes]
    decide
  exact ⟨s, u, t, w, q, r, hs, hu, htmem, hwmem, hunlike, hq, hr, hsql, halike hsql⟩

end Statement

end RecordTables
