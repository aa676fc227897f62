import RecordTables.Proofs.Keyed
import RecordTables.Proofs.Schema.Rules
import RecordTables.Statement

/-!
# Linked schemas

However the tables of a schema refer to each other, every foreign key leads to the one table of the
schema that it references, whose key has the same type. The tables can therefore be created.
-/

namespace RecordTables.Schema

/-- The schemas that can come about: assembled of tables that have just been built, built as they
were declared, or with procedures added to another one. -/
inductive IsBuilt : Schema → Prop
  | assembled {name : String} {tables : List Table} {serializers : List Serializer} {s : Schema}
      (ht : ∀ t ∈ tables, t.IsFresh) (hs : assemble name tables serializers = .ok s) : IsBuilt s
  | declared {d : SchemaDeclaration} {mapper : Mapper} {s : Schema} (hs : d.build mapper = .ok s) :
      IsBuilt s
  | extended {s extended : Schema} {procedures : List Procedure} (hs : IsBuilt s)
      (hp : s.withProcedures procedures = .ok extended) : IsBuilt extended

private theorem checkProcedure_eq_ok {s : Schema} {p : Procedure} :
    s.checkProcedure p = .ok () ↔ p.id.schema = some s.name := by
  rw [checkProcedure]
  split <;> simp_all

theorem withProcedures_eq_ok_iff {s extended : Schema} {procedures : List Procedure} :
    s.withProcedures procedures = .ok extended ↔
      (∀ p ∈ procedures, p.id.schema = some s.name) ∧
        ((s.procedures ++ procedures).map Procedure.path).Nodup ∧
        extended = { s with procedures := s.procedures ++ procedures } := by
  constructor
  · intro h
    obtain ⟨_, hchecked, h⟩ := Check.bind_eq_ok.mp h
    obtain ⟨_, hunique, h⟩ := Check.bind_eq_ok.mp h
    refine ⟨?_, checkUnique_eq_ok.mp hunique, (Except.ok.inj h).symm⟩
    intro p hp
    exact checkProcedure_eq_ok.mp (Check.forall_of_mapM hchecked p hp)
  · rintro ⟨hdeclared, hpaths, rfl⟩
    have hchecked : procedures.mapM s.checkProcedure = .ok (procedures.map fun _ => ()) :=
      Check.mapM_eq_map fun p hp => checkProcedure_eq_ok.mpr (hdeclared p hp)
    refine Check.bind_eq_ok.mpr ⟨_, hchecked, Check.bind_eq_ok.mpr ⟨(), ?_, rfl⟩⟩
    exact checkUnique_eq_ok.mpr hpaths

private theorem withProcedures_eq_ok {s extended : Schema} {procedures : List Procedure}
    (h : s.withProcedures procedures = .ok extended) :
    extended = { s with procedures := s.procedures ++ procedures } :=
  (withProcedures_eq_ok_iff.mp h).2.2

theorem exists_assemble_of_build {d : SchemaDeclaration} {mapper : Mapper} {s : Schema}
    (h : d.build mapper = .ok s) :
    ∃ tables, (∀ t ∈ tables, t.IsFresh) ∧ assemble d.name tables d.serializers = .ok s := by
  obtain ⟨tables, htables, h⟩ := Check.bind_eq_ok.mp h
  exact ⟨tables, isFresh_of_built (Check.mapM_eq_ok.mp htables), h⟩

theorem exists_declaration_of_build {d : SchemaDeclaration} {mapper : Mapper} {s : Schema}
    (h : d.build mapper = .ok s) {t : Table} (ht : t ∈ s.tables) :
    ∃ declaration ∈ d.tables, ∃ fresh attached,
      Table.build mapper d.serializers declaration.entity declaration.key declaration.name =
        .ok fresh ∧
      LinksTable attached { fresh with schema := some d.name } t := by
  obtain ⟨tables, htables, hassemble⟩ := Check.bind_eq_ok.mp h
  have hbuilt := Check.mapM_eq_ok.mp htables
  obtain ⟨fresh, hmem, attached, hlinks⟩ :=
    exists_fresh_of_assemble (isFresh_of_built hbuilt) hassemble ht
  obtain ⟨declaration, hdeclared, hfresh⟩ := Check.exists_left_of_mem hbuilt hmem
  exact ⟨declaration, hdeclared, fresh, attached, hfresh, hlinks⟩

/-- Every table of a schema is one that had just been built, attached to the schema and linked. -/
theorem IsBuilt.exists_fresh {s : Schema} (h : s.IsBuilt) {t : Table} (ht : t ∈ s.tables) :
    ∃ fresh : Table, fresh.IsFresh ∧
      ∃ attached, LinksTable attached { fresh with schema := some s.name } t := by
  induction h with
  | assembled hfresh hs =>
    obtain ⟨fresh, hmem, hlinks⟩ := exists_fresh_of_assemble hfresh hs ht
    rw [← name_of_assemble hs] at hlinks
    exact ⟨fresh, hfresh fresh hmem, hlinks⟩
  | declared hs =>
    obtain ⟨tables, hfresh, hs⟩ := exists_assemble_of_build hs
    obtain ⟨fresh, hmem, hlinks⟩ := exists_fresh_of_assemble hfresh hs ht
    rw [← name_of_assemble hs] at hlinks
    exact ⟨fresh, hfresh fresh hmem, hlinks⟩
  | extended _ hp ih =>
    rw [withProcedures_eq_ok hp] at ht ⊢
    exact ih ht

theorem IsBuilt.isLinked {s : Schema} (h : s.IsBuilt) : s.IsLinked := by
  induction h with
  | assembled ht hs => exact isLinked_of_assemble ht hs
  | declared hs =>
    obtain ⟨tables, ht, hs⟩ := exists_assemble_of_build hs
    exact isLinked_of_assemble ht hs
  | extended _ hp ih =>
    rw [withProcedures_eq_ok hp]
    exact ⟨ih.attached, ih.names, ih.entities, ih.stores, ih.linked⟩

namespace IsLinked

variable {s : Schema} {t : Table} {c : Column} {references : EntityType}

theorem exists_foreignTable (h : s.IsLinked) (ht : t ∈ s.tables) (hc : c ∈ t.columns)
    (href : c.references? = some references) :
    ∃ target, s.foreignTable c = .ok target ∧ target ∈ s.tables ∧
      (∀ u ∈ s.tables, u.entity = references ↔ u = target) ∧
      target.primary.valueType = c.valueType := by
  rw [Column.references?] at href
  split at href
  · next target? hrole =>
    cases href
    obtain ⟨position, target, rfl, hposition, hentity, htype⟩ := h.linked t ht c hc _ _ hrole
    have hmem := List.mem_of_getElem? hposition
    refine ⟨target, ?_, hmem, ?_, htype⟩
    · have htarget : c.target = .ok position := by rw [Column.target, hrole]
      have hneighbour : (s.neighbours[position]?).join = some target := by
        rw [neighbours, List.getElem?_map, hposition]
        rfl
      refine Check.bind_eq_ok.mpr ⟨position, htarget, ?_⟩
      rw [hneighbour]
      rfl
    · intro u hu
      constructor
      · intro hentity'
        exact List.inj_on_of_nodup_map h.entities hu hmem (hentity'.trans hentity.symm)
      · rintro rfl
        exact hentity
  · cases href

theorem exists_createTable (h : s.IsLinked) (ht : t ∈ s.tables) (dialect : Dialect) :
    ∃ q, Statement.createTable dialect s.neighbours t = .ok q := by
  have hkeys : ∀ c ∈ t.foreignColumns, ∃ text,
      Statement.foreignKey dialect s.neighbours c = .ok text := by
    intro c hc
    obtain ⟨hmem, hforeign⟩ := List.mem_filter.mp hc
    obtain ⟨references, href⟩ := Option.isSome_iff_exists.mp hforeign
    obtain ⟨target, htarget, _⟩ := h.exists_foreignTable ht hmem href
    exact ⟨_, Check.bind_eq_ok.mpr ⟨target, htarget, rfl⟩⟩
  obtain ⟨texts, htexts⟩ := Check.exists_mapM hkeys
  exact ⟨_, Check.bind_eq_ok.mpr ⟨texts, htexts, rfl⟩⟩

end IsLinked

/-- In every schema that comes about, each table carries the name of the schema and is found by its
entity type and by its name, and each of its foreign keys leads to the one table of the schema that
it references, with a key of the same type; all tables can be created. Assembling a schema of tables
that have just been built never fails but for something that the caller can mend. -/
theorem foreign_keys_lead_to_tables :
    (∀ s : Schema, s.IsBuilt → ∀ t ∈ s.tables, t.schema = some s.name ∧
      s.tableFor? t.entity = some t ∧ s.tableNamed? t.name = some t ∧
      (∀ c ∈ t.columns, c.isForeign → ∃ references target, c.references? = some references ∧
        s.foreignTable c = .ok target ∧ target ∈ s.tables ∧
        (∀ u ∈ s.tables, u.entity = references ↔ u = target) ∧
        target.primary.valueType = c.valueType) ∧
      ∀ dialect, ∃ q, Statement.createTable dialect s.neighbours t = .ok q) ∧
    ∀ (name : String) (tables : List Table) (serializers : List Serializer) (e : MappingError),
      (∀ t ∈ tables, t.IsFresh) → assemble name tables serializers = .error e →
        e.severity ≠ .internal := by
  refine ⟨?_, ?_⟩
  · intro s hs t ht
    have h := hs.isLinked
    refine ⟨h.attached t ht, find?_key_eq_some h.entities ht, find?_key_eq_some h.names ht, ?_,
      h.exists_createTable ht⟩
    intro c hc hforeign
    obtain ⟨references, href⟩ := Option.isSome_iff_exists.mp hforeign
    obtain ⟨target, htarget⟩ := h.exists_foreignTable ht hc href
    exact ⟨references, target, href, htarget⟩
  · intro name tables serializers e ht he
    rw [severity_of_assemble ht he]
    decide

/-- Players know a friend and a team, and a team knows its captain. -/
theorem foreign_keys_lead_to_tables_in_circle :
    let player : EntityType := ⟨0, "Player"⟩
    let team : EntityType := ⟨1, "Team"⟩
    let key : Property := ⟨"id", .int64, false, false, none, fun fields => fields.headD .null⟩
    let reference (name : String) (references : EntityType) : Property :=
      ⟨name, .int64, true, false, some references, fun _ => .null⟩
    let d : SchemaDeclaration := ⟨"league", [], [
      ⟨⟨player, [key, reference "friend" player, reference "team" team], none, none⟩, "id", none⟩,
      ⟨⟨team, [reference "captain" player, key], none, none⟩, "id", some "Club"⟩]⟩
    (∃ s, s.IsBuilt ∧ d.build (.ofDialect .postgres) = .ok s ∧
      (s.tables.map fun t => (t.name, t.foreignColumns.map Column.name)) =
        [("Player", ["friend", "team"]), ("Club", ["captain"])] ∧
      ∀ t ∈ s.tables, s.tableNamed? t.name = some t ∧
        ∀ dialect, ∃ q, Statement.createTable dialect s.neighbours t = .ok q) ∧
    ∃ e, assemble "" [] [] = .error e ∧ e.severity ≠ .internal := by
  intro player team key reference d
  have hshape : (d.build (.ofDialect .postgres)).toOption.map
      (fun s => s.tables.map fun t => (t.name, t.foreignColumns.map Column.name)) =
        some [("Player", ["friend", "team"]), ("Club", ["captain"])] := by decide +kernel
  refine ⟨?_, .invalidName .empty, rfl,
    foreign_keys_lead_to_tables.2 "" [] [] (.invalidName .empty) (by simp) rfl⟩
  cases hs : d.build (.ofDialect .postgres) with
  | error e =>
    rw [hs] at hshape
    cases hshape
  | ok s =>
    rw [hs] at hshape
    have hbuilt : s.IsBuilt := .declared hs
    refine ⟨s, hbuilt, rfl, Option.some.inj hshape, ?_⟩
    intro t ht
    obtain ⟨_, _, hnamed, _, hcreate⟩ := foreign_keys_lead_to_tables.1 s hbuilt t ht
    exact ⟨hnamed, hcreate⟩

end RecordTables.Schema
