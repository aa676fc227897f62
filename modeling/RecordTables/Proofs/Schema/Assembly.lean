import Mathlib.Data.List.Nodup
import RecordTables.Proofs.Table.Build
import RecordTables.Schema

/-!
# Assembling a schema

Linking changes nothing but the targets of foreign keys. A schema of tables that have just been
built therefore keeps their columns, and each of its foreign keys has the position of the table that
it references.
-/

namespace RecordTables.Schema

/-- A foreign key is linked to the first table of the entity type that it references. Any other
column stays as it is. -/
inductive LinksColumn (tables : List Table) : Column → Column → Prop
  | kept {c : Column} (h : c.references? = none) : LinksColumn tables c c
  | linked {c : Column} {references : EntityType} {target : Table} {position : Nat}
      (hrole : c.role = .foreign references none)
      (hfind : tables.zipIdx.find? (fun (t, _) => t.entity = references) = some (target, position))
      (htype : target.primary.valueType = c.valueType) :
      LinksColumn tables c { c with role := .foreign references (some position) }

/-- Every column of a table is linked, and nothing else changes. -/
structure LinksTable (tables : List Table) (t linked : Table) : Prop where
  entity_eq : linked.entity = t.entity
  name_eq : linked.name = t.name
  schema_eq : linked.schema = t.schema
  before : List.Forall₂ (LinksColumn tables) t.before linked.before
  primary : LinksColumn tables t.primary linked.primary
  after : List.Forall₂ (LinksColumn tables) t.after linked.after

private theorem linkColumn_eq_ok {schema : String} {tables : List Table} {t : Table}
    {c linked : Column} :
    linkColumn schema tables t c = .ok linked ↔ LinksColumn tables c linked := by
  constructor
  · intro h
    rw [linkColumn] at h
    split at h
    · next hnone =>
      cases h
      exact .kept hnone
    · next references hsome =>
      split at h
      · cases h
      · next target position hfind =>
        split at h
        · cases h
        · next htype =>
          rw [Column.link] at h
          split at h
          · next other hrole =>
            rw [Column.references?, hrole] at hsome
            cases hsome
            cases h
            exact .linked hrole hfind (Decidable.not_not.mp htype)
          · cases h
          · cases h
  · rintro (hnone | ⟨hrole, hfind, htype⟩)
    · rw [linkColumn, hnone]
    · next references target position =>
      have hsome : c.references? = some references := by rw [Column.references?, hrole]
      rw [linkColumn, hsome]
      simp only [hfind, htype, ne_eq, not_true_eq_false, if_false, Column.link, hrole]

private theorem linkTable_eq_ok {schema : String} {tables : List Table} {t linked : Table} :
    linkTable schema tables t = .ok linked ↔ LinksTable tables t linked := by
  constructor
  · intro h
    obtain ⟨before, hbefore, h⟩ := Check.bind_eq_ok.mp h
    obtain ⟨primary, hprimary, h⟩ := Check.bind_eq_ok.mp h
    obtain ⟨after, hafter, h⟩ := Check.bind_eq_ok.mp h
    obtain rfl := Except.ok.inj h
    exact ⟨rfl, rfl, rfl, (Check.mapM_eq_ok.mp hbefore).imp fun _ _ => linkColumn_eq_ok.mp,
      linkColumn_eq_ok.mp hprimary, (Check.mapM_eq_ok.mp hafter).imp fun _ _ => linkColumn_eq_ok.mp⟩
  · rintro ⟨hentity, hname, hschema, hbefore, hprimary, hafter⟩
    refine Check.bind_eq_ok.mpr ⟨linked.before, ?_, Check.bind_eq_ok.mpr ⟨linked.primary, ?_,
      Check.bind_eq_ok.mpr ⟨linked.after, ?_, ?_⟩⟩⟩
    · exact Check.mapM_eq_ok.mpr (hbefore.imp fun _ _ => linkColumn_eq_ok.mpr)
    · exact linkColumn_eq_ok.mpr hprimary
    · exact Check.mapM_eq_ok.mpr (hafter.imp fun _ _ => linkColumn_eq_ok.mpr)
    · rw [← hentity, ← hname, ← hschema]
      rfl

/-- The checks that a schema has passed, and the linking that has made it. -/
theorem exists_links_of_assemble {name : String} {tables : List Table}
    {serializers : List Serializer} {s : Schema} (h : assemble name tables serializers = .ok s) :
    checkName name = .ok () ∧ (tables.map fun t => t.name).Nodup ∧
      (tables.map fun t => t.entity.name).Nodup ∧ checkSerializers [] serializers = .ok () ∧
      ∃ attached, tables.mapM (fun t => t.attach name) = .ok attached ∧
        List.Forall₂ (LinksTable attached) attached s.tables ∧
        s.name = name ∧ s.serializers = serializers ∧ s.procedures = [] := by
  obtain ⟨_, hname, h⟩ := Check.bind_eq_ok.mp h
  obtain ⟨_, hnames, h⟩ := Check.bind_eq_ok.mp h
  obtain ⟨_, hentities, h⟩ := Check.bind_eq_ok.mp h
  obtain ⟨_, hserializers, h⟩ := Check.bind_eq_ok.mp h
  obtain ⟨attached, hattached, h⟩ := Check.bind_eq_ok.mp h
  obtain ⟨linked, hlinked, h⟩ := Check.bind_eq_ok.mp h
  obtain rfl := Except.ok.inj h
  refine ⟨hname, checkUnique_eq_ok.mp hnames, checkUnique_eq_ok.mp hentities, hserializers,
    attached, hattached, ?_, rfl, rfl, rfl⟩
  exact (Check.mapM_eq_ok.mp hlinked).imp fun _ _ => linkTable_eq_ok.mp

theorem name_of_assemble {name : String} {tables : List Table} {serializers : List Serializer}
    {s : Schema} (h : assemble name tables serializers = .ok s) : s.name = name := by
  obtain ⟨_, _, _, _, _, _, _, hname, _, _⟩ := exists_links_of_assemble h
  exact hname

theorem isFresh_of_built {mapper : Mapper} {scope : List Serializer}
    {declarations : List TableDeclaration} {tables : List Table}
    (h : List.Forall₂ (fun d t => Table.build mapper scope d.entity d.key d.name = .ok t)
      declarations tables) : ∀ t ∈ tables, t.IsFresh := by
  intro t ht
  obtain ⟨d, _, hbuild⟩ := Check.exists_left_of_mem h ht
  exact ⟨mapper, scope, d.entity, d.key, d.name, hbuild⟩

theorem mapM_attach {tables : List Table} (name : String) (h : ∀ t ∈ tables, t.schema = none) :
    tables.mapM (fun t => t.attach name) =
      .ok (tables.map fun t => { t with schema := some name }) := by
  apply Check.mapM_eq_map
  intro t ht
  rw [Table.attach, h t ht]

namespace LinksColumn

variable {tables : List Table} {c linked : Column}

theorem property_eq (h : LinksColumn tables c linked) : linked.property = c.property := by
  cases h <;> rfl

private theorem serializer_eq (h : LinksColumn tables c linked) :
    linked.serializer = c.serializer := by
  cases h <;> rfl

theorem role_ne_primary (h : LinksColumn tables c linked) (hc : c.role ≠ .primary) :
    linked.role ≠ .primary := by
  cases h with
  | kept _ => exact hc
  | linked _ _ _ =>
    intro hrole
    cases hrole

end LinksColumn

namespace LinksTable

variable {tables : List Table} {t linked : Table} {c : Column}

theorem columns (h : LinksTable tables t linked) :
    List.Forall₂ (LinksColumn tables) t.columns linked.columns := by
  rw [Table.columns, Table.columns]
  exact List.rel_append h.before (.cons h.primary h.after)

theorem exists_unlinked {fresh : Table} {schema : Option String}
    (h : LinksTable tables { fresh with schema } linked) (hc : c ∈ linked.columns) :
    ∃ unlinked ∈ fresh.columns, c.property = unlinked.property ∧
      c.serializer = unlinked.serializer := by
  obtain ⟨unlinked, hmem, hcolumn⟩ := Check.exists_left_of_mem h.columns hc
  exact ⟨unlinked, hmem, hcolumn.property_eq, hcolumn.serializer_eq⟩

theorem primary_eq (h : LinksTable tables t linked) (ht : t.primary.role = .primary) :
    linked.primary = t.primary := by
  have hprimary := h.primary
  generalize linked.primary = c at hprimary
  cases hprimary with
  | kept _ => rfl
  | linked hrole _ _ =>
    rw [ht] at hrole
    cases hrole

theorem stores (h : LinksTable tables t linked) {entity : Entity} (ht : t.Stores entity) :
    linked.Stores entity := by
  refine ⟨by rw [h.entity_eq, ht.entity_eq], ?_, ?_, ?_, ?_⟩
  · rw [Check.map_eq_map_of_related h.columns fun _ _ => LinksColumn.property_eq, ht.properties_eq]
  · rw [h.primary_eq ht.primary_role, ht.primary_role]
  · intro c hc
    obtain ⟨unlinked, hmem, hlinks⟩ := Check.exists_left_of_mem h.before hc
    exact hlinks.role_ne_primary (ht.before_role unlinked hmem)
  · intro c hc
    obtain ⟨unlinked, hmem, hlinks⟩ := Check.exists_left_of_mem h.after hc
    exact hlinks.role_ne_primary (ht.after_role unlinked hmem)

end LinksTable

theorem exists_fresh_of_assemble {name : String} {tables : List Table}
    {serializers : List Serializer} {s : Schema} (hfresh : ∀ t ∈ tables, t.IsFresh)
    (h : assemble name tables serializers = .ok s) {t : Table} (ht : t ∈ s.tables) :
    ∃ fresh ∈ tables, ∃ attached, LinksTable attached { fresh with schema := some name } t := by
  obtain ⟨_, _, _, _, attached, hattached, hlinks, _⟩ := exists_links_of_assemble h
  rw [mapM_attach name fun t hmem => (hfresh t hmem).schema] at hattached
  obtain ⟨unlinked, hunlinked, htable⟩ := Check.exists_left_of_mem hlinks ht
  rw [← Except.ok.inj hattached] at hunlinked
  obtain ⟨fresh, hmem, rfl⟩ := List.mem_map.mp hunlinked
  exact ⟨fresh, hmem, attached, htable⟩

/-- A schema as it has been assembled: its tables have distinct names and entity types, and every
foreign key has the position of the table that it references. -/
structure IsLinked (s : Schema) : Prop where
  attached : ∀ t ∈ s.tables, t.schema = some s.name
  names : (s.tables.map fun t => t.name).Nodup
  entities : (s.tables.map fun t => t.entity).Nodup
  stores : ∀ t ∈ s.tables, ∃ entity, t.Stores entity
  linked : ∀ t ∈ s.tables, ∀ c ∈ t.columns, ∀ references target?,
    c.role = .foreign references target? → ∃ position target, target? = some position ∧
      s.tables[position]? = some target ∧ target.entity = references ∧
      target.primary.valueType = c.valueType

theorem nodup_entities {tables : List Table} (h : (tables.map fun t => t.entity.name).Nodup) :
    (tables.map fun t => t.entity).Nodup := by
  apply List.Nodup.of_map EntityType.name
  rw [List.map_map]
  exact h

theorem find?_zipIdx_eq_some {tables : List Table} {references : EntityType}
    {target : Table} {position : Nat}
    (h : tables.zipIdx.find? (fun (t, _) => t.entity = references) = some (target, position)) :
    tables[position]? = some target ∧ target.entity = references :=
  ⟨List.mem_zipIdx_iff_getElem?.mp (List.mem_of_find?_eq_some h), by simpa using List.find?_some h⟩

theorem find?_zipIdx_eq_none {tables : List Table} {references : EntityType}
    (h : tables.zipIdx.find? (fun (t, _) => t.entity = references) = none) {t : Table}
    (ht : t ∈ tables) : t.entity ≠ references := by
  obtain ⟨position, hposition⟩ := List.mem_iff_getElem?.mp ht
  have hnone := List.find?_eq_none.mp h (t, position) (List.mem_zipIdx_iff_getElem?.mpr hposition)
  simpa using hnone

theorem isLinked_of_assemble {name : String} {tables : List Table} {serializers : List Serializer}
    {s : Schema} (ht : ∀ t ∈ tables, t.IsFresh) (h : assemble name tables serializers = .ok s) :
    s.IsLinked := by
  obtain ⟨_, hnames, hentities, _, attached, hattached, hlinks, hname, _, _⟩ :=
    exists_links_of_assemble h
  rw [mapM_attach name fun t hmem => (ht t hmem).schema] at hattached
  have hfresh : ∀ t ∈ attached, ∃ fresh ∈ tables, t = { fresh with schema := some name } := by
    intro t hmem
    rw [← Except.ok.inj hattached] at hmem
    obtain ⟨fresh, hfresh, rfl⟩ := List.mem_map.mp hmem
    exact ⟨fresh, hfresh, rfl⟩
  have hstores : ∀ t ∈ attached, ∃ entity, t.Stores entity := by
    intro t hmem
    obtain ⟨fresh, hfresh, rfl⟩ := hfresh t hmem
    obtain ⟨entity, hentity⟩ := (ht fresh hfresh).stores
    exact ⟨entity, ⟨hentity.1, hentity.2, hentity.3, hentity.4, hentity.5⟩⟩
  refine ⟨?_, ?_, ?_, ?_, ?_⟩
  · intro t hmem
    obtain ⟨unlinked, hunlinked, hlinks⟩ := Check.exists_left_of_mem hlinks hmem
    obtain ⟨fresh, _, rfl⟩ := hfresh unlinked hunlinked
    rw [hlinks.schema_eq, hname]
  · rw [Check.map_eq_map_of_related hlinks fun _ _ h => h.name_eq, ← Except.ok.inj hattached,
      List.map_map]
    exact hnames
  · rw [Check.map_eq_map_of_related hlinks fun _ _ h => h.entity_eq, ← Except.ok.inj hattached,
      List.map_map]
    exact nodup_entities hentities
  · intro t hmem
    obtain ⟨unlinked, hunlinked, hlinks⟩ := Check.exists_left_of_mem hlinks hmem
    obtain ⟨entity, hentity⟩ := hstores unlinked hunlinked
    exact ⟨entity, hlinks.stores hentity⟩
  · intro t hmem c hc references target? hrole
    obtain ⟨unlinked, hunlinked, htable⟩ := Check.exists_left_of_mem hlinks hmem
    obtain ⟨before, hbefore, hcolumn⟩ := Check.exists_left_of_mem htable.columns hc
    cases hcolumn with
    | kept hnone =>
      rw [Column.references?, hrole] at hnone
      cases hnone
    | @linked references target position _ hfind htype =>
      obtain ⟨rfl, rfl⟩ := ColumnRole.foreign.inj hrole
      obtain ⟨hposition, hentity⟩ := find?_zipIdx_eq_some hfind
      -- The position is that of a table before linking; linking leaves all tables in their places.
      obtain ⟨linked, hlinked, htarget⟩ := Check.exists_right_of_getElem? hlinks hposition
      obtain ⟨entity, hstores⟩ := hstores target (List.mem_of_getElem? hposition)
      refine ⟨position, linked, rfl, hlinked, ?_, ?_⟩
      · rw [htarget.entity_eq, hentity]
      · rw [htarget.primary_eq hstores.primary_role]
        exact htype

end RecordTables.Schema
