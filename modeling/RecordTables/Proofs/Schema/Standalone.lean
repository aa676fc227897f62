import RecordTables.Proofs.Schema.Rules

/-!
# Entities on their own and in a schema

An entity that references no other is stored in a schema as it is stored on its own. A missing key
is refused in both cases, in a schema because the empty name that stands for it can be no column.
-/

namespace RecordTables

namespace Table

variable {mapper : Mapper} {scope : List Serializer} {entity : Entity} {key : String}
  {name : Option String} {t : Table}

private theorem exists_error_of_empty_key (mapper : Mapper) (scope : List Serializer)
    (entity : Entity)
    (name : Option String) : ∃ e, build mapper scope entity "" name = .error e := by
  cases h : build mapper scope entity "" name with
  | error e => exact ⟨e, rfl⟩
  | ok t =>
    have hstorable := exists_build_iff.mp ⟨t, h⟩
    obtain ⟨p, hp, hempty, _⟩ := hstorable.key
    obtain ⟨hvalid, _⟩ := hstorable.properties p hp
    exact absurd hempty hvalid.nonempty

private theorem references_eq_none_of_build (h : build mapper scope entity key name = .ok t)
    (href : ∀ p ∈ entity.properties, p.references = none) {c : Column} (hc : c ∈ t.columns) :
    c.references? = none := by
  obtain ⟨owned, howned, hstores⟩ := Check.exists_left_of_mem (columns_of_build h) hc
  obtain ⟨p, hp, rfl⟩ := List.mem_map.mp howned
  rw [hstores.references_eq]
  exact href p hp

end Table

namespace Schema

variable {name : String} {tables : List Table} {serializers : List Serializer} {t linked : Table}

private theorem LinksColumn.eq_of_references {c linked : Column} (h : LinksColumn tables c linked)
    (href : c.references? = none) : linked = c := by
  cases h with
  | kept _ => rfl
  | linked hrole _ _ =>
    rw [Column.references?, hrole] at href
    cases href

private theorem LinksTable.eq_of_references (h : LinksTable tables t linked)
    (href : ∀ c ∈ t.columns, c.references? = none) : linked = t := by
  obtain ⟨hbefore, href⟩ := List.forall_mem_append.mp href
  obtain ⟨hprimary, hafter⟩ := List.forall_mem_cons.mp href
  cases linked
  cases t
  obtain ⟨rfl, rfl, rfl, hbefores, hkey, hafters⟩ := h
  congr 1
  · exact Check.eq_of_related hbefores fun c hc _ hlinks => hlinks.eq_of_references (hbefore c hc)
  · exact hkey.eq_of_references hprimary
  · exact Check.eq_of_related hafters fun c hc _ hlinks => hlinks.eq_of_references (hafter c hc)

private theorem assemble_eq_of_references (h : IsAssemblable name tables serializers)
    (ht : ∀ t ∈ tables, t.IsFresh) (href : ∀ t ∈ tables, ∀ c ∈ t.columns, c.references? = none) :
    assemble name tables serializers =
      .ok ⟨name, tables.map fun t => { t with schema := some name }, serializers, []⟩ := by
  obtain ⟨s, hs⟩ := (exists_assemble_iff ht).mpr h
  obtain ⟨_, _, _, _, attached, hattached, hlinks, hname, hserializers, hprocedures⟩ :=
    exists_links_of_assemble hs
  rw [mapM_attach name fun t hmem => (ht t hmem).schema] at hattached
  have hunlinked : ∀ t ∈ attached, ∀ c ∈ t.columns, c.references? = none := by
    rw [← Except.ok.inj hattached, List.forall_mem_map]
    exact href
  have htables : s.tables = attached :=
    Check.eq_of_related hlinks fun t ht _ hlinks => hlinks.eq_of_references (hunlinked t ht)
  calc assemble name tables serializers
      = .ok ⟨s.name, s.tables, s.serializers, s.procedures⟩ := hs
    _ = _ := by rw [hname, htables, hserializers, hprocedures, ← Except.ok.inj hattached]

private theorem isAssemblable_singleton (hname : Identifier.IsValid name)
    (href : ∀ c ∈ t.columns, c.references? = none) : IsAssemblable name [t] [] := by
  refine ⟨hname, List.nodup_singleton _, List.nodup_singleton _, List.nodup_nil, ?_⟩
  intro u hu c hc references hreferences
  obtain rfl := List.mem_singleton.mp hu
  rw [href c hc] at hreferences
  cases hreferences

/-- A schema of one declared table stores what the table would store on its own, and is refused for
the same reason. -/
private theorem build_singleton_eq {mapper : Mapper} {declaration : TableDeclaration}
    (hname : Identifier.IsValid name)
    (href : ∀ p ∈ declaration.entity.properties, p.references = none) :
    SchemaDeclaration.build ⟨name, [], [declaration]⟩ mapper =
      (Table.build mapper [] declaration.entity declaration.key declaration.name).map
        fun t => ⟨name, [{ t with schema := some name }], [], []⟩ := by
  rw [SchemaDeclaration.build, List.mapM_cons]
  cases h : Table.build mapper [] declaration.entity declaration.key declaration.name with
  | error e => rfl
  | ok t =>
    have hunlinked : ∀ c ∈ t.columns, c.references? = none :=
      fun _ hc => Table.references_eq_none_of_build h href hc
    have hfresh : t.IsFresh := ⟨mapper, [], _, _, _, h⟩
    exact assemble_eq_of_references (isAssemblable_singleton hname hunlinked)
      (List.forall_mem_singleton.mpr hfresh) (List.forall_mem_singleton.mpr hunlinked)

/-- An entity that references no other can be stored on its own if and only if it can be stored as
the only one of a schema. The table of the schema then has the name, the columns in their order and
the primary key of the one on its own. An entity without a key is refused in both cases, and where
there is a key the errors are the same. -/
theorem entities_are_stored_alone_as_in_schemas (mapper : Mapper) (entity : Entity) (name : String)
    (hname : Identifier.IsValid name) (href : ∀ p ∈ entity.properties, p.references = none) :
    let d : SchemaDeclaration := ⟨name, [], [.ofEntity entity]⟩
    ((∃ t, Table.ofEntity mapper entity = .ok t) ↔ ∃ s, d.build mapper = .ok s) ∧
    (∀ t s, Table.ofEntity mapper entity = .ok t → d.build mapper = .ok s →
      ∃ u, s.tables = [u] ∧ u.schema = some name ∧ u.entity = t.entity ∧ u.name = t.name ∧
        u.columns = t.columns ∧ u.primary = t.primary) ∧
    (entity.primaryKey = none →
      (∃ e, Table.ofEntity mapper entity = .error e) ∧ ∃ e, d.build mapper = .error e) ∧
    (entity.primaryKey ≠ none →
      ∀ e, Table.ofEntity mapper entity = .error e ↔ d.build mapper = .error e) := by
  intro d
  have hbuild : d.build mapper =
      (Table.build mapper [] entity (entity.primaryKey.getD "") entity.tableName).map
        fun t => ⟨name, [{ t with schema := some name }], [], []⟩ := build_singleton_eq hname href
  rw [hbuild, Table.ofEntity]
  cases hkey : entity.primaryKey with
  | none =>
    -- The schema looks for a property with an empty name in place of the key.
    obtain ⟨e, he⟩ := Table.exists_error_of_empty_key mapper [] entity entity.tableName
    rw [Option.getD_none, he]
    simp [Except.map]
  | some key =>
    rw [Option.getD_some]
    dsimp only
    cases Table.build mapper [] entity key entity.tableName with
    | error e => simp [Except.map]
    | ok t =>
      refine ⟨⟨fun _ => ⟨_, rfl⟩, fun _ => ⟨_, rfl⟩⟩, ?_, by simp, by simp [Except.map]⟩
      rintro _ _ ⟨⟩ ⟨⟩
      exact ⟨_, rfl, rfl, rfl, rfl, rfl, rfl⟩

/-- An artist has a key. Without one it is refused, also where the empty name that stands for the
key is that of a property. -/
theorem entities_are_stored_alone_as_in_schemas_of_artist :
    let artist : EntityType := ⟨0, "Artist"⟩
    let property (name : String) (type : ValueType) : Property :=
      ⟨name, type, false, false, none, fun fields => fields.headD .null⟩
    let keyed : Entity :=
      ⟨artist, [property "name" .text, property "id" .int64], some "id", some "artists"⟩
    let keyless : Entity := ⟨artist, [property "" .int64], none, none⟩
    let mapper := Mapper.ofDialect .postgres
    let d (entity : Entity) : SchemaDeclaration := ⟨"music", [], [.ofEntity entity]⟩
    Identifier.IsValid "music" ∧
    (∃ t s u, Table.ofEntity mapper keyed = .ok t ∧ (d keyed).build mapper = .ok s ∧
      s.tables = [u] ∧ u.name = "artists" ∧ u.primary = t.primary ∧ u.columns = t.columns ∧
      u.columns.map Column.display = ["name: VARCHAR", "id: BIGINT PK"]) ∧
    (∃ e, Table.ofEntity mapper keyless = .error e) ∧
    ∃ e, (d keyless).build mapper = .error e ∧
      e.message = "Invalid name: Name cannot be empty" := by
  intro artist property keyed keyless mapper d
  have hname : Identifier.IsValid "music" :=
    nameRules_hold_iff.mp ((checkName_follows "music").ok_iff.mp ⟨(), rfl⟩)
  obtain ⟨hstored, hsame, _⟩ := entities_are_stored_alone_as_in_schemas mapper keyed "music" hname
    (by simp [keyed, property])
  obtain ⟨_, _, hrefused, _⟩ := entities_are_stored_alone_as_in_schemas mapper keyless "music" hname
    (by simp [keyless, property])
  refine ⟨hname, ?_, (hrefused rfl).1, Check.exists_of_error? (by decide +kernel)⟩
  obtain ⟨t, ht, hshape⟩ : ∃ t, Table.ofEntity mapper keyed = .ok t ∧
      (t.name, t.columns.map Column.display) = ("artists", ["name: VARCHAR", "id: BIGINT PK"]) :=
    Check.exists_of_toOption (by decide +kernel)
  obtain ⟨htable, hcolumns⟩ := Prod.mk.inj hshape
  obtain ⟨s, hs⟩ := hstored.mp ⟨t, ht⟩
  obtain ⟨u, hu, _, _, hutable, hucolumns, hprimary⟩ := hsame t s ht hs
  exact ⟨t, s, u, ht, hs, hu, hutable.trans htable, hprimary, hucolumns, hucolumns ▸ hcolumns⟩

end Schema

end RecordTables
