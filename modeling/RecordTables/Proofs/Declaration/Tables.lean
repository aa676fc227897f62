import RecordTables.Proofs.Declaration.Reading
import RecordTables.Proofs.Mapper.Resolution
import RecordTables.Proofs.Table.Rules

/-!
# Tables of declared records

Reading a declaration has checked the names of the columns and the key. Of all that can be wrong
with a table, only the name of the table and a repeated name of a column are left.
-/

namespace RecordTables

open FieldDeclaration RecordDeclaration

/-- What the column of the field at a position is. -/
structure StoresField (v : Vocabulary) (field : FieldDeclaration × Nat) (c : Column) : Prop where
  name_eq : c.name = field.1.columnName
  valueType_eq : c.valueType = v.valueType (TypeText.compact field.1.type)
  reads : ∀ fields, c.property.getter fields = fields.getD field.2 .null
  isPrimary : c.isPrimary ↔ field.1.isKey
  isUnique : c.isUnique ↔ c.isPrimary ∨ hasMark "unique" field.1.marks
  isNotNull : c.isNotNull ↔ c.isPrimary ∨ ¬v.isOptional (TypeText.compact field.1.type)
  isForeign : c.isForeign ↔ hasMark "foreign_key" field.1.marks
  references_eq : c.references? = field.1.reference?.map v.entityType

section Entities

variable {d : RecordDeclaration} {o : EntityOutline} {m : Mapper} (v : Vocabulary) (key : Nat)

def ownedProperty (d : RecordDeclaration) (v : Vocabulary) (key : Nat)
    (field : FieldDeclaration × Nat) : OwnedProperty :=
  ⟨EntityOutline.property v field.1.outline field.2, ⟨key, d.name⟩⟩

private theorem ownedProperties_of_outline (h : d.outline = .ok o) :
    (o.entity v key).ownedProperties = d.fields.zipIdx.map (ownedProperty d v key) := by
  obtain ⟨hname, _, hfields⟩ := outline_reads h
  rw [Entity.ownedProperties, EntityOutline.entity, hfields.outlines_eq, hname, List.zipIdx_map,
    List.map_map, List.map_map]
  rfl

private theorem names_of_outline (h : d.outline = .ok o) :
    (o.entity v key).ownedProperties.map (fun p => p.name) = d.fields.map columnName := by
  rw [ownedProperties_of_outline v key h, List.map_map]
  conv_rhs => rw [← List.zipIdx_map_fst 0 d.fields, List.map_map]
  rfl

/-- Of the fields just one is the key, and the table is built with the name of its column. -/
private theorem exists_key_of_outline (h : d.outline = .ok o) (hkey : ∃ f ∈ d.fields, f.isKey) :
    ∃ k ∈ d.fields, k.isKey ∧ (∀ f ∈ d.fields, f.isKey → f = k) ∧
      Table.ofEntity m (o.entity v key) =
        Table.build m [] (o.entity v key) k.columnName o.tableName := by
  obtain ⟨_, _, hfields⟩ := outline_reads h
  obtain ⟨k, hfilter, hk⟩ := hfields.exists_key hkey
  obtain ⟨hmem, hmark⟩ := List.mem_filter.mp (hfilter ▸ List.mem_singleton_self k)
  refine ⟨k, hmem, hmark, ?_, ?_⟩
  · intro f hf hf'
    have hsame : f ∈ [k] := hfilter ▸ List.mem_filter.mpr ⟨hf, hf'⟩
    exact List.mem_singleton.mp hsame
  · have hprimary : (o.entity v key).primaryKey = some k.columnName := hk
    rw [Table.ofEntity, hprimary]
    rfl

private theorem storedName_of_outline (h : d.outline = .ok o) :
    o.tableName.getD (o.entity v key).name = d.storedName := by
  obtain ⟨hname, htable, _⟩ := outline_reads h
  have hentity : (o.entity v key).name = d.name := hname
  rw [htable, hentity, storedName]

private theorem ofEntity_follows (h : d.outline = .ok o) (hkey : ∃ f ∈ d.fields, f.isKey)
    (hserializers : ∀ f ∈ d.fields, ∃ s,
      m.getSerializer ⟨key, d.name⟩ (v.valueType (TypeText.compact f.type)) = .ok s) :
    Rule.Follows (Table.ofEntity m (o.entity v key))
      (nameRules d.storedName ++ [uniqueRule d.storedName (d.fields.map columnName)]) := by
  obtain ⟨_, _, hfields⟩ := outline_reads h
  obtain ⟨k, hmem, hmark, _, hbuild⟩ := exists_key_of_outline v key h hkey
  have hproperties : ∀ p ∈ (o.entity v key).ownedProperties,
      Identifier.IsValid p.name ∧ ∃ s, m.resolveProperty p [] = .ok s := by
    intro p hp
    rw [ownedProperties_of_outline v key h] at hp
    obtain ⟨⟨f, position⟩, hf, rfl⟩ := List.mem_map.mp hp
    have hf : f ∈ d.fields := List.fst_mem_of_mem_zipIdx hf
    obtain ⟨s, hs⟩ := hserializers f hf
    exact ⟨hfields.valid f hf, s, Mapper.resolveProperty_nil_eq_ok.mpr hs⟩
  have hprimary : ∃ p ∈ (o.entity v key).ownedProperties,
      p.name = k.columnName ∧ p.references = none := by
    obtain ⟨position, hposition⟩ := List.mem_iff_getElem?.mp hmem
    refine ⟨ownedProperty d v key (k, position), ?_, rfl, ?_⟩
    · rw [ownedProperties_of_outline v key h]
      exact List.mem_map_of_mem (List.mem_zipIdx_iff_getElem?.mpr hposition)
    · have hnone := hfields.references k hmem hmark
      simp [ownedProperty, EntityOutline.property, FieldDeclaration.outline, hnone]
  have hfollows : Rule.Follows (Table.build m [] (o.entity v key) k.columnName o.tableName) _ :=
    Table.build_follows_of_properties hproperties hprimary
  rw [storedName_of_outline v key h, names_of_outline v key h] at hfollows
  rw [hbuild]
  exact hfollows

private theorem storesField_of_ofEntity (h : d.outline = .ok o) (hkey : ∃ f ∈ d.fields, f.isKey)
    {t : Table} (ht : Table.ofEntity m (o.entity v key) = .ok t) :
    List.Forall₂ (StoresField v) d.fields.zipIdx t.columns := by
  obtain ⟨_, _, hfields⟩ := outline_reads h
  obtain ⟨k, hmem, hmark, honly, hbuild⟩ := exists_key_of_outline v key h hkey
  rw [hbuild] at ht
  obtain ⟨_, _, _, _, _, _, _, hdistinct, _⟩ := Table.exists_split_of_build ht
  rw [names_of_outline v key h] at hdistinct
  -- The names are distinct, so a field that has the name of the key is the key.
  have hnamed : ∀ f ∈ d.fields, f.columnName = k.columnName ↔ f.isKey := by
    intro f hf
    constructor
    · intro hname
      rw [List.inj_on_of_nodup_map hdistinct hf hmem hname]
      exact hmark
    · intro hf'
      rw [honly f hf hf']
  have hcolumns := Table.columns_of_build ht
  rw [ownedProperties_of_outline v key h, List.forall₂_map_left_iff] at hcolumns
  have hpositions : ∀ field ∈ d.fields.zipIdx, field.1 ∈ d.fields :=
    fun field hfield => List.fst_mem_of_mem_zipIdx hfield
  apply ((List.forall₂_and_left _ _).mpr ⟨hpositions, hcolumns⟩).imp
  intro field c hstores
  obtain ⟨hfield, hstores⟩ := hstores
  have hproperty := hstores.property_eq
  have hreferences : c.references? = field.1.reference?.map v.entityType :=
    hstores.references_eq
  refine ⟨hstores.name_eq, ?_, ?_, ?_, hstores.isUnique, hstores.isNotNull, ?_, hreferences⟩
  · rw [Column.valueType, hproperty]
    rfl
  · rw [hproperty]
    intro fields
    rfl
  · exact hstores.isPrimary.trans (hnamed field.1 hfield)
  · rw [Column.isForeign, hreferences, Option.isSome_map, hfields.referring _ hfield]

end Entities

/-- A table can be built of a declared record with a key, all of whose types have serializers, if
and only if the name of the table is an identifier and no two columns have one name. Otherwise it is
the first of these two that is reported. The columns of the table are the fields in their order,
each as it is marked, and the field marked as the key is the primary key. -/
theorem tables_are_built_of_declared_records {d : RecordDeclaration} {o : EntityOutline}
    {m : Mapper} {v : Vocabulary} {key : Nat} (ho : d.outline = .ok o)
    (hkey : ∃ f ∈ d.fields, f.isKey)
    (hserializers : ∀ f ∈ d.fields, ∃ s,
      m.getSerializer ⟨key, d.name⟩ (v.valueType (TypeText.compact f.type)) = .ok s) :
    let built := Table.ofEntity m (o.entity v key)
    let names := d.fields.map columnName
    ((∃ t, built = .ok t) ↔ Identifier.IsValid d.storedName ∧ names.Nodup) ∧
    (∀ e, built = .error e ↔
      (∃ fault, Identifier.check d.storedName = .error fault ∧ e = .invalidName fault) ∨
      (Identifier.IsValid d.storedName ∧ ¬names.Nodup ∧
        e = .notUniqueName d.storedName (repeatedNames names))) ∧
    ∀ t, built = .ok t → t.name = d.storedName ∧
      List.Forall₂ (StoresField v) d.fields.zipIdx t.columns ∧
      t.columns.filter Column.isPrimary = [t.primary] := by
  intro built names
  have hfollows := ofEntity_follows v key ho hkey hserializers
  refine ⟨?_, ?_, ?_⟩
  · rw [hfollows.ok_iff, List.forall_mem_append, nameRules_hold_iff, List.forall_mem_singleton]
    rfl
  · intro e
    have hname : Rule.FirstBroken (nameRules d.storedName) e ↔
        ∃ fault, Identifier.check d.storedName = .error fault ∧ e = .invalidName fault := by
      rw [nameRules, Rule.firstBroken_map]
      simp only [(Identifier.check_follows d.storedName).error_iff]
    have hunique : Rule.FirstBroken [uniqueRule d.storedName names] e ↔
        ¬names.Nodup ∧ e = .notUniqueName d.storedName (repeatedNames names) := by
      simp [Rule.firstBroken_cons, Rule.not_firstBroken_nil, uniqueRule, Rule.of]
    rw [hfollows.error_iff, Rule.firstBroken_append, nameRules_hold_iff, hname, hunique]
  · intro t ht
    have hname : t.name = d.storedName := by
      obtain ⟨_, _, _, _, hbuild⟩ := exists_key_of_outline v key ho hkey
      obtain ⟨_, _, _, _, _, _, _, _, _, _, _, _, hname, _⟩ :=
        Table.exists_split_of_build (hbuild.symm.trans ht)
      rw [hname, storedName_of_outline v key ho]
    obtain ⟨_, hstores⟩ := (Table.isFresh_of_ofEntity ht).stores
    exact ⟨hname, storesField_of_ofEntity v key ho hkey ht, hstores.filter_isPrimary⟩

/-- The title of an album has a column of its own, unless it takes that of the key. -/
theorem tables_are_built_of_declared_records_of_album :
    let title (column : String) : FieldDeclaration :=
      ⟨"title", "String", [⟨"column", .settings [("name", column)]⟩, ⟨"unique", .nothing⟩]⟩
    let id : FieldDeclaration := ⟨"id", "Option<i64>", [⟨"primary_key", .nothing⟩]⟩
    let artist : FieldDeclaration := ⟨"artist", "i64", [⟨"foreign_key", .path "crate :: Artist"⟩]⟩
    let d (column : String) : RecordDeclaration :=
      ⟨"Album", .named, [⟨"table", .settings [("name", "records"), ("name", "albums")]⟩],
        [title column, id, artist]⟩
    let v : Vocabulary := ⟨fun type => if type = "String" then .text else .int64,
      fun type => type = "Option<i64>", fun path => ⟨0, path⟩⟩
    let m := Mapper.ofDialect .sqlite
    (∃ o t, (d "label").outline = .ok o ∧ Table.ofEntity m (o.entity v 1) = .ok t ∧
      t.name = "albums" ∧ List.Forall₂ (StoresField v)
        [(title "label", 0), (id, 1), (artist, 2)] t.columns) ∧
    ∃ o, (d "id").outline = .ok o ∧
      Table.ofEntity m (o.entity v 1) = .error (.notUniqueName "albums" ["id"]) := by
  intro title id artist d v m
  have hkey (column : String) : ∃ f ∈ (d column).fields, f.isKey := ⟨id, by simp [d], rfl⟩
  have htypes : ∀ type ∈ ["String", "Option<i64>", "i64"], ∃ s,
      m.getSerializer ⟨1, "Album"⟩ (v.valueType (TypeText.compact type)) = .ok s := by
    simp only [List.forall_mem_cons]
    exact ⟨Check.exists_of_isOk (by decide +kernel), Check.exists_of_isOk (by decide +kernel),
      Check.exists_of_isOk (by decide +kernel), by simp⟩
  have hserializers (column : String) : ∀ f ∈ (d column).fields, ∃ s,
      m.getSerializer ⟨1, "Album"⟩ (v.valueType (TypeText.compact f.type)) = .ok s :=
    fun _ hf => htypes _ (List.mem_map_of_mem hf)
  have hname : Identifier.IsValid "albums" :=
    NameFault.first?_eq_none_iff.mp (by decide +kernel)
  refine ⟨?_, ?_⟩
  · obtain ⟨o, ho⟩ : ∃ o, (d "label").outline = .ok o := Check.exists_of_isOk (by decide +kernel)
    obtain ⟨hok, _, hstored⟩ :=
      tables_are_built_of_declared_records ho (hkey "label") (hserializers "label")
    obtain ⟨t, ht⟩ := hok.mpr ⟨hname, by decide +kernel⟩
    obtain ⟨hstoredName, hcolumns, _⟩ := hstored t ht
    exact ⟨o, t, ho, ht, hstoredName, hcolumns⟩
  · obtain ⟨o, ho⟩ : ∃ o, (d "id").outline = .ok o := Check.exists_of_isOk (by decide +kernel)
    obtain ⟨_, herror, _⟩ :=
      tables_are_built_of_declared_records ho (hkey "id") (hserializers "id")
    exact ⟨o, ho, (herror _).mpr (.inr ⟨hname, by decide +kernel, rfl⟩)⟩

end RecordTables
