import RecordTables.Proofs.Identifier.Rules
import RecordTables.Proofs.Table.Build

/-!
# The rules of tables

A table can be built if its entity keeps the rules below, and otherwise the first rule that it
breaks is reported. The table then has one column for each property, and the roles of the columns
are those that the properties and the key give them.
-/

namespace RecordTables

open Rule

def nameRules (name : String) : List (Rule MappingError) :=
  (Identifier.rules name).map (Rule.map .invalidName)

def uniqueRule (scope : String) (names : List String) : Rule MappingError :=
  .of names.Nodup (.notUniqueName scope (repeatedNames names))

theorem checkName_follows (name : String) : Follows (checkName name) (nameRules name) :=
  (Identifier.check_follows name).mapError

theorem nameRules_hold_iff {name : String} :
    (∀ rule ∈ nameRules name, rule.holds) ↔ Identifier.IsValid name := by
  rw [nameRules, List.forall_mem_map, Identifier.isValid_iff]
  rfl

theorem checkUnique_follows (scope : String) (names : List String) :
    Follows (checkUnique scope names) [uniqueRule scope names] := by
  cases h : checkUnique scope names with
  | ok _ => exact .held (checkUnique_eq_ok.mp h) (.nil _)
  | error e =>
    have hunique : checkUnique scope names = .ok () ↔ names.Nodup := checkUnique_eq_ok
    rw [h] at hunique
    rw [checkUnique_eq_error h]
    exact .broken (by simpa using hunique)

namespace Table

def propertyRules (mapper : Mapper) (scope : List Serializer) (p : OwnedProperty) :
    List (Rule MappingError) :=
  nameRules p.name ++ [.of (∃ s, mapper.resolveProperty p scope = .ok s)
    (.serializerNotFound p.owner.name p.name p.valueType)]

/-- The rules of the key: there is a property of its name, and it references nothing. -/
def keyRules (table : String) (entity : Entity) (key : String) : List (Rule MappingError) :=
  keyed entity.ownedProperties (fun p => p.name) key (.missingPrimaryKey entity.name key) fun p =>
    ⟨p.references = none, fun e => ∃ references, p.references = some references ∧
      e = .referencingPrimaryKey table key references.name⟩

def buildRules (mapper : Mapper) (scope : List Serializer) (entity : Entity) (key : String)
    (name : Option String) : List (Rule MappingError) :=
  let table := name.getD entity.name
  .of (entity.ownedProperties ≠ []) (.emptyEntity entity.name) :: (nameRules table ++
    uniqueRule table (entity.ownedProperties.map fun p => p.name) :: (keyRules table entity key ++
      entity.ownedProperties.flatMap (propertyRules mapper scope)))

section Following

variable {mapper : Mapper} {scope : List Serializer}

private theorem resolveProperty_follows (p : OwnedProperty) :
    Follows (mapper.resolveProperty p scope) [.of (∃ s, mapper.resolveProperty p scope = .ok s)
      (.serializerNotFound p.owner.name p.name p.valueType)] := by
  cases h : mapper.resolveProperty p scope with
  | ok s => exact .held ⟨s, rfl⟩ (.nil s)
  | error e =>
    have he : e = .serializerNotFound p.owner.name p.name p.valueType := by
      rw [Mapper.resolveProperty] at h
      split at h
      · cases h
      · exact (Except.error.inj h).symm
    rw [he]
    exact .broken (by simp)

private theorem resolveColumn_follows (column : OwnedProperty → Serializer → Column)
    (p : OwnedProperty) :
    Follows (resolveColumn mapper scope column p) (propertyRules mapper scope p) := by
  apply (checkName_follows p.name).bind
  rintro _ -
  exact (resolveProperty_follows p).bind_ok

private theorem build_follows (mapper : Mapper) (scope : List Serializer) (entity : Entity)
    (key : String)
    (name : Option String) :
    Follows (build mapper scope entity key name) (buildRules mapper scope entity key name) := by
  rw [build, buildRules]
  split
  · next hempty =>
    apply Follows.broken
    simpa using hempty
  · next hempty =>
    apply Follows.held (by simpa [Rule.of] using hempty)
    apply (checkName_follows _).bind
    rintro _ -
    apply (checkUnique_follows _ _).bind
    intro _ hunique
    have hnodup := checkUnique_eq_ok.mp hunique
    split
    · next before hspan => exact .missing fun p hp => ne_of_span hspan hp
    · next before primary after hspan =>
      obtain ⟨hsplit, hkey⟩ := eq_append_of_span hspan
      have hmem : primary ∈ entity.ownedProperties := by
        rw [hsplit]
        exact List.mem_append_right _ List.mem_cons_self
      -- The names are distinct, so this property alone can be the key.
      apply Follows.found hnodup hmem hkey
      split
      · next references href =>
        apply Follows.reported
        · intro hnone
          rw [hnone] at href
          cases href
        · intro e
          constructor
          · rintro ⟨other, hother, rfl⟩
            rw [href] at hother
            rw [Option.some.inj hother]
          · rintro rfl
            exact ⟨references, href, rfl⟩
      · next href =>
        apply Follows.held href
        rw [hsplit]
        exact .mapM_around (fun p _ => resolveColumn_follows .ofProperty p)
          (resolveColumn_follows .ofKey primary) fun p _ => resolveColumn_follows .ofProperty p

end Following

/-- What an entity needs for a table of the given name. -/
structure IsStorable (mapper : Mapper) (scope : List Serializer) (entity : Entity) (key : String)
    (name : String) : Prop where
  nonempty : entity.ownedProperties ≠ []
  name : Identifier.IsValid name
  distinct : (entity.ownedProperties.map fun p => p.name).Nodup
  key : ∃ p ∈ entity.ownedProperties, p.name = key ∧ p.references = none
  properties : ∀ p ∈ entity.ownedProperties,
    Identifier.IsValid p.name ∧ ∃ s, mapper.resolveProperty p scope = .ok s

/-- What the column of a property is, given the name of the key. -/
structure StoresProperty (mapper : Mapper) (scope : List Serializer) (key : String)
    (p : OwnedProperty) (c : Column) : Prop where
  property_eq : c.property = p
  name_eq : c.name = p.name
  serializer : mapper.resolveProperty p scope = .ok c.serializer
  isPrimary : c.isPrimary ↔ p.name = key
  references_eq : c.references? = p.references
  isForeign : c.isForeign ↔ p.references.isSome
  isNotNull : c.isNotNull ↔ c.isPrimary ∨ ¬p.nullable
  isUnique : c.isUnique ↔ c.isPrimary ∨ p.unique

section Storing

variable {mapper : Mapper} {scope : List Serializer} {entity : Entity} {key : String}

private theorem propertyRules_hold_iff {p : OwnedProperty} :
    (∀ rule ∈ propertyRules mapper scope p, rule.holds) ↔
      Identifier.IsValid p.name ∧ ∃ s, mapper.resolveProperty p scope = .ok s := by
  rw [propertyRules, List.forall_mem_append, nameRules_hold_iff, List.forall_mem_singleton]
  rfl

private theorem isStorable_iff {name : Option String} :
    IsStorable mapper scope entity key (name.getD entity.name) ↔
      ∀ rule ∈ buildRules mapper scope entity key name, rule.holds := by
  rw [buildRules, List.forall_mem_cons, List.forall_mem_append, List.forall_mem_cons,
    List.forall_mem_append, nameRules_hold_iff, List.forall_mem_flatMap]
  simp only [propertyRules_hold_iff]
  constructor
  · rintro ⟨hnonempty, hname, hdistinct, hkey, hproperties⟩
    exact ⟨hnonempty, hname, hdistinct, (keyed_hold_iff hdistinct).mpr hkey, hproperties⟩
  · rintro ⟨hnonempty, hname, hdistinct, hkey, hproperties⟩
    exact ⟨hnonempty, hname, hdistinct, (keyed_hold_iff hdistinct).mp hkey, hproperties⟩

theorem exists_build_iff {name : Option String} :
    (∃ t, build mapper scope entity key name = .ok t) ↔
      IsStorable mapper scope entity key (name.getD entity.name) :=
  (build_follows mapper scope entity key name).ok_iff.trans isStorable_iff.symm

/-- Where every property can be stored and the key is one of them, nothing but the name of the table
and repeated names can be wrong. -/
theorem build_follows_of_properties {name : Option String}
    (hproperties : ∀ p ∈ entity.ownedProperties,
      Identifier.IsValid p.name ∧ ∃ s, mapper.resolveProperty p scope = .ok s)
    (hkey : ∃ p ∈ entity.ownedProperties, p.name = key ∧ p.references = none) :
    Follows (build mapper scope entity key name) (nameRules (name.getD entity.name) ++
      [uniqueRule (name.getD entity.name) (entity.ownedProperties.map fun p => p.name)]) := by
  have hnonempty : entity.ownedProperties ≠ [] := by
    obtain ⟨p, hp, _⟩ := hkey
    exact List.ne_nil_of_mem hp
  have hfollows := (build_follows mapper scope entity key name).of_held hnonempty
  rw [List.append_cons] at hfollows
  apply hfollows.of_append
  intro hall
  have hdistinct := (List.forall_mem_append.mp hall).2 _ List.mem_cons_self
  rw [List.forall_mem_append, List.forall_mem_flatMap]
  refine ⟨(keyed_hold_iff hdistinct).mpr hkey, ?_⟩
  intro p hp
  exact propertyRules_hold_iff.mpr (hproperties p hp)

private theorem storesProperty_of_parts {p : OwnedProperty} {c : Column}
    (hproperty : c.property = p)
    (hs : mapper.resolveProperty p scope = .ok c.serializer) (hprimary : c.isPrimary ↔ p.name = key)
    (href : c.references? = p.references) : StoresProperty mapper scope key p c := by
  refine ⟨hproperty, ?_, hs, hprimary, href, ?_, ?_, ?_⟩
  · rw [Column.name, hproperty]
  · rw [Column.isForeign, href]
  · simp [Column.isNotNull, hproperty]
  · simp [Column.isUnique, hproperty]

private theorem storesProperty_ofProperty {p : OwnedProperty} {s : Serializer} (hkey : p.name ≠ key)
    (hs : mapper.resolveProperty p scope = .ok s) :
    StoresProperty mapper scope key p (.ofProperty p s) := by
  rw [Column.ofProperty]
  split
  · next href =>
    refine storesProperty_of_parts rfl hs ?_ ?_
    · simp [Column.isPrimary, hkey]
    · rw [href, Column.references?]
  · next references href =>
    refine storesProperty_of_parts rfl hs ?_ ?_
    · simp [Column.isPrimary, hkey]
    · rw [href, Column.references?]

private theorem storesProperty_ofKey {p : OwnedProperty} {s : Serializer} (hkey : p.name = key)
    (href : p.references = none) (hs : mapper.resolveProperty p scope = .ok s) :
    StoresProperty mapper scope key p (.ofKey p s) := by
  refine storesProperty_of_parts rfl hs ?_ ?_
  · simp [Column.isPrimary, Column.ofKey, hkey]
  · rw [href, Column.references?, Column.ofKey]

private theorem storesProperty_of_mapM {ps : List OwnedProperty} {cs : List Column}
    (hkey : ∀ p ∈ ps, p.name ≠ key)
    (h : ps.mapM (resolveColumn mapper scope .ofProperty) = .ok cs) :
    List.Forall₂ (StoresProperty mapper scope key) ps cs := by
  have hresolved := (List.forall₂_and_left ps cs).mpr ⟨hkey, Check.mapM_eq_ok.mp h⟩
  apply hresolved.imp
  rintro p c ⟨hp, hc⟩
  obtain ⟨_, s, hs, rfl⟩ := resolveColumn_eq_ok.mp hc
  exact storesProperty_ofProperty hp hs

theorem columns_of_build {name : Option String} {t : Table}
    (h : build mapper scope entity key name = .ok t) :
    List.Forall₂ (StoresProperty mapper scope key) entity.ownedProperties t.columns := by
  obtain ⟨before, primary, after, hsplit, hkey, href, _, hnodup, hbefore, hprimary, hafter, _⟩ :=
    exists_split_of_build h
  -- The names are distinct, so the key has its name for itself.
  have hothers : ∀ p ∈ before ++ after, p.name ≠ key := by
    rw [hsplit, List.map_append, List.map_cons, List.nodup_middle, ← List.map_append,
      List.nodup_cons] at hnodup
    intro p hp hname
    exact hnodup.1 (List.mem_map.mpr ⟨p, hp, hname.trans hkey.symm⟩)
  obtain ⟨hbefores, hafters⟩ := List.forall_mem_append.mp hothers
  obtain ⟨_, s, hs, hc⟩ := resolveColumn_eq_ok.mp hprimary
  rw [hsplit, columns]
  apply List.rel_append (storesProperty_of_mapM hbefores hbefore)
  rw [hc]
  exact .cons (storesProperty_ofKey hkey href hs) (storesProperty_of_mapM hafters hafter)

end Storing

theorem Stores.filter_isPrimary {t : Table} {entity : Entity} (h : t.Stores entity) :
    t.columns.filter Column.isPrimary = [t.primary] := by
  have hbefore : t.before.filter Column.isPrimary = [] := by
    rw [List.filter_eq_nil_iff]
    intro c hc
    simp [Column.isPrimary, h.before_role c hc]
  have hafter : t.after.filter Column.isPrimary = [] := by
    rw [List.filter_eq_nil_iff]
    intro c hc
    simp [Column.isPrimary, h.after_role c hc]
  have hprimary : t.primary.isPrimary := by simp [Column.isPrimary, h.primary_role]
  rw [columns, List.filter_append, List.filter_cons_of_pos hprimary, hbefore, hafter]
  rfl

/-- The table of an entity can be built if and only if the entity can be stored under its name.
Otherwise the error reports the first rule that is broken. The table then has one column for each
property in their order: exactly one of them is the primary key, that of the given name, and the
property and the key decide whether a column is a foreign key, not null and unique. -/
theorem tables_are_built_by_rules (mapper : Mapper) (scope : List Serializer) (entity : Entity)
    (key : String) (name : Option String) :
    ((∃ t, build mapper scope entity key name = .ok t) ↔
      IsStorable mapper scope entity key (name.getD entity.name)) ∧
    (∀ e, build mapper scope entity key name = .error e ↔
      FirstBroken (buildRules mapper scope entity key name) e) ∧
    ∀ t, build mapper scope entity key name = .ok t →
      t.entity = entity.type ∧ t.name = name.getD entity.name ∧ t.schema = none ∧
      List.Forall₂ (StoresProperty mapper scope key) entity.ownedProperties t.columns ∧
      t.columns.filter Column.isPrimary = [t.primary] ∧ t.primary.name = key := by
  have hfollows := build_follows mapper scope entity key name
  refine ⟨hfollows.ok_iff.trans isStorable_iff.symm, hfollows.error_iff, ?_⟩
  intro t h
  obtain ⟨_, primary, _, _, hkey, _, _, _, _, hprimary, _, hentity, hname, hschema⟩ :=
    exists_split_of_build h
  obtain ⟨_, s, _, hc⟩ := resolveColumn_eq_ok.mp hprimary
  have hfresh : t.IsFresh := ⟨mapper, scope, entity, key, name, h⟩
  obtain ⟨_, hstores⟩ := hfresh.stores
  refine ⟨hentity, hname, hschema, columns_of_build h, hstores.filter_isPrimary, ?_⟩
  rw [hc]
  exact hkey

/-- An artist is signed to a label. The reference to the label cannot be the key. -/
theorem tables_are_built_by_rules_of_artist :
    let artist : EntityType := ⟨0, "Artist"⟩
    let label : EntityType := ⟨1, "Label"⟩
    let entity : Entity := ⟨artist, [
      ⟨"name", .text, false, true, none, fun fields => fields.headD .null⟩,
      ⟨"id", .int64, true, false, none, fun _ => .null⟩,
      ⟨"label_id", .int64, true, false, some label, fun _ => .null⟩], none, none⟩
    let mapper := Mapper.ofDialect .sqlite
    (∃ t, build mapper [] entity "id" (some "artists") = .ok t ∧ t.name = "artists" ∧
      (t.columns.map fun c => (c.name, c.isForeign, c.isNotNull, c.isUnique)) =
        [("name", false, true, true), ("id", false, true, true), ("label_id", true, false, false)] ∧
      t.columns.filter Column.isPrimary = [t.primary] ∧ t.primary.name = "id") ∧
    ∃ e, build mapper [] entity "label_id" none = .error e ∧
      e.message = "Primary key 'Artist.label_id' cannot also reference 'Label'" ∧
      FirstBroken (buildRules mapper [] entity "label_id" none) e := by
  intro artist label entity mapper
  have hshape : (build mapper [] entity "id" (some "artists")).toOption.map
      (fun t => t.columns.map fun c => (c.name, c.isForeign, c.isNotNull, c.isUnique)) =
        some [("name", false, true, true), ("id", false, true, true),
          ("label_id", true, false, false)] := by decide +kernel
  obtain ⟨e, herror, hmessage⟩ : ∃ e, build mapper [] entity "label_id" none = .error e ∧
      e.message = "Primary key 'Artist.label_id' cannot also reference 'Label'" :=
    Check.exists_of_error? (by decide +kernel)
  refine ⟨?_, e, herror, hmessage, ((tables_are_built_by_rules _ _ _ _ _).2.1 _).mp herror⟩
  cases ht : build mapper [] entity "id" (some "artists") with
  | error e =>
    rw [ht] at hshape
    cases hshape
  | ok t =>
    rw [ht] at hshape
    obtain ⟨_, hname, _, _, hprimary, hkey⟩ := (tables_are_built_by_rules _ _ _ _ _).2.2 t ht
    exact ⟨t, rfl, hname, Option.some.inj hshape, hprimary, hkey⟩

end Table

end RecordTables
