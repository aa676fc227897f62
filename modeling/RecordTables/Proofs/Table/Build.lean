import Mathlib.Data.List.TakeDrop
import Mathlib.Data.List.TakeWhile
import RecordTables.Proofs.Check
import RecordTables.Proofs.Table.Repeats

/-!
# Tables as they are built

A table stores the properties of its entity one for one in their order, the primary key among them.
Where it has just been built it belongs to no schema, and none of its foreign keys is linked.
-/

namespace RecordTables

theorem checkUnique_eq_ok {scope : String} {names : List String} :
    checkUnique scope names = .ok () ↔ names.Nodup := by
  rw [← repeatedNames_eq_nil_iff, checkUnique]
  split
  · next h => simp [h]
  · next h => simpa using h

theorem checkUnique_eq_error {scope : String} {names : List String} {e : MappingError}
    (h : checkUnique scope names = .error e) : e = .notUniqueName scope (repeatedNames names) := by
  rw [checkUnique] at h
  split at h
  · cases h
  · exact (Except.error.inj h).symm

theorem Column.isPrimary_of_isAutoIncrement {c : Column} (h : c.isAutoIncrement) : c.isPrimary := by
  simp only [isAutoIncrement, Bool.and_eq_true] at h
  exact h.1.1

namespace Table

theorem resolveColumn_eq_ok {mapper : Mapper} {scope : List Serializer}
    {column : OwnedProperty → Serializer → Column} {p : OwnedProperty} {c : Column} :
    resolveColumn mapper scope column p = .ok c ↔
      checkName p.name = .ok () ∧ ∃ s, mapper.resolveProperty p scope = .ok s ∧ c = column p s := by
  constructor
  · intro h
    obtain ⟨_, hname, h⟩ := Check.bind_eq_ok.mp h
    obtain ⟨s, hs, h⟩ := Check.bind_eq_ok.mp h
    exact ⟨hname, s, hs, (Except.ok.inj h).symm⟩
  · rintro ⟨hname, s, hs, rfl⟩
    exact Check.bind_eq_ok.mpr ⟨(), hname, Check.bind_eq_ok.mpr ⟨s, hs, rfl⟩⟩

theorem eq_append_of_span {properties before after : List OwnedProperty} {primary : OwnedProperty}
    {key : String} (h : properties.span (fun p => p.name ≠ key) = (before, primary :: after)) :
    properties = before ++ primary :: after ∧ primary.name = key := by
  rw [List.span_eq_takeWhile_dropWhile] at h
  obtain ⟨htake, hdrop⟩ := Prod.mk.inj h
  refine ⟨?_, ?_⟩
  · rw [← htake, ← hdrop, List.takeWhile_append_dropWhile]
  · -- Of the properties that are left, the first is the one that ended the span.
    have hhead := List.head?_dropWhile_not (fun p : OwnedProperty => decide (p.name ≠ key))
      properties
    rw [hdrop] at hhead
    simpa using hhead

theorem ne_of_span {properties before : List OwnedProperty} {key : String}
    (h : properties.span (fun p => p.name ≠ key) = (before, [])) {p : OwnedProperty}
    (hp : p ∈ properties) : p.name ≠ key := by
  rw [List.span_eq_takeWhile_dropWhile] at h
  have hnone := List.dropWhile_eq_nil_iff.mp (Prod.mk.inj h).2 p hp
  simpa using hnone

/-- What a successful build has checked, and the columns it has made around the key. -/
theorem exists_split_of_build {mapper : Mapper} {scope : List Serializer} {entity : Entity}
    {key : String} {name : Option String} {t : Table}
    (h : build mapper scope entity key name = .ok t) :
    ∃ before primary after, entity.ownedProperties = before ++ primary :: after ∧
      primary.name = key ∧ primary.references = none ∧
      checkName (name.getD entity.name) = .ok () ∧
      (entity.ownedProperties.map fun p => p.name).Nodup ∧
      before.mapM (resolveColumn mapper scope .ofProperty) = .ok t.before ∧
      resolveColumn mapper scope .ofKey primary = .ok t.primary ∧
      after.mapM (resolveColumn mapper scope .ofProperty) = .ok t.after ∧
      t.entity = entity.type ∧ t.name = name.getD entity.name ∧ t.schema = none := by
  rw [build] at h
  split at h
  · cases h
  · obtain ⟨_, hname, h⟩ := Check.bind_eq_ok.mp h
    obtain ⟨_, hunique, h⟩ := Check.bind_eq_ok.mp h
    split at h
    · cases h
    · next before primary after hspan =>
      split at h
      · cases h
      · next href =>
        obtain ⟨cs, hcs, h⟩ := Check.bind_eq_ok.mp h
        obtain ⟨c, hc, h⟩ := Check.bind_eq_ok.mp h
        obtain ⟨ds, hds, h⟩ := Check.bind_eq_ok.mp h
        obtain ⟨hsplit, hkey⟩ := eq_append_of_span hspan
        obtain rfl := Except.ok.inj h
        exact ⟨before, primary, after, hsplit, hkey, href, hname, checkUnique_eq_ok.mp hunique, hcs,
          hc, hds, rfl, rfl, rfl⟩

/-- The table stores the properties of an entity in their order, one of them as its key. -/
structure Stores (t : Table) (entity : Entity) : Prop where
  entity_eq : t.entity = entity.type
  properties_eq : t.columns.map Column.property = entity.ownedProperties
  primary_role : t.primary.role = .primary
  before_role : ∀ c ∈ t.before, c.role ≠ .primary
  after_role : ∀ c ∈ t.after, c.role ≠ .primary

theorem mem_columns {t : Table} {c : Column} :
    c ∈ t.columns ↔ c = t.primary ∨ c ∈ t.before ++ t.after := by
  rw [columns, List.mem_append, List.mem_cons, or_left_comm, ← List.mem_append]

theorem primary_mem_columns (t : Table) : t.primary ∈ t.columns :=
  mem_columns.mpr (.inl rfl)

namespace Stores

variable {t : Table} {entity : Entity} {c : Column}

theorem owner_eq (h : t.Stores entity) (hc : c ∈ t.columns) : c.property.owner = t.entity := by
  have hmem : c.property ∈ entity.ownedProperties :=
    h.properties_eq ▸ List.mem_map_of_mem hc
  obtain ⟨p, _, hp⟩ := List.mem_map.mp hmem
  rw [← hp, h.entity_eq]

theorem role_ne_primary (h : t.Stores entity) : ∀ c ∈ t.before ++ t.after, c.role ≠ .primary :=
  List.forall_mem_append.mpr ⟨h.before_role, h.after_role⟩

private theorem eq_primary (h : t.Stores entity) (hc : c ∈ t.columns)
    (hprimary : c.role = .primary) :
    c = t.primary := by
  rcases mem_columns.mp hc with hc | hc
  · exact hc
  · exact absurd hprimary (h.role_ne_primary c hc)

theorem not_isAutoIncrement (h : t.Stores entity) :
    ∀ c ∈ t.before ++ t.after, ¬c.isAutoIncrement := by
  intro c hc hincrement
  have hprimary := Column.isPrimary_of_isAutoIncrement hincrement
  exact h.role_ne_primary c hc (of_decide_eq_true hprimary)

theorem filter_isAutoIncrement (h : t.Stores entity) :
    (t.columns.filter fun c => !t.primary.isAutoIncrement || !c.isPrimary) =
      t.columns.filter fun c => !c.isAutoIncrement := by
  apply List.filter_congr
  intro c hc
  by_cases hprimary : c.role = .primary
  · rw [h.eq_primary hc hprimary, Column.isPrimary, h.primary_role]
    simp
  · simp [Column.isAutoIncrement, Column.isPrimary, hprimary]

end Stores

def valueOf (i : Instance) (c : Column) : QueryValue :=
  c.bind (c.property.getter i.fields)

theorem Stores.queryValue_eq {t : Table} {entity : Entity} {i : Instance} {c : Column}
    (h : t.Stores entity) (hi : i.type = t.entity) (hc : c ∈ t.columns) :
    c.queryValue i = .ok (valueOf i c) := by
  rw [Column.queryValue, Column.value, OwnedProperty.read, if_pos (hi.trans (h.owner_eq hc).symm)]
  rfl

theorem Stores.queryValues_eq {t : Table} {entity : Entity} {i : Instance} (h : t.Stores entity)
    (hi : i.type = t.entity) (withPrimary : Bool) :
    t.queryValues i withPrimary =
      .ok ((t.columns.filter fun c => withPrimary || !c.isPrimary).map (valueOf i)) :=
  Check.mapM_eq_map fun _ hc => h.queryValue_eq hi (List.mem_filter.mp hc).1

theorem queryValues_eq_nil (t : Table) (i : Instance) {withPrimary : Bool}
    (hnone : (t.columns.filter fun c => withPrimary || !c.isPrimary) = []) :
    t.queryValues i withPrimary = .ok [] := by
  rw [queryValues, hnone, List.mapM_nil]
  rfl

/-- A table as it has been built, in whatever scope. -/
def IsFresh (t : Table) : Prop :=
  ∃ mapper scope entity key name, build mapper scope entity key name = .ok t

theorem isFresh_of_ofEntity {mapper : Mapper} {entity : Entity} {t : Table}
    (h : ofEntity mapper entity = .ok t) : t.IsFresh := by
  rw [ofEntity] at h
  split at h
  · cases h
  · exact ⟨_, _, _, _, _, h⟩

private theorem ofProperty_property (p : OwnedProperty) (s : Serializer) :
    (Column.ofProperty p s).property = p := by
  rw [Column.ofProperty]
  split <;> rfl

private theorem ofProperty_role (p : OwnedProperty) (s : Serializer) :
    (Column.ofProperty p s).role = .plain ∨
      ∃ references, (Column.ofProperty p s).role = .foreign references none := by
  rw [Column.ofProperty]
  split
  · exact .inl rfl
  · next references _ => exact .inr ⟨references, rfl⟩

private theorem columns_of_mapM {mapper : Mapper} {scope : List Serializer}
    {ps : List OwnedProperty} {cs : List Column}
    (h : ps.mapM (resolveColumn mapper scope .ofProperty) = .ok cs) :
    cs.map Column.property = ps ∧ ∀ c ∈ cs, ∃ p s, c = .ofProperty p s := by
  rw [Check.mapM_eq_ok] at h
  induction h with
  | nil => exact ⟨rfl, by simp⟩
  | @cons p c ps cs hc _ ih =>
    obtain ⟨_, s, _, rfl⟩ := resolveColumn_eq_ok.mp hc
    refine ⟨by rw [List.map_cons, ih.1, ofProperty_property], ?_⟩
    exact List.forall_mem_cons.mpr ⟨⟨p, s, rfl⟩, ih.2⟩

namespace IsFresh

variable {t : Table}

theorem schema (h : t.IsFresh) : t.schema = none := by
  obtain ⟨_, _, _, _, _, h⟩ := h
  obtain ⟨_, _, _, _, _, _, _, _, _, _, _, _, _, hschema⟩ := exists_split_of_build h
  exact hschema

private theorem columns (h : t.IsFresh) :
    ∃ entity : Entity, t.entity = entity.type ∧
      t.columns.map Column.property = entity.ownedProperties ∧
      (∃ p s, t.primary = .ofKey p s) ∧ ∀ c ∈ t.before ++ t.after, ∃ p s, c = .ofProperty p s := by
  obtain ⟨mapper, scope, entity, key, name, h⟩ := h
  obtain ⟨before, primary, after, hsplit, _, _, _, _, hbefore, hprimary, hafter, hentity, _, _⟩ :=
    exists_split_of_build h
  obtain ⟨_, s, _, hkey⟩ := resolveColumn_eq_ok.mp hprimary
  refine ⟨entity, hentity, ?_, ⟨primary, s, hkey⟩, ?_⟩
  · rw [Table.columns, List.map_append, List.map_cons, (columns_of_mapM hbefore).1,
      (columns_of_mapM hafter).1, hkey, hsplit]
    rfl
  · exact List.forall_mem_append.mpr ⟨(columns_of_mapM hbefore).2, (columns_of_mapM hafter).2⟩

theorem stores (h : t.IsFresh) : ∃ entity, t.Stores entity := by
  obtain ⟨entity, hentity, hproperties, ⟨p, s, hkey⟩, hothers⟩ := h.columns
  have hrole : ∀ c ∈ t.before ++ t.after, c.role ≠ .primary := by
    intro c hc hprimary
    obtain ⟨p, s, rfl⟩ := hothers c hc
    rcases ofProperty_role p s with hplain | ⟨references, hforeign⟩
    · rw [hplain] at hprimary
      cases hprimary
    · rw [hforeign] at hprimary
      cases hprimary
  refine ⟨entity, hentity, hproperties, by rw [hkey]; rfl, ?_, ?_⟩
  · exact fun c hc => hrole c (List.mem_append_left _ hc)
  · exact fun c hc => hrole c (List.mem_append_right _ hc)

theorem unlinked (h : t.IsFresh) {c : Column} (hc : c ∈ t.columns) (references : EntityType)
    (position : Nat) : c.role ≠ .foreign references (some position) := by
  obtain ⟨_, _, _, ⟨p, s, hkey⟩, hothers⟩ := h.columns
  intro hlinked
  rcases mem_columns.mp hc with rfl | hc
  · rw [hkey] at hlinked
    cases hlinked
  · obtain ⟨p, s, rfl⟩ := hothers c hc
    rcases ofProperty_role p s with hplain | ⟨_, hforeign⟩
    · rw [hplain] at hlinked
      cases hlinked
    · rw [hforeign] at hlinked
      cases hlinked

end IsFresh

end Table

end RecordTables
