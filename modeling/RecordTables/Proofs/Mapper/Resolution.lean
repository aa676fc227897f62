import RecordTables.Mapper
import RecordTables.Proofs.Check

/-!
# What a mapper resolves

A type is looked up among the overrides of its owner, then in a scope, then in the registry. Each
call that configures a mapper changes these look-ups in one place only: a serializer is added behind
all others, an override goes before them, and an input leaves them as they are.
-/

namespace RecordTables.Mapper

/-- The serializer for values of a type that an entity type owns, if there is one. -/
def found? (m : Mapper) (owner : EntityType) (type : ValueType) (scope : List Serializer) :
    Option Serializer :=
  (m.override? owner type).or
    ((scope.find? fun s => s.serves type m.dialect).or (m.registry.find? type m.dialect))

section Lookups

variable {m : Mapper} {owner : EntityType} {type : ValueType} {scope : List Serializer}
  {s : Serializer}

theorem lookup_eq_ok : m.lookup owner type scope = .ok s ↔ m.found? owner type scope = some s := by
  rw [lookup, found?]
  cases m.override? owner type with
  | some o => simp
  | none =>
    cases scope.find? fun s => s.serves type m.dialect with
    | some o => simp
    | none =>
      rw [Registry.resolve]
      cases m.registry.find? type m.dialect <;> simp

theorem lookup_eq_error (h : m.found? owner type scope = none) :
    m.lookup owner type scope = .error (.unknownType type m.dialect) := by
  rw [found?, Option.or_eq_none_iff, Option.or_eq_none_iff] at h
  obtain ⟨hoverride, hscope, hregistry⟩ := h
  rw [lookup, hoverride, hscope, Registry.resolve, hregistry]

theorem getSerializer_eq_ok :
    m.getSerializer owner type = .ok s ↔ m.found? owner type [] = some s := by
  rw [← lookup_eq_ok, getSerializer]
  cases m.lookup owner type [] <;> simp

theorem resolveProperty_eq_ok {p : OwnedProperty} :
    m.resolveProperty p scope = .ok s ↔ m.found? p.owner p.valueType scope = some s := by
  rw [← lookup_eq_ok, resolveProperty]
  cases m.lookup p.owner p.valueType scope <;> simp

theorem resolveProperty_nil_eq_ok {p : OwnedProperty} :
    m.resolveProperty p [] = .ok s ↔ m.getSerializer p.owner p.valueType = .ok s := by
  rw [resolveProperty_eq_ok, getSerializer_eq_ok]

theorem override?_eq_some (h : m.override? owner type = some s) :
    ⟨owner, s⟩ ∈ m.overrides ∧ s.valueType = type := by
  rw [override?, Option.map_eq_some_iff] at h
  obtain ⟨o, hfind, rfl⟩ := h
  have hserves : o.owner = owner ∧ o.serializer.valueType = type := by
    simpa [Override.serves] using List.find?_some hfind
  refine ⟨?_, hserves.2⟩
  rw [← hserves.1]
  exact List.mem_of_find?_eq_some hfind

theorem found?_eq_some (h : m.found? owner type scope = some s) :
    m.override? owner type = some s ∨ s.serves type m.dialect := by
  rw [found?, Option.or_eq_some_iff] at h
  rcases h with h | ⟨_, h⟩
  · exact .inl h
  · rw [Option.or_eq_some_iff] at h
    rcases h with h | ⟨_, h⟩
    · exact .inr (by simpa using List.find?_some h)
    · rw [Registry.find?] at h
      exact .inr (by simpa using List.find?_some h)

theorem found?_of_override? (h : m.override? owner type = some s) :
    m.found? owner type scope = some s := by
  rw [found?, h, Option.some_or]

end Lookups

section Calls

variable {m m' : Mapper} {owner : EntityType} {s : Serializer} {e : Entity}

theorem registerSerializer_eq_ok : m.registerSerializer s = .ok m' ↔
    m.registry.contains s.valueType s.dialect = false ∧
      m' = { m with registry := ⟨m.registry.serializers ++ [s]⟩ } := by
  rw [registerSerializer, Registry.register]
  cases m.registry.contains s.valueType s.dialect <;> simp [eq_comm]

theorem registerOverride_eq_ok : m.registerOverride owner s = .ok m' ↔
    m.override? owner s.valueType = none ∧
      m' = { m with overrides := m.overrides ++ [⟨owner, s⟩] } := by
  have hnone : m.override? owner s.valueType = none ↔
      ¬m.overrides.any fun o => o.serves owner s.valueType := by
    simp [override?]
  rw [hnone, registerOverride]
  split
  · next h => simp [h]
  · next h => simp [h, eq_comm]

theorem registerInput_eq_ok : m.registerInput e = .ok m' ↔
    (∀ p ∈ e.properties, ∃ s, m.getSerializer e.type p.valueType = .ok s) ∧
      m' = { m with inputs := if e.type ∈ m.inputs then m.inputs else m.inputs ++ [e.type] } := by
  constructor
  · intro h
    obtain ⟨ss, hss, h⟩ := Check.bind_eq_ok.mp h
    refine ⟨?_, (Except.ok.inj h).symm⟩
    intro p hp
    have howned : ⟨p, e.type⟩ ∈ e.ownedProperties := List.mem_map_of_mem hp
    obtain ⟨s, _, hs⟩ := Check.exists_right_of_mem (Check.mapM_eq_ok.mp hss) howned
    exact ⟨s, resolveProperty_nil_eq_ok.mp hs⟩
  · rintro ⟨hall, rfl⟩
    have howned : ∀ p ∈ e.ownedProperties, ∃ s, m.resolveProperty p [] = .ok s := by
      intro p hp
      obtain ⟨q, hq, rfl⟩ := List.mem_map.mp hp
      obtain ⟨s, hs⟩ := hall q hq
      exact ⟨s, resolveProperty_nil_eq_ok.mpr hs⟩
    obtain ⟨ss, hss⟩ := Check.exists_mapM howned
    exact Check.bind_eq_ok.mpr ⟨ss, hss, rfl⟩

end Calls

section Changes

variable {m m' : Mapper} {s : Serializer} (owner : EntityType) (type : ValueType)
  (scope : List Serializer)

theorem found?_registerSerializer (h : m.registerSerializer s = .ok m') :
    m'.found? owner type scope =
      (m.found? owner type scope).or (if s.serves type m.dialect then some s else none) := by
  obtain ⟨_, rfl⟩ := registerSerializer_eq_ok.mp h
  have hregistry : (Registry.mk (m.registry.serializers ++ [s])).find? type m.dialect =
      (m.registry.find? type m.dialect).or (if s.serves type m.dialect then some s else none) := by
    rw [Registry.find?, List.find?_append, List.find?_singleton]
    rfl
  change (m.override? owner type).or ((scope.find? fun s => s.serves type m.dialect).or
    ((Registry.mk (m.registry.serializers ++ [s])).find? type m.dialect)) = _
  rw [hregistry, found?, Option.or_assoc, Option.or_assoc]

theorem found?_registerOverride {other : EntityType} (h : m.registerOverride other s = .ok m') :
    m'.found? owner type scope =
      if other = owner ∧ s.valueType = type then some s else m.found? owner type scope := by
  obtain ⟨hnone, rfl⟩ := registerOverride_eq_ok.mp h
  have hoverride : ({ m with overrides := m.overrides ++ [⟨other, s⟩] } : Mapper).override?
      owner type = (m.override? owner type).or
        (if other = owner ∧ s.valueType = type then some s else none) := by
    rw [override?, override?, List.find?_append, List.find?_singleton, Option.map_or,
      Override.serves]
    congr 1
    split <;> simp_all
  rw [found?, hoverride]
  split
  · next heq =>
    obtain ⟨rfl, rfl⟩ := heq
    rw [hnone, Option.none_or, Option.some_or]
  · rw [Option.or_none]
    rfl

theorem found?_registerInput {e : Entity} (h : m.registerInput e = .ok m') :
    m'.found? owner type scope = m.found? owner type scope := by
  obtain ⟨_, rfl⟩ := registerInput_eq_ok.mp h
  rfl

end Changes

end RecordTables.Mapper
