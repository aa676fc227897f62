import RecordTables.Proofs.Mapper.Resolution
import RecordTables.Proofs.Registry.Registration

/-!
# Configuring a mapper

A mapper is configured by calls, some of which are refused. Whatever is called, it keeps its dialect
and its inputs, and it goes on finding what it found, unless an override takes its place. What it
finds has the type asked for, and the dialect of the mapper unless it is an override: overrides are
accepted in any dialect.
-/

namespace RecordTables

/-- The entity types of a program, each with its one declaration. The type of an entity and the
owner of its properties are one identity (`type_entity`): a record whose properties belong to
another type than its own has no declaration here. -/
structure Declarations where
  entity : EntityType → Entity
  type_entity : ∀ type, (entity type).type = type

/-- A call that configures a mapper. -/
inductive Registration where
  | serializer (s : Serializer)
  | override (owner : EntityType) (s : Serializer)
  | input (type : EntityType)

namespace Mapper

def onRegistry (call : EStateM SerializerError Registry Unit) : EStateM MappingError Mapper Unit :=
  fun m =>
    match call.run m.registry with
    | .ok _ registry => .ok () { m with registry := registry }
    | .error e registry => .error (.serializer e) { m with registry := registry }

/-- Adds an override in place, after a look at whether its owner has one for the type. -/
def registerOverrideInPlace (owner : EntityType) (s : Serializer) :
    EStateM MappingError Mapper Unit := do
  if (← get).overrides.any fun o => o.serves owner s.valueType then
    throw (.serializer (.duplicate s.valueType s.dialect))
  modify fun m => { m with overrides := m.overrides ++ [⟨owner, s⟩] }

/-- Resolves one property in place, for the error if there is no serializer. -/
def checkInPlace (p : OwnedProperty) : EStateM MappingError Mapper Unit := do
  match (← get).resolveProperty p [] with
  | .ok _ => pure ()
  | .error e => throw e

/-- Accepts an input in place, after one property after another has been resolved. -/
def registerInputInPlace (e : Entity) : EStateM MappingError Mapper Unit := do
  e.ownedProperties.forM checkInPlace
  modify fun m =>
    { m with inputs := if e.type ∈ m.inputs then m.inputs else m.inputs ++ [e.type] }

end Mapper

def Registration.inPlace (d : Declarations) : Registration → EStateM MappingError Mapper Unit
  | .serializer s => Mapper.onRegistry (Registry.registerInPlace s)
  | .override owner s => Mapper.registerOverrideInPlace owner s
  | .input type => Mapper.registerInputInPlace (d.entity type)

namespace Mapper

def register (m : Mapper) (d : Declarations) : Registration → Except MappingError Mapper
  | .serializer s => m.registerSerializer s
  | .override owner s => m.registerOverride owner s
  | .input type => m.registerInput (d.entity type)

/-- The mapper that a call leaves, whether it has been accepted or not. -/
def attempt (m : Mapper) (d : Declarations) (call : Registration) : Mapper :=
  match (call.inPlace d).run m with
  | .ok _ next => next
  | .error _ next => next

def attempts (m : Mapper) (d : Declarations) (calls : List Registration) : Mapper :=
  calls.foldl (fun m call => m.attempt d call) m

/-- What calls leave as it was: the dialect, the inputs, and all that is found, unless one of the
calls overrides it. -/
structure Extends (m m' : Mapper) (calls : List Registration) : Prop where
  dialect_eq : m'.dialect = m.dialect
  inputs : ∀ type ∈ m.inputs, type ∈ m'.inputs
  overrides : ∀ o ∈ m'.overrides, o ∈ m.overrides ∨ .override o.owner o.serializer ∈ calls
  found : ∀ owner type scope s, m.found? owner type scope = some s →
    ∃ s', m'.found? owner type scope = some s' ∧ (s' = s ∨ .override owner s' ∈ calls)

namespace Extends

theorem refl (m : Mapper) (calls : List Registration) : m.Extends m calls :=
  ⟨rfl, fun _ h => h, fun _ h => .inl h, fun _ _ _ s h => ⟨s, h, .inl rfl⟩⟩

theorem trans {m₁ m₂ m₃ : Mapper} {calls later : List Registration} (h : m₁.Extends m₂ calls)
    (h' : m₂.Extends m₃ later) : m₁.Extends m₃ (calls ++ later) := by
  refine ⟨h'.dialect_eq.trans h.dialect_eq, fun type ht => h'.inputs type (h.inputs type ht), ?_,
    ?_⟩
  · intro o ho
    rcases h'.overrides o ho with ho | ho
    · rcases h.overrides o ho with ho | ho
      · exact .inl ho
      · exact .inr (List.mem_append_left _ ho)
    · exact .inr (List.mem_append_right _ ho)
  · intro owner type scope s hs
    obtain ⟨s₂, hs₂, hsame⟩ := h.found owner type scope s hs
    obtain ⟨s₃, hs₃, hsame'⟩ := h'.found owner type scope s₂ hs₂
    refine ⟨s₃, hs₃, ?_⟩
    rcases hsame' with rfl | hcall
    · exact hsame.imp_right (List.mem_append_left _)
    · exact .inr (List.mem_append_right _ hcall)

end Extends

theorem extends_of_register {m m' : Mapper} {d : Declarations} {call : Registration}
    (h : m.register d call = .ok m') : m.Extends m' [call] := by
  cases call with
  | serializer s =>
    have hfound := fun owner type scope => found?_registerSerializer owner type scope h
    obtain ⟨_, rfl⟩ := registerSerializer_eq_ok.mp h
    refine ⟨rfl, fun _ h => h, fun _ h => .inl h, ?_⟩
    intro owner type scope s' hs'
    exact ⟨s', by rw [hfound, hs', Option.some_or], .inl rfl⟩
  | override other s =>
    have hfound := fun owner type scope => found?_registerOverride owner type scope h
    obtain ⟨_, rfl⟩ := registerOverride_eq_ok.mp h
    refine ⟨rfl, fun _ h => h, ?_, ?_⟩
    · intro o ho
      rcases List.mem_append.mp ho with ho | ho
      · exact .inl ho
      · rw [List.mem_singleton.mp ho]
        exact .inr List.mem_cons_self
    · intro owner type scope s' hs'
      rw [hfound]
      split
      · next heq => exact ⟨s, rfl, .inr (heq.1 ▸ List.mem_cons_self)⟩
      · exact ⟨s', hs', .inl rfl⟩
  | input type =>
    have hfound := fun owner type scope => found?_registerInput owner type scope h
    obtain ⟨_, rfl⟩ := registerInput_eq_ok.mp h
    refine ⟨rfl, ?_, fun _ h => .inl h, ?_⟩
    · intro other hother
      change other ∈ if (d.entity type).type ∈ m.inputs then _ else _
      split
      · exact hother
      · exact List.mem_append_left _ hother
    · intro owner type scope s hs
      exact ⟨s, by rw [hfound, hs], .inl rfl⟩

section InPlace

variable (m : Mapper) (d : Declarations)

private theorem run_onRegistry (s : Serializer) :
    (onRegistry (Registry.registerInPlace s)).run m = outcome m (m.registerSerializer s) := by
  change onRegistry (Registry.registerInPlace s) m = _
  rw [onRegistry, Registry.run_registerInPlace, registerSerializer]
  cases m.registry.register s <;> rfl

private theorem run_registerOverrideInPlace (owner : EntityType) (s : Serializer) :
    (registerOverrideInPlace owner s).run m = outcome m (m.registerOverride owner s) := by
  cases h : m.overrides.any fun o => o.serves owner s.valueType <;>
    simp [registerOverrideInPlace, registerOverride, outcome, h, -List.any_eq_true]

private theorem run_checkInPlace (p : OwnedProperty) :
    (checkInPlace p).run m = outcome m ((m.resolveProperty p []).map fun _ => m) := by
  cases h : m.resolveProperty p [] <;> simp [checkInPlace, outcome, Except.map, h]

private theorem run_forM_checkInPlace (ps : List OwnedProperty) :
    (ps.forM checkInPlace).run m =
      outcome m ((ps.mapM fun p => m.resolveProperty p []).map fun _ => m) := by
  induction ps with
  | nil => rfl
  | cons p ps ih =>
    -- A check changes nothing, so all others start from the mapper that it has started from.
    rw [List.forM_eq_forM, List.forM_cons, EStateM.run_bind, run_checkInPlace, List.mapM_cons]
    cases m.resolveProperty p [] with
    | error e => rfl
    | ok s =>
      refine ih.trans ?_
      change _ = outcome m (Except.map _ (Except.bind _ _))
      cases ps.mapM fun p => m.resolveProperty p [] <;> rfl

private theorem run_registerInputInPlace (e : Entity) :
    (registerInputInPlace e).run m = outcome m (m.registerInput e) := by
  rw [registerInputInPlace, registerInput, EStateM.run_bind, run_forM_checkInPlace]
  cases e.ownedProperties.mapM fun p => m.resolveProperty p [] <;> rfl

/-- A call in place comes to the same as the call that gives the next mapper. -/
theorem run_inPlace (call : Registration) :
    (call.inPlace d).run m = outcome m (m.register d call) := by
  cases call with
  | serializer s => exact run_onRegistry m s
  | override owner s => exact run_registerOverrideInPlace m owner s
  | input type => exact run_registerInputInPlace m (d.entity type)

theorem attempt_eq (call : Registration) :
    m.attempt d call = (m.register d call).toOption.getD m := by
  rw [attempt, run_inPlace]
  cases m.register d call <;> rfl

end InPlace

theorem attempt_extends (m : Mapper) (d : Declarations) (call : Registration) :
    m.Extends (m.attempt d call) [call] := by
  rw [attempt_eq]
  cases h : m.register d call with
  | ok m' => exact extends_of_register h
  | error e => exact .refl m [call]

theorem attempts_extends (m : Mapper) (d : Declarations) (calls : List Registration) :
    m.Extends (m.attempts d calls) calls := by
  induction calls generalizing m with
  | nil => exact .refl m []
  | cons call calls ih => exact (attempt_extends m d call).trans (ih (m.attempt d call))

private theorem fits_of_found? {d : Declarations} {dialect : Dialect} {registry : Registry}
    {calls : List Registration} {owner : EntityType} {type : ValueType} {scope : List Serializer}
    {s : Serializer}
    (h : ((withRegistry dialect registry).attempts d calls).found? owner type scope = some s) :
    s.valueType = type ∧ (s.dialect = dialect ∨
      ((withRegistry dialect registry).attempts d calls).override? owner type = some s ∧
        .override owner s ∈ calls) := by
  have hextends := attempts_extends (withRegistry dialect registry) d calls
  rcases found?_eq_some h with hoverride | hserves
  · obtain ⟨hmem, htype⟩ := override?_eq_some hoverride
    -- A mapper starts without overrides, so that each of them stems from a call.
    rcases hextends.overrides _ hmem with hmem | hcall
    · cases hmem
    · exact ⟨htype, .inr ⟨hoverride, hcall⟩⟩
  · rw [hextends.dialect_eq, Serializer.serves, decide_eq_true_eq] at hserves
    exact ⟨hserves.1, .inl hserves.2⟩

/-- However a mapper was configured, it keeps its dialect, and every serializer that it resolves is
for the type asked for. The serializer has the dialect of the mapper too, unless it was registered
as an override of the owner; an override is always the one that is resolved, whatever its
dialect. -/
theorem serializers_fit_but_for_overrides (d : Declarations) (dialect : Dialect)
    (registry : Registry) (calls : List Registration) :
    let m := (withRegistry dialect registry).attempts d calls
    m.dialect = dialect ∧
      (∀ owner type s, m.getSerializer owner type = .ok s → s.valueType = type ∧
        (s.dialect = dialect ∨ m.override? owner type = some s ∧ .override owner s ∈ calls)) ∧
      (∀ p scope s, m.resolveProperty p scope = .ok s → s.valueType = p.valueType ∧
        (s.dialect = dialect ∨
          m.override? p.owner p.valueType = some s ∧ .override p.owner s ∈ calls)) ∧
      ∀ owner type s, m.override? owner type = some s → m.getSerializer owner type = .ok s ∧
        ∀ p scope, p.owner = owner → p.valueType = type → m.resolveProperty p scope = .ok s := by
  intro m
  refine ⟨(attempts_extends _ d calls).dialect_eq, ?_, ?_, ?_⟩
  · intro owner type s hs
    exact fits_of_found? (getSerializer_eq_ok.mp hs)
  · intro p scope s hs
    exact fits_of_found? (resolveProperty_eq_ok.mp hs)
  · intro owner type s hs
    refine ⟨getSerializer_eq_ok.mpr (found?_of_override? hs), ?_⟩
    rintro p scope rfl rfl
    exact resolveProperty_eq_ok.mpr (found?_of_override? hs)

/-- The text of artists has a serializer of its own, their numbers have the built-in one. -/
theorem serializers_fit_but_for_overrides_of_artist :
    let artist : EntityType := ⟨0, "Artist"⟩
    let d : Declarations := ⟨fun type => ⟨type, [], none, none⟩, fun _ => rfl⟩
    let clob : Serializer := ⟨.text, .sqlite, "CLOB", .varchar, Codec.text⟩
    let m := (withRegistry .sqlite .withBuiltins).attempts d [.override artist clob]
    m.override? artist .text = some clob ∧ m.getSerializer artist .text = .ok clob ∧
      ∃ s, m.getSerializer artist .int32 = .ok s ∧ s.valueType = .int32 ∧ s.dialect = .sqlite := by
  intro artist d clob m
  obtain ⟨_, hresolved, _, hoverride⟩ :=
    serializers_fit_but_for_overrides d .sqlite .withBuiltins [.override artist clob]
  have hclob : m.override? artist .text = some clob := rfl
  have hint : m.getSerializer artist .int32 =
      .ok ⟨.int32, .sqlite, "INTEGER", .integer, Codec.Sqlite.int32⟩ := rfl
  obtain ⟨htype, hdialect⟩ := hresolved artist .int32 _ hint
  refine ⟨hclob, (hoverride artist .text clob hclob).1, _, hint, htype, ?_⟩
  rcases hdialect with hdialect | ⟨hnone, _⟩
  · exact hdialect
  · cases hnone

/-- A mapper for SQLite accepts an override for PostgreSQL and resolves it. -/
theorem override_of_other_dialect_is_resolved :
    let artist : EntityType := ⟨0, "Artist"⟩
    let d : Declarations := ⟨fun type => ⟨type, [], none, none⟩, fun _ => rfl⟩
    let varchar : Serializer := ⟨.text, .postgres, "VARCHAR", .varchar, Codec.text⟩
    let m := (ofDialect .sqlite).attempts d [.override artist varchar]
    m.dialect = .sqlite ∧ m.getSerializer artist .text = .ok varchar ∧
      varchar.dialect ≠ m.dialect := by
  intro artist d varchar m
  have hdialect : m.dialect = .sqlite := rfl
  refine ⟨hdialect, rfl, ?_⟩
  rw [hdialect]
  decide

end Mapper

end RecordTables
