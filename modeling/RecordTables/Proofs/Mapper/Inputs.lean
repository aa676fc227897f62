import RecordTables.Proofs.Mapper.Registration
import RecordTables.Proofs.QueryBuilder.Order

/-!
# The inputs of queries

The properties of an input are checked once, when its type is registered. Later calls only ever
replace a serializer by an override, so that a query can bind every property of a registered input
at any later time.
-/

namespace RecordTables

open QueryBuilder

namespace Mapper

/-- Every property of every input has a serializer. -/
def InputsResolve (m : Mapper) (d : Declarations) : Prop :=
  ∀ type ∈ m.inputs, ∀ p ∈ (d.entity type).properties,
    ∃ s, m.getSerializer type p.valueType = .ok s

theorem Extends.getSerializer {m m' : Mapper} {calls : List Registration}
    (h : m.Extends m' calls) {owner : EntityType} {type : ValueType} {s : Serializer}
    (hs : m.getSerializer owner type = .ok s) :
    ∃ s', m'.getSerializer owner type = .ok s' ∧ (s' = s ∨ .override owner s' ∈ calls) := by
  obtain ⟨s', hs', hsame⟩ := h.found owner type [] s (getSerializer_eq_ok.mp hs)
  exact ⟨s', getSerializer_eq_ok.mpr hs', hsame⟩

private theorem inputs_of_register {m m' : Mapper} {d : Declarations} {call : Registration}
    (h : m.register d call = .ok m') {type : EntityType} (ht : type ∈ m'.inputs) :
    type ∈ m.inputs ∨
      ∀ p ∈ (d.entity type).properties, ∃ s, m.getSerializer type p.valueType = .ok s := by
  cases call with
  | serializer s =>
    obtain ⟨_, rfl⟩ := registerSerializer_eq_ok.mp h
    exact .inl ht
  | override owner s =>
    obtain ⟨_, rfl⟩ := registerOverride_eq_ok.mp h
    exact .inl ht
  | input other =>
    obtain ⟨hall, rfl⟩ := registerInput_eq_ok.mp h
    change type ∈ if (d.entity other).type ∈ m.inputs then _ else _ at ht
    split at ht
    · exact .inl ht
    · rcases List.mem_append.mp ht with ht | ht
      · exact .inl ht
      · rw [d.type_entity, List.mem_singleton] at ht
        subst ht
        rw [d.type_entity] at hall
        exact .inr hall

theorem InputsResolve.attempt {m : Mapper} {d : Declarations} (h : m.InputsResolve d)
    (call : Registration) : (m.attempt d call).InputsResolve d := by
  have hextends := attempt_extends m d call
  rw [attempt_eq] at hextends ⊢
  cases hnext : m.register d call with
  | ok next =>
    rw [hnext] at hextends
    intro type ht p hp
    have hbefore : ∃ s, m.getSerializer type p.valueType = .ok s := by
      rcases inputs_of_register hnext ht with ht | hall
      · exact h type ht p hp
      · exact hall p hp
    obtain ⟨s, hs⟩ := hbefore
    obtain ⟨s', hs', _⟩ := hextends.getSerializer hs
    exact ⟨s', hs'⟩
  | error e => exact h

theorem InputsResolve.attempts {m : Mapper} {d : Declarations} (h : m.InputsResolve d)
    (calls : List Registration) : (m.attempts d calls).InputsResolve d := by
  induction calls generalizing m with
  | nil => exact h
  | cons call calls ih => exact ih (h.attempt call)

end Mapper

namespace QueryBuilder

private theorem attempt_property {b : QueryBuilder} {p : Property} (calls : List Binding)
    (hp : p ∈ b.entity.properties) (hall : ∀ q ∈ b.entity.properties,
      ∃ s, b.mapper.getSerializer b.entity.type q.valueType = .ok s) :
    ((b.attempts calls).2.attempt (.property p.name)).1 = .ok Placeholder.token := by
  obtain ⟨values, hlast, _⟩ := b.attempts_values calls
  rw [hlast]
  cases hfind : b.entity.properties.find? fun q => q.name = p.name with
  | none => simpa using List.find?_eq_none.mp hfind p hp
  | some q =>
    obtain ⟨s, hs⟩ := hall q (List.mem_of_find?_eq_some hfind)
    have hbinds : Binds b.mapper b.entity b.fields (.property p.name) _ := .property hfind hs
    rw [Binds.attempt (b := { b with values := b.values ++ values }) hbinds]

end QueryBuilder

namespace Mapper

/-- However a mapper was configured, a query can be started over every record of a registered type,
and each property of the type can be bound at any point of it. Whatever is called later, the type
stays registered, and each of its properties keeps its serializer or gets one that was registered
as an override of the type. -/
theorem registered_inputs_stay_bindable (d : Declarations) (dialect : Dialect)
    (registry : Registry) (calls later : List Registration) (type : EntityType)
    (h : ((withRegistry dialect registry).attempts d calls).isRegistered type) :
    let m := (withRegistry dialect registry).attempts d calls
    let e := d.entity type
    (∀ fields, ∃ b, start m e fields = .ok b ∧ ∀ bindings, ∀ p ∈ e.properties,
      ((b.attempts bindings).2.attempt (.property p.name)).1 = .ok Placeholder.token) ∧
    (m.attempts d later).isRegistered type ∧
    ∀ p ∈ e.properties, ∃ s s', m.getSerializer type p.valueType = .ok s ∧
      (m.attempts d later).getSerializer type p.valueType = .ok s' ∧
      (s' = s ∨ .override type s' ∈ later) := by
  intro m e
  have hmem : type ∈ m.inputs := by simpa [isRegistered] using h
  have hempty : (withRegistry dialect registry).InputsResolve d := by
    intro type ht
    cases ht
  have hresolves := hempty.attempts calls type hmem
  have hextends := attempts_extends m d later
  refine ⟨?_, ?_, ?_⟩
  · intro fields
    have htype : e.type = type := d.type_entity type
    refine ⟨⟨e, fields, m, []⟩, by rw [start, if_pos (by rw [htype]; exact h)], ?_⟩
    intro bindings p hp
    apply attempt_property bindings hp
    rw [htype]
    exact hresolves
  · simpa [isRegistered] using hextends.inputs type hmem
  · intro p hp
    obtain ⟨s, hs⟩ := hresolves p hp
    obtain ⟨s', hs', hsame⟩ := hextends.getSerializer hs
    exact ⟨s, s', hs, hs', hsame⟩

/-- Invoices are refused until there is a serializer for money, which is overridden for them
later. -/
theorem registered_inputs_stay_bindable_of_invoice :
    let invoice : EntityType := ⟨0, "Invoice"⟩
    let id : Property := ⟨"id", .int64, false, false, none, fun fields => fields.headD .null⟩
    let total : Property := ⟨"total", .custom "Money", true, false, none, fun _ => .null⟩
    let d : Declarations := ⟨fun type => ⟨type, [id, total], none, none⟩, fun _ => rfl⟩
    let money : Serializer := ⟨.custom "Money", .sqlite, "TEXT", .varchar, Codec.text⟩
    let calls : List Registration := [.input invoice, .serializer money, .input invoice]
    let later : List Registration := [.override invoice { money with dbType := "NUMERIC" }]
    let m := (ofDialect .sqlite).attempts d calls
    ((ofDialect .sqlite).attempts d (calls.take 2)).isRegistered invoice = false ∧
      m.isRegistered invoice ∧
      (∃ b, start m (d.entity invoice) [.int64 7] = .ok b ∧
        (b.attempt (.property "total")).1 = .ok Placeholder.token) ∧
      ∃ s s', m.getSerializer invoice (.custom "Money") = .ok s ∧
        (m.attempts d later).getSerializer invoice (.custom "Money") = .ok s' := by
  intro invoice id total d money calls later m
  have hregistered : m.isRegistered invoice := by decide +kernel
  obtain ⟨hstart, _, hlater⟩ :=
    registered_inputs_stay_bindable d .sqlite .withBuiltins calls later invoice hregistered
  have htotal : total ∈ (d.entity invoice).properties := List.mem_cons_of_mem _ List.mem_cons_self
  obtain ⟨b, hb, hbind⟩ := hstart [.int64 7]
  obtain ⟨s, s', hs, hs', _⟩ := hlater total htotal
  exact ⟨by decide +kernel, hregistered, ⟨b, hb, hbind [] total htotal⟩, s, s', hs, hs'⟩

end Mapper

end RecordTables
