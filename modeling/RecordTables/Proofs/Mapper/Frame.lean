import RecordTables.Proofs.Mapper.Registration

/-!
# What a registration changes

A mapper is registered with in place, and a call may fail after it has done a part of its work. It
then leaves the mapper as it was, and otherwise it changes what it names: an input no answer at all,
an override the answers for its owner and type, and a serializer answers that were refused.
-/

namespace RecordTables

/-- What a mapper is asked for: the serializer of a type outside of schemas, or that of a property
in the scope of a schema. -/
inductive Request where
  | type (owner : EntityType) (type : ValueType)
  | property (p : OwnedProperty) (scope : List Serializer)

namespace Request

def owner : Request → EntityType
  | type owner _ => owner
  | property p _ => p.owner

def valueType : Request → ValueType
  | type _ valueType => valueType
  | property p _ => p.valueType

/-- The serializers that are looked at before the registry. -/
def scope : Request → List Serializer
  | type _ _ => []
  | property _ scope => scope

/-- The error if there is no serializer. -/
def refusal (dialect : Dialect) : Request → MappingError
  | type owner valueType => .unresolved owner.name valueType (.unknownType valueType dialect)
  | property p _ => .serializerNotFound p.owner.name p.name p.valueType

end Request

namespace Mapper

def answer (m : Mapper) : Request → Except MappingError Serializer
  | .type owner type => m.getSerializer owner type
  | .property p scope => m.resolveProperty p scope

/-- What has to be there, or missing, for a call to be accepted. -/
def Admits (m : Mapper) (d : Declarations) : Registration → Prop
  | .serializer s => ¬m.registry.contains s.valueType s.dialect
  | .override owner s => m.override? owner s.valueType = none
  | .input type =>
    ∀ p ∈ (d.entity type).properties, ∃ s, m.getSerializer type p.valueType = .ok s

section InPlace

variable (m : Mapper) (d : Declarations)

private theorem run_inPlace_eq_ok {m' : Mapper} {call : Registration} :
    (call.inPlace d).run m = .ok () m' ↔ m.register d call = .ok m' := by
  rw [run_inPlace]
  cases m.register d call <;> simp [outcome]

private theorem eq_of_run_inPlace_eq_error {m' : Mapper} {call : Registration} {e : MappingError}
    (h : (call.inPlace d).run m = .error e m') : m' = m := by
  rw [run_inPlace] at h
  cases hcall : m.register d call <;> simp_all [outcome]

private theorem admits_iff (call : Registration) :
    m.Admits d call ↔ ∃ m', (call.inPlace d).run m = .ok () m' := by
  simp only [run_inPlace_eq_ok]
  cases call with
  | serializer s => simp [Admits, register, registerSerializer_eq_ok]
  | override owner s => simp [Admits, register, registerOverride_eq_ok]
  | input type => simp [Admits, register, registerInput_eq_ok, d.type_entity]

end InPlace

section Answers

variable {m m' : Mapper} {d : Declarations}

private theorem answer_eq (m : Mapper) (request : Request) : m.answer request =
    (m.found? request.owner request.valueType request.scope).elim
      (.error (request.refusal m.dialect)) .ok := by
  cases hfound : m.found? request.owner request.valueType request.scope with
  | none =>
    have hlookup := lookup_eq_error hfound
    cases request with
    | type owner type =>
      change m.lookup owner type [] = _ at hlookup
      rw [answer, getSerializer, hlookup]
      rfl
    | property p scope =>
      change m.lookup p.owner p.valueType scope = _ at hlookup
      rw [answer, resolveProperty, hlookup]
      rfl
  | some s =>
    cases request with
    | type owner type => exact getSerializer_eq_ok.mpr hfound
    | property p scope => exact resolveProperty_eq_ok.mpr hfound

private theorem answer_of_serializer {s : Serializer} (h : m.register d (.serializer s) = .ok m')
    (request : Request) : m'.answer request =
      match m.answer request with
      | .ok found => .ok found
      | .error e =>
        if request.valueType = s.valueType ∧ s.dialect = m.dialect then .ok s else .error e := by
  rw [answer_eq, answer_eq, found?_registerSerializer _ _ _ h, (extends_of_register h).dialect_eq]
  cases m.found? request.owner request.valueType request.scope with
  | some found => rfl
  | none =>
    simp only [Option.none_or, Option.elim, Serializer.serves, decide_eq_true_eq,
      eq_comm (a := s.valueType)]
    split_ifs <;> rfl

private theorem answer_of_override {owner : EntityType} {s : Serializer}
    (h : m.register d (.override owner s) = .ok m') (request : Request) : m'.answer request =
      if request.owner = owner ∧ request.valueType = s.valueType then .ok s
      else m.answer request := by
  rw [answer_eq, answer_eq, found?_registerOverride _ _ _ h, (extends_of_register h).dialect_eq]
  simp only [eq_comm (a := owner), eq_comm (a := s.valueType)]
  split <;> rfl

private theorem answer_of_input {type : EntityType} (h : m.register d (.input type) = .ok m')
    (request : Request) : m'.answer request = m.answer request := by
  rw [answer_eq, answer_eq, found?_registerInput _ _ _ h, (extends_of_register h).dialect_eq]

private theorem isRegistered_of_register {call : Registration} (h : m.register d call = .ok m')
    (type : EntityType) :
    m'.isRegistered type ↔ m.isRegistered type ∨ call = .input type := by
  cases call with
  | serializer s =>
    obtain ⟨-, rfl⟩ := registerSerializer_eq_ok.mp h
    simp [isRegistered]
  | override owner s =>
    obtain ⟨-, rfl⟩ := registerOverride_eq_ok.mp h
    simp [isRegistered]
  | input other =>
    obtain ⟨-, rfl⟩ := registerInput_eq_ok.mp h
    rw [d.type_entity]
    simp only [isRegistered, decide_eq_true_eq, Registration.input.injEq]
    split_ifs with hmem
    · refine ⟨.inl, ?_⟩
      rintro (h | rfl)
      · exact h
      · exact hmem
    · rw [List.mem_append, List.mem_singleton, eq_comm (a := type)]

end Answers

/-- A call in place that is refused leaves the mapper as it was, wherever it has stopped. A call is
accepted if and only if the mapper admits it. It then keeps the dialect and all other inputs, and of
the answers it changes those that it names: an input changes none, an override those for its owner
and type, whatever they were, and a serializer those that were refused for its type, if it has the
dialect of the mapper. -/
theorem registrations_change_what_they_name (m : Mapper) (d : Declarations) :
    (∀ call : Registration, (call.inPlace d).run m = outcome m (m.register d call)) ∧
    (∀ (call : Registration) e m', (call.inPlace d).run m = .error e m' → m' = m) ∧
    (∀ call, m.Admits d call ↔ ∃ m', (call.inPlace d).run m = .ok () m') ∧
    ∀ (call : Registration) m', (call.inPlace d).run m = .ok () m' →
      m'.dialect = m.dialect ∧
      (∀ type, m'.isRegistered type ↔ m.isRegistered type ∨ call = .input type) ∧
      ∀ request, m'.answer request =
        match call with
        | .input _ => m.answer request
        | .serializer s =>
          match m.answer request with
          | .ok found => .ok found
          | .error e =>
            if request.valueType = s.valueType ∧ s.dialect = m.dialect then .ok s else .error e
        | .override owner s =>
          if request.owner = owner ∧ request.valueType = s.valueType then .ok s
          else m.answer request := by
  refine ⟨run_inPlace m d, fun _ _ _ => eq_of_run_inPlace_eq_error m d, admits_iff m d, ?_⟩
  intro call m' h
  rw [run_inPlace_eq_ok] at h
  refine ⟨(extends_of_register h).dialect_eq, isRegistered_of_register h, ?_⟩
  cases call with
  | serializer s => exact answer_of_serializer h
  | override owner s => exact answer_of_override h
  | input type => exact answer_of_input h

/-- The number of an invoice has a serializer and its total does not, so that invoices are no input
yet. An override for invoices then comes before a serializer for all others. -/
theorem registrations_change_what_they_name_of_invoice :
    let invoice : EntityType := ⟨0, "Invoice"⟩
    let receipt : EntityType := ⟨1, "Receipt"⟩
    let number : Property := ⟨"id", .int64, false, false, none, fun fields => fields.getD 0 .null⟩
    let total : Property :=
      ⟨"total", .custom "Money", false, false, none, fun fields => fields.getD 1 .null⟩
    let d : Declarations := ⟨fun type => ⟨type, [number, total], some "id", none⟩, fun _ => rfl⟩
    let cents : Serializer := ⟨.custom "Money", .postgres, "BIGINT", .bigInt, Codec.text⟩
    let money : Serializer := ⟨.custom "Money", .sqlite, "TEXT", .varchar, Codec.text⟩
    let m := ofDialect .sqlite
    let m₁ := { m with overrides := [⟨invoice, cents⟩] }
    let m₂ := { m₁ with registry := m.registry.insert money }
    let missing : MappingError := .serializerNotFound "Invoice" "total" (.custom "Money")
    ((Registration.input invoice).inPlace d).run m = .error missing m ∧
    ((Registration.override invoice cents).inPlace d).run m = .ok () m₁ ∧
    m₁.getSerializer invoice (.custom "Money") = .ok cents ∧
    m₁.getSerializer receipt (.custom "Money") = m.getSerializer receipt (.custom "Money") ∧
    ((Registration.serializer money).inPlace d).run m₁ = .ok () m₂ ∧
    m₂.getSerializer invoice (.custom "Money") = .ok cents ∧
    m₂.getSerializer receipt (.custom "Money") = .ok money ∧
    ∃ m₃, ((Registration.input invoice).inPlace d).run m₂ = .ok () m₃ ∧
      m₃.isRegistered invoice := by
  intro invoice receipt number total d cents money m m₁ m₂ missing
  obtain ⟨hrun, -, -, hchange⟩ := registrations_change_what_they_name m d
  obtain ⟨hrun₁, -, -, hchange₁⟩ := registrations_change_what_they_name m₁ d
  obtain ⟨-, -, hadmits₂, hchange₂⟩ := registrations_change_what_they_name m₂ d
  have hinput : ((Registration.input invoice).inPlace d).run m = .error missing m := by
    rw [hrun]
    rfl
  have hoverride : ((Registration.override invoice cents).inPlace d).run m = .ok () m₁ := by
    rw [hrun]
    rfl
  have hserializer : ((Registration.serializer money).inPlace d).run m₁ = .ok () m₂ := by
    rw [hrun₁]
    rfl
  obtain ⟨-, -, hanswer₁⟩ := hchange _ _ hoverride
  obtain ⟨-, -, hanswer₂⟩ := hchange₁ _ _ hserializer
  have hresolves : m₂.Admits d (.input invoice) := by
    intro p hp
    rcases List.mem_pair.mp hp with rfl | rfl
    · exact ⟨_, rfl⟩
    · exact ⟨_, hanswer₂ (.type invoice (.custom "Money"))⟩
  obtain ⟨m₃, hm₃⟩ := (hadmits₂ _).mp hresolves
  exact ⟨hinput, hoverride, hanswer₁ (.type invoice (.custom "Money")),
    hanswer₁ (.type receipt (.custom "Money")), hserializer,
    hanswer₂ (.type invoice (.custom "Money")), hanswer₂ (.type receipt (.custom "Money")), m₃,
    hm₃, ((hchange₂ _ _ hm₃).2.1 invoice).mpr (.inr rfl)⟩

end Mapper

end RecordTables
