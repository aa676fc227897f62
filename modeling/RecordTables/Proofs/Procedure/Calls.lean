import RecordTables.Proofs.Placeholder.Renumbering
import RecordTables.Proofs.Table.Build
import RecordTables.Procedure

/-!
# Procedures as they are built

The names of a procedure and of its schema have been checked, so that its path stands in a call
without quotes. The arguments of a declared procedure are the properties of its type in their order.
-/

namespace RecordTables

open Placeholder

private theorem isOrdinary_of_isPart {c : Char} (h : Identifier.isPart c) : isOrdinary c := by
  simp only [isOrdinary, decide_eq_true_eq]
  refine ⟨?_, ?_, ?_⟩ <;> (rintro rfl; revert h; decide)

theorem isPart_of_checkName {name : String} (h : checkName name = .ok ()) :
    ∀ c ∈ name.toList, Identifier.isPart c := by
  rw [checkName, Identifier.check] at h
  split at h
  · cases h
  · next first rest hlist =>
    split at h
    · cases h
    · split at h
      · cases h
      · split at h
        · cases h
        · next hall =>
          rw [hlist]
          exact List.all_eq_true.mp (Decidable.not_not.mp hall)

private theorem isFragment_of_checkName {name : String} (h : checkName name = .ok ()) :
    IsFragment name :=
  isFragment_of_isOrdinary fun c hc => isOrdinary_of_isPart (isPart_of_checkName h c hc)

namespace Procedure

/-- A procedure that has passed the checks on its names and arguments. -/
def IsBuilt (p : Procedure) : Prop :=
  ∃ schema type args, assemble schema type args = .ok p

theorem checkArgument_eq_ok {a : Argument} :
    checkArgument a = .ok () ↔ checkName a.name = .ok () ∧ a.procedure = none := by
  constructor
  · intro h
    obtain ⟨_, hname, h⟩ := Check.bind_eq_ok.mp h
    cases hprocedure : a.procedure with
    | none => exact ⟨hname, rfl⟩
    | some id =>
      rw [hprocedure] at h
      cases h
  · rintro ⟨hname, hprocedure⟩
    refine Check.bind_eq_ok.mpr ⟨(), hname, ?_⟩
    rw [hprocedure]
    rfl

section Assembling

variable {schema : Option String} {type : EntityType} {args : List Argument} {p : Procedure}

private theorem checks_of_args {scope : String} {next : Except MappingError Procedure}
    (h : (do
      let _ ← args.mapM checkArgument
      checkUnique scope (args.map Argument.name)
      next) = .ok p) :
    (∀ a ∈ args, checkArgument a = .ok ()) ∧ (args.map Argument.name).Nodup ∧ next = .ok p := by
  obtain ⟨_, hchecked, h⟩ := Check.bind_eq_ok.mp h
  obtain ⟨_, hunique, h⟩ := Check.bind_eq_ok.mp h
  exact ⟨Check.forall_of_mapM hchecked, checkUnique_eq_ok.mp hunique, h⟩

theorem checks_of_assemble (h : assemble schema type args = .ok p) :
    checkName type.name = .ok () ∧ (∀ name, schema = some name → checkName name = .ok ()) ∧
      (∀ a ∈ args, checkArgument a = .ok ()) ∧ (args.map Argument.name).Nodup ∧
      p = ⟨⟨schema, type⟩, args.map fun a => { a with procedure := some ⟨schema, type⟩ }⟩ := by
  obtain ⟨_, hname, h⟩ := Check.bind_eq_ok.mp h
  cases schema with
  | none =>
    obtain ⟨hargs, hnames, h⟩ := checks_of_args h
    exact ⟨hname, by simp, hargs, hnames, (Except.ok.inj h).symm⟩
  | some schema =>
    obtain ⟨_, hschema, h⟩ := Check.bind_eq_ok.mp h
    obtain ⟨hargs, hnames, h⟩ := checks_of_args h
    refine ⟨hname, ?_, hargs, hnames, (Except.ok.inj h).symm⟩
    rintro _ ⟨⟩
    exact hschema

theorem eq_of_assemble (h : assemble schema type args = .ok p) :
    checkName type.name = .ok () ∧ (∀ name, schema = some name → checkName name = .ok ()) ∧
      p = ⟨⟨schema, type⟩, args.map fun a => { a with procedure := some ⟨schema, type⟩ }⟩ := by
  obtain ⟨hname, hschema, _, _, hp⟩ := checks_of_assemble h
  exact ⟨hname, hschema, hp⟩

end Assembling

theorem isBuilt_of_ofEntity {mapper : Mapper} {entity : Entity} {schema : Option String}
    {p : Procedure} (h : ofEntity mapper entity schema = .ok p) :
    p.IsBuilt ∧ p.id.type = entity.type ∧
      p.args.map Argument.property = entity.ownedProperties := by
  obtain ⟨args, hargs, h⟩ := Check.bind_eq_ok.mp h
  have hproperties : args.map Argument.property = entity.ownedProperties := by
    rw [← List.map_id' entity.ownedProperties]
    apply Check.map_eq_map_of_related (Check.mapM_eq_ok.mp hargs)
    intro property argument hargument
    obtain ⟨s, _, hargument⟩ := Check.bind_eq_ok.mp hargument
    rw [← Except.ok.inj hargument]
    rfl
  refine ⟨⟨_, _, _, h⟩, ?_⟩
  obtain ⟨_, _, rfl⟩ := eq_of_assemble h
  refine ⟨rfl, ?_⟩
  rw [← hproperties, List.map_map]
  rfl

theorem nodup_names_of_assemble {schema : Option String} {type : EntityType} {args : List Argument}
    {p : Procedure} (h : assemble schema type args = .ok p) : (args.map Argument.name).Nodup := by
  obtain ⟨_, _, _, hnames, _⟩ := checks_of_assemble h
  exact hnames

theorem isFragment_path {p : Procedure} (h : p.IsBuilt) : IsFragment p.path := by
  obtain ⟨schema, type, args, h⟩ := h
  obtain ⟨hname, hschema, rfl⟩ := eq_of_assemble h
  cases schema with
  | none => exact isFragment_of_checkName hname
  | some schema =>
    have hdot : IsFragment "." := by decide
    exact ((isFragment_of_checkName (hschema schema rfl)).append hdot).append
      (isFragment_of_checkName hname)

def valueOf (i : Instance) (a : Argument) : QueryValue :=
  .ofSerializer a.name (a.property.getter i.fields) a.serializer

private theorem queryValue_eq_ok {i : Instance} {a : Argument} {v : QueryValue} :
    a.queryValue i = .ok v ↔ i.type = a.property.owner ∧ v = valueOf i a := by
  rw [Argument.queryValue, OwnedProperty.read]
  by_cases h : i.type = a.property.owner
  · rw [if_pos h]
    constructor
    · intro hv
      exact ⟨h, (Except.ok.inj hv).symm⟩
    · rintro ⟨_, rfl⟩
      rfl
  · rw [if_neg h]
    constructor
    · intro hv
      cases hv
    · rintro ⟨ht, _⟩
      exact absurd ht h

theorem callQuery_cases (p : Procedure) (i : Instance) :
    ((∃ a ∈ p.args, i.type ≠ a.property.owner) ∧ ∃ e, p.callQuery i = .error e) ∨
      p.callQuery i = .ok
        ⟨"CALL " ++ p.path ++ "(" ++ p.sqlArguments ", " ++ ")", p.args.map (valueOf i)⟩ := by
  cases hvalues : p.queryValues i with
  | error e =>
    refine .inl ⟨?_, e, Check.bind_eq_error.mpr (.inl hvalues)⟩
    obtain ⟨a, ha, he⟩ := Check.mapM_eq_error hvalues
    refine ⟨a, ha, ?_⟩
    intro howner
    rw [queryValue_eq_ok.mpr ⟨howner, rfl⟩] at he
    cases he
  | ok values =>
    have hsame := Check.map_eq_map_of_related (f := valueOf i) (g := fun v => v)
      (Check.mapM_eq_ok.mp hvalues) fun _ _ hv => (queryValue_eq_ok.mp hv).2
    rw [List.map_id'] at hsame
    exact .inr (Check.bind_eq_ok.mpr ⟨values, hvalues, by rw [hsame]; rfl⟩)

end Procedure

end RecordTables
