import Mathlib.Data.List.Basic
import RecordTables.Proofs.Procedure.Calls

/-!
# Procedures told apart by their paths

Equality of procedures looks at nothing but their paths, in which names stand without quotes: the
name of the type alone, or that of the schema, a dot and the name of the type. No name that has been
checked holds a dot, so that there is at most one way to cut a path at a dot.
-/

namespace RecordTables

private theorem dot_notMem_of_checkName {name : String} (h : checkName name = .ok ()) :
    '.' ∉ name.toList := by
  intro hdot
  have hpart := isPart_of_checkName h '.' hdot
  revert hpart
  decide

namespace ProcedureId

/-- Neither the name of the type nor that of the schema holds a dot. -/
structure IsUndotted (id : ProcedureId) : Prop where
  name : '.' ∉ id.type.name.toList
  schema : ∀ schema, id.schema = some schema → '.' ∉ schema.toList

variable {id other : ProcedureId}

private theorem path_of_none (h : id.schema = none) : id.path = id.type.name := by
  rw [path, h]

private theorem path_of_some {schema : String} (h : id.schema = some schema) :
    id.path = schema ++ "." ++ id.type.name := by
  rw [path, h]

/-- Where a path is cut at a dot, the schema stands before the dot and the name after it. -/
private theorem path_eq_append_iff (h : id.IsUndotted) {s t : String} :
    id.path = s ++ "." ++ t ↔ id.schema = some s ∧ id.type.name = t := by
  have hdotted (s t : String) : (s ++ "." ++ t).toList = s.toList ++ '.' :: t.toList := by simp
  rw [← String.toList_inj, hdotted]
  cases hschema : id.schema with
  | none =>
    have hname := h.name
    rw [path_of_none hschema]
    constructor
    · intro hpath
      simp [hpath] at hname
    · rintro ⟨hsome, _⟩
      cases hsome
  | some schema =>
    rw [path_of_some hschema, hdotted,
      List.append_cons_inj_of_notMem (h.schema schema hschema) h.name]
    simp [String.toList_inj]

private theorem path_eq_path_iff (h : id.IsUndotted) (hother : other.IsUndotted) :
    id.path = other.path ↔ id.schema = other.schema ∧ id.type.name = other.type.name := by
  cases hschema : id.schema with
  | some schema =>
    rw [path_of_some hschema, eq_comm, path_eq_append_iff hother]
    exact and_congr eq_comm eq_comm
  | none =>
    cases hschema' : other.schema with
    | some schema => rw [path_of_some hschema', path_eq_append_iff h, hschema]
    | none => rw [path_of_none hschema, path_of_none hschema', eq_self_iff_true, true_and]

end ProcedureId

namespace Procedure

variable {schema schema' : Option String} {type type' : EntityType} {args args' : List Argument}
  {p q : Procedure}

private theorem isUndotted_of_assemble (h : assemble schema type args = .ok p) :
    p.id.IsUndotted := by
  obtain ⟨hname, hschema, rfl⟩ := eq_of_assemble h
  exact ⟨dot_notMem_of_checkName hname, fun s hs => dot_notMem_of_checkName (hschema s hs)⟩

/-- Two procedures are equal if and only if they are declared for the same schema, or both for none,
and their types have the same name. A path has a dot if and only if there is a schema, and it has
only that one, between the name of the schema and that of the type. -/
theorem procedures_are_told_apart_by_schema_and_name (hp : assemble schema type args = .ok p)
    (hq : assemble schema' type' args' = .ok q) :
    (p.same q ↔ schema = schema' ∧ type.name = type'.name) ∧
    ∀ before after, p.path = before ++ "." ++ after ↔ schema = some before ∧ type.name = after := by
  have hundotted := isUndotted_of_assemble hp
  have hother := isUndotted_of_assemble hq
  obtain ⟨_, _, rfl⟩ := eq_of_assemble hp
  obtain ⟨_, _, rfl⟩ := eq_of_assemble hq
  refine ⟨?_, ?_⟩
  · rw [same, decide_eq_true_iff]
    exact ProcedureId.path_eq_path_iff hundotted hother
  · intro before after
    exact ProcedureId.path_eq_append_iff hundotted

/-- Top albums of two types in one schema, and those of no schema. -/
theorem procedures_are_told_apart_by_schema_and_name_of_topAlbums :
    let type : EntityType := ⟨0, "TopAlbums"⟩
    let other : EntityType := ⟨1, "TopAlbums"⟩
    let limit : Argument := .detached
      ⟨⟨"limit", .int64, false, false, none, fun fields => fields.headD .null⟩, other⟩
      ⟨.int64, .sqlite, "BIGINT", .bigInt, Codec.Sqlite.int64⟩
    ∃ p q r, assemble (some "music") type [] = .ok p ∧
      assemble (some "music") other [limit] = .ok q ∧ assemble none type [] = .ok r ∧
      p.same q ∧ ¬p.same r ∧ p.path = "music" ++ "." ++ "TopAlbums" ∧
      p.path ≠ "music.Top" ++ "." ++ "Albums" := by
  intro type other limit
  obtain ⟨p, hp⟩ : ∃ p, assemble (some "music") type [] = .ok p :=
    Check.exists_of_isOk (by decide +kernel)
  obtain ⟨q, hq⟩ : ∃ q, assemble (some "music") other [limit] = .ok q :=
    Check.exists_of_isOk (by decide +kernel)
  obtain ⟨r, hr⟩ : ∃ r, assemble none type [] = .ok r := Check.exists_of_isOk (by decide +kernel)
  obtain ⟨hsame, hcut⟩ := procedures_are_told_apart_by_schema_and_name hp hq
  obtain ⟨hother, _⟩ := procedures_are_told_apart_by_schema_and_name hp hr
  refine ⟨p, q, r, hp, hq, hr, hsame.mpr ⟨rfl, rfl⟩, ?_, (hcut _ _).mpr ⟨rfl, rfl⟩, ?_⟩
  · rw [hother]
    simp
  · rw [Ne, hcut]
    simp

end Procedure

end RecordTables
