import RecordTables.Proofs.Procedure.Calls
import RecordTables.Proofs.Schema.Linking
import RecordTables.Session

/-!
# The procedures of a schema

A schema takes procedures that are declared for it and whose paths are distinct. All paths of a
schema start alike, so that its procedures have distinct types too, and a path, a type and an
argument each lead to the one procedure that they belong to.
-/

namespace RecordTables

namespace Procedure

variable {schema : Option String} {type : EntityType} {args : List Argument} {a : Argument}
  {p : Procedure}

private theorem assemble_eq_error_of_owned (ha : a ∈ args) (howned : a.procedure.isSome) :
    ∃ e, assemble schema type args = .error e := by
  cases h : assemble schema type args with
  | error e => exact ⟨e, rfl⟩
  | ok p =>
    obtain ⟨_, _, hargs, _, _⟩ := checks_of_assemble h
    have hnone := (checkArgument_eq_ok.mp (hargs a ha)).2
    rw [hnone] at howned
    cases howned

private theorem procedure_eq_of_isBuilt (hp : p.IsBuilt) (ha : a ∈ p.args) :
    a.procedure = some p.id := by
  obtain ⟨schema, type, args, h⟩ := hp
  obtain ⟨_, _, rfl⟩ := eq_of_assemble h
  obtain ⟨detached, _, rfl⟩ := List.mem_map.mp ha
  rfl

end Procedure

namespace Schema

/-- The procedures are declared for the schema, and no two have the same path. -/
structure ListsProcedures (s : Schema) : Prop where
  declared : ∀ p ∈ s.procedures, p.id.schema = some s.name
  paths : (s.procedures.map Procedure.path).Nodup

variable {s last : Schema} {p : Procedure} {procedures : List Procedure}

private theorem listsProcedures_of_assemble {name : String} {tables : List Table}
    {serializers : List Serializer} (h : assemble name tables serializers = .ok s) :
    s.ListsProcedures := by
  obtain ⟨_, _, _, _, _, _, _, _, _, hnone⟩ := exists_links_of_assemble h
  refine ⟨?_, ?_⟩
  · rw [hnone]
    exact List.forall_mem_nil _
  · rw [hnone]
    exact List.nodup_nil

namespace ListsProcedures

theorem withProcedures (h : s.ListsProcedures) (hlast : s.withProcedures procedures = .ok last) :
    last.ListsProcedures := by
  obtain ⟨hdeclared, hpaths, rfl⟩ := withProcedures_eq_ok_iff.mp hlast
  exact ⟨List.forall_mem_append.mpr ⟨h.declared, hdeclared⟩, hpaths⟩

private theorem ids (h : s.ListsProcedures) : (s.procedures.map Procedure.id).Nodup := by
  apply List.Nodup.of_map ProcedureId.path
  rw [List.map_map]
  exact h.paths

theorem types (h : s.ListsProcedures) : (s.procedures.map fun p => p.id.type).Nodup := by
  apply List.Nodup.of_map fun type : EntityType => ProcedureId.path ⟨some s.name, type⟩
  have hpaths : s.procedures.map (fun p => ProcedureId.path ⟨some s.name, p.id.type⟩) =
      s.procedures.map Procedure.path := by
    apply List.map_congr_left
    intro p hp
    rw [← h.declared p hp]
    rfl
  rw [List.map_map]
  exact hpaths ▸ h.paths

private theorem argumentProcedure_eq (h : s.ListsProcedures) (hp : p ∈ s.procedures) {a : Argument}
    (ha : a.procedure = some p.id) : s.argumentProcedure a = .ok p := by
  have hid : a.procedureId = .ok p.id := by rw [Argument.procedureId, ha]
  refine Check.bind_eq_ok.mpr ⟨p.id, hid, ?_⟩
  rw [find?_key_eq_some h.ids hp]
  rfl

end ListsProcedures

private theorem IsBuilt.listsProcedures (h : s.IsBuilt) : s.ListsProcedures := by
  induction h with
  | assembled _ hs => exact listsProcedures_of_assemble hs
  | declared hs =>
    obtain ⟨_, _, hs⟩ := exists_assemble_of_build hs
    exact listsProcedures_of_assemble hs
  | extended _ hp ih => exact ih.withProcedures hp

private theorem foldlM_withProcedures_eq_ok_iff (hs : (s.procedures.map Procedure.path).Nodup)
    {calls : List (List Procedure)} :
    calls.foldlM Schema.withProcedures s = .ok last ↔
      (∀ p ∈ calls.flatten, p.id.schema = some s.name) ∧
        ((s.procedures ++ calls.flatten).map Procedure.path).Nodup ∧
        last = { s with procedures := s.procedures ++ calls.flatten } := by
  -- A call changes the schema, so the hypothesis has to be for all schemas.
  induction calls generalizing s with
  | nil =>
    rw [List.foldlM_nil, List.flatten_nil, List.append_nil]
    constructor
    · intro h
      exact ⟨List.forall_mem_nil _, hs, (Except.ok.inj h).symm⟩
    · rintro ⟨_, _, rfl⟩
      rfl
  | cons call calls ih =>
    rw [List.foldlM_cons, Check.bind_eq_ok, List.flatten_cons, List.forall_mem_append,
      ← List.append_assoc]
    constructor
    · rintro ⟨next, hcall, hrest⟩
      obtain ⟨hdeclared, hpaths, rfl⟩ := withProcedures_eq_ok_iff.mp hcall
      obtain ⟨hlater, hall, rfl⟩ := (ih hpaths).mp hrest
      exact ⟨⟨hdeclared, hlater⟩, hall, rfl⟩
    · rintro ⟨⟨hdeclared, hlater⟩, hall, rfl⟩
      have hpaths : ((s.procedures ++ call).map Procedure.path).Nodup := by
        rw [List.map_append] at hall
        exact hall.of_append_left
      exact ⟨_, withProcedures_eq_ok_iff.mpr ⟨hdeclared, hpaths, rfl⟩,
        (ih hpaths).mpr ⟨hlater, hall, rfl⟩⟩

private theorem call_eq {db : Session} {i : Instance} (hs : db.schema s.name = .ok s)
    (hp : s.procedureOf? i.type = some p) :
    db.call s.name i = (p.callQuery i).mapError .mapping >>= db.execute := by
  simp only [Session.call, hs, Bind.bind, Except.bind, hp]

/-- A schema that comes about takes the procedures of several calls if and only if all of them are
declared for it and their paths are distinct, over all calls and among those that it has already.
It then lists them in the order of the calls, and nothing else of it changes. Each of them is found
by its path and by its type, and so is called with the records of that type; and it is the procedure
that each of its arguments belongs to, which can be given to no other. -/
theorem procedures_are_listed_and_found (s : Schema) (hs : s.IsBuilt)
    (hbuilt : ∀ p ∈ s.procedures, p.IsBuilt) (calls : List (List Procedure))
    (hcalls : ∀ call ∈ calls, ∀ p ∈ call, p.IsBuilt) :
    let all := s.procedures ++ calls.flatten
    ((∃ last, calls.foldlM Schema.withProcedures s = .ok last) ↔
      (∀ p ∈ calls.flatten, p.id.schema = some s.name) ∧ (all.map Procedure.path).Nodup) ∧
    ∀ last, calls.foldlM Schema.withProcedures s = .ok last →
      last = { s with procedures := all } ∧ (∀ c, last.foreignTable c = s.foreignTable c) ∧
      ∀ p ∈ all, last.procedure? p.path = some p ∧ last.procedureOf? p.id.type = some p ∧
        (∀ (db : Session) (i : Instance), db.schema last.name = .ok last → i.type = p.id.type →
          db.call last.name i = (p.callQuery i).mapError .mapping >>= db.execute) ∧
        ∀ a ∈ p.args, last.argumentProcedure a = .ok p ∧
          ∀ schema type args, a ∈ args → ∃ e, Procedure.assemble schema type args = .error e := by
  intro all
  have hlists := hs.listsProcedures
  refine ⟨?_, ?_⟩
  · simp only [foldlM_withProcedures_eq_ok_iff hlists.paths, exists_and_left, exists_eq,
      and_true, all]
  · intro last hlast
    obtain ⟨hdeclared, hpaths, rfl⟩ := (foldlM_withProcedures_eq_ok_iff hlists.paths).mp hlast
    have hlast : ListsProcedures { s with procedures := all } :=
      ⟨List.forall_mem_append.mpr ⟨hlists.declared, hdeclared⟩, hpaths⟩
    have hall : ∀ p ∈ all, p.IsBuilt := by
      refine List.forall_mem_append.mpr ⟨hbuilt, ?_⟩
      intro p hp
      obtain ⟨call, hcall, hp⟩ := List.mem_flatten.mp hp
      exact hcalls call hcall p hp
    refine ⟨rfl, fun _ => rfl, ?_⟩
    intro p hp
    have htype := find?_key_eq_some hlast.types hp
    refine ⟨find?_key_eq_some hlast.paths hp, htype, ?_, ?_⟩
    · intro db i hdb hi
      exact call_eq hdb (hi ▸ htype)
    · intro a ha
      have howned := Procedure.procedure_eq_of_isBuilt (hall p hp) ha
      refine ⟨hlast.argumentProcedure_eq hp howned, ?_⟩
      intro schema type args hargs
      exact Procedure.assemble_eq_error_of_owned hargs (by rw [howned]; rfl)

/-- Two procedures are added by three calls, one of which adds none, and one of them is called. No
procedure can be added twice. -/
theorem procedures_are_listed_and_found_of_music :
    let artist : EntityType := ⟨0, "Artist"⟩
    let top : EntityType := ⟨1, "TopAlbums"⟩
    let recount : EntityType := ⟨2, "Recount"⟩
    let integer (name : String) : Property :=
      ⟨name, .int64, false, false, none, fun fields => fields.headD .null⟩
    let limit : Argument := .detached ⟨integer "limit", top⟩
      ⟨.int64, .sqlite, "BIGINT", .bigInt, Codec.Sqlite.int64⟩
    let d : SchemaDeclaration := ⟨"music", [], [⟨⟨artist, [integer "id"], none, none⟩, "id", none⟩]⟩
    ∃ s p q last, d.build (.ofDialect .sqlite) = .ok s ∧
      Procedure.assemble (some "music") top [limit] = .ok p ∧
      Procedure.assemble (some "music") recount [] = .ok q ∧
      [[p], [], [q]].foldlM Schema.withProcedures s = .ok last ∧ last.procedures = [p, q] ∧
      (∃ a ∈ p.args, last.argumentProcedure a = .ok p) ∧
      (∃ (db : Session) (statement : PreparedStatement), db.schema "music" = .ok last ∧
        db.call "music" ⟨recount, []⟩ = .ok statement ∧ statement.sql = "CALL music.Recount()") ∧
      ¬∃ last, [[p], [p]].foldlM Schema.withProcedures s = .ok last := by
  intro artist top recount integer limit d
  obtain ⟨s, hs, hshape⟩ : ∃ s, d.build (.ofDialect .sqlite) = .ok s ∧
      (s.name, s.procedures.map Procedure.path) = ("music", []) :=
    Check.exists_of_toOption (by decide +kernel)
  obtain ⟨hname, hpaths⟩ := Prod.mk.inj hshape
  have hnone : s.procedures = [] := List.map_eq_nil_iff.mp hpaths
  obtain ⟨p, hp⟩ : ∃ p, Procedure.assemble (some "music") top [limit] = .ok p :=
    Check.exists_of_isOk (by decide +kernel)
  obtain ⟨q, hq⟩ : ∃ q, Procedure.assemble (some "music") recount [] = .ok q :=
    Check.exists_of_isOk (by decide +kernel)
  have hpbuilt : p.IsBuilt := ⟨_, _, _, hp⟩
  have hqbuilt : q.IsBuilt := ⟨_, _, _, hq⟩
  have hbuilt : ∀ p ∈ s.procedures, p.IsBuilt := by simp [hnone]
  obtain ⟨htaken, hlisted⟩ := procedures_are_listed_and_found s (.declared hs) hbuilt
    [[p], [], [q]] (by simp [hpbuilt, hqbuilt])
  obtain ⟨htwice, _⟩ := procedures_are_listed_and_found s (.declared hs) hbuilt
    [[p], [p]] (by simp [hpbuilt])
  obtain ⟨_, _, hpeq⟩ := Procedure.eq_of_assemble hp
  obtain ⟨_, _, hqeq⟩ := Procedure.eq_of_assemble hq
  obtain ⟨last, hlast⟩ := htaken.mpr (by
    rw [hnone, hname, hpeq, hqeq]
    decide)
  obtain ⟨hlasteq, _, hfound⟩ := hlisted last hlast
  have hlastname : last.name = "music" := by rw [hlasteq, hname]
  refine ⟨s, p, q, last, hs, hp, hq, hlast, ?_, ?_, ?_, ?_⟩
  · simp [hlasteq, hnone]
  · obtain ⟨_, _, _, hargs⟩ := hfound p (by simp)
    have ha : { limit with procedure := some p.id } ∈ p.args := by simp [hpeq]
    exact ⟨_, ha, (hargs _ ha).1⟩
  · let db : Session := ⟨.sqlite, .ofDialect .sqlite, rfl, false, [last], "main"⟩
    have hdb : db.schema "music" = .ok last := by simp [db, Session.schema, hlastname]
    obtain ⟨_, _, hcall, _⟩ := hfound q (by simp)
    have hcalled := hcall db ⟨recount, []⟩ (hlastname ▸ hdb) (by rw [hqeq])
    have hexecute : db.execute = fun q => (q.prepare .sqlite).mapError .mapping := rfl
    rw [hlastname, hexecute, hqeq] at hcalled
    obtain ⟨statement, hstatement, hsql⟩ : ∃ statement : PreparedStatement,
        db.call "music" ⟨recount, []⟩ = .ok statement ∧ statement.sql = "CALL music.Recount()" := by
      rw [hcalled]
      exact Check.exists_of_toOption (by decide +kernel)
    exact ⟨db, statement, hdb, hstatement, hsql⟩
  · rw [htwice]
    intro hrules
    have hpaths := hrules.2
    simp [hnone] at hpaths

end Schema

end RecordTables
