import RecordTables.Proofs.Check
import RecordTables.Statement

/-!
# Values stay out of texts

Two records of one type, or two keys, give the same statements but for the values that are bound:
the texts are the same in both dialects, and the values have the same names, wire types and encoders
in the same order. Where one of the two statements is refused, so is the other, for the same reason.
-/

namespace RecordTables

/-- Two bound values that differ in nothing but the value. -/
structure QueryValue.SameSlot (v w : QueryValue) : Prop where
  name_eq : v.name = w.name
  wireType_eq : v.wireType = w.wireType
  encoder_eq : v.encoder = w.encoder

namespace QueryValue

private theorem sameSlot_ofSerializer (name : String) (v w : Value) (s : Serializer) :
    SameSlot (.ofSerializer name v s) (.ofSerializer name w s) :=
  ⟨rfl, rfl, rfl⟩

private theorem map_name_eq {α : Type} {vs ws : List QueryValue} (h : List.Forall₂ SameSlot vs ws)
    (f : String → α) : (ws.map fun v => f v.name) = vs.map fun v => f v.name := by
  apply Check.map_eq_map_of_related h
  intro v w hslot
  rw [hslot.name_eq]

end QueryValue

/-- Two queries that differ in nothing but the values that they bind. -/
structure Query.AgreesButForValues (p q : Query) : Prop where
  sql_eq : p.sql = q.sql
  dialectSql_eq : ∀ dialect, p.dialectSql dialect = q.dialectSql dialect
  slots : List.Forall₂ QueryValue.SameSlot p.values q.values

private theorem Query.agreesButForValues_of_slots (sql : String) {vs ws : List QueryValue}
    (h : List.Forall₂ QueryValue.SameSlot vs ws) : AgreesButForValues ⟨sql, vs⟩ ⟨sql, ws⟩ := by
  refine ⟨rfl, ?_, h⟩
  intro dialect
  cases dialect <;> rfl

open Check (Agree)
open QueryValue (SameSlot)

variable {i j : Instance}

private theorem OwnedProperty.read_agree (h : i.type = j.type) (p : OwnedProperty) :
    Agree (fun _ _ => True) (p.read i) (p.read j) := by
  by_cases howner : j.type = p.owner
  · rw [read, read, if_pos (h.trans howner), if_pos howner]
    exact .ok trivial
  · have hother : ¬i.type = p.owner := by rwa [h]
    rw [read, read, if_neg hother, if_neg howner]
    exact .error _

private theorem Column.queryValue_agree (h : i.type = j.type) (c : Column) :
    Agree SameSlot (c.queryValue i) (c.queryValue j) := by
  apply (c.property.read_agree h).bind
  intro v w _
  exact .ok (QueryValue.sameSlot_ofSerializer c.name v w c.serializer)

private theorem Argument.queryValue_agree (h : i.type = j.type) (a : Argument) :
    Agree SameSlot (a.queryValue i) (a.queryValue j) := by
  apply (a.property.read_agree h).bind
  intro v w _
  exact .ok (QueryValue.sameSlot_ofSerializer a.name v w a.serializer)

private theorem Table.queryValues_agree (h : i.type = j.type) (t : Table) (withPrimary : Bool) :
    Agree (List.Forall₂ SameSlot) (t.queryValues i withPrimary) (t.queryValues j withPrimary) := by
  apply Agree.mapM
  intro c _
  exact c.queryValue_agree h

private theorem Procedure.callQuery_agree (h : i.type = j.type) (p : Procedure) :
    Agree Query.AgreesButForValues (p.callQuery i) (p.callQuery j) := by
  have hvalues : Agree (List.Forall₂ SameSlot) (p.queryValues i) (p.queryValues j) := by
    apply Agree.mapM
    intro a _
    exact a.queryValue_agree h
  apply hvalues.bind
  intro vs ws hslots
  exact .ok (Query.agreesButForValues_of_slots _ hslots)

namespace Statement

variable (dialect : Dialect) (t : Table)

private theorem insert_agree (h : i.type = j.type) :
    Agree Query.AgreesButForValues (insert dialect t i) (insert dialect t j) := by
  apply (t.queryValues_agree h (!t.primary.isAutoIncrement)).bind
  intro vs ws hslots
  have hnames := QueryValue.map_name_eq hslots fun name => dialect.quoteIdentifier name
  have hmarks := QueryValue.map_name_eq hslots fun _ => Placeholder.token
  have hempty := Check.isEmpty_eq_of_related hslots
  simp only [hnames, hmarks, hempty]
  exact .ok (Query.agreesButForValues_of_slots _ hslots)

private theorem update_agree (h : i.type = j.type) :
    Agree Query.AgreesButForValues (update dialect t i) (update dialect t j) := by
  apply (t.queryValues_agree h false).bind
  intro vs ws hslots
  have hassignments := QueryValue.map_name_eq hslots fun name => assignment dialect name
  have hempty := Check.isEmpty_eq_of_related hslots
  simp only [hassignments, hempty]
  by_cases hnone : vs.isEmpty
  · rw [if_pos hnone, if_pos hnone]
    exact .error _
  · rw [if_neg hnone, if_neg hnone]
    apply (t.primary.queryValue_agree h).bind
    intro v w hkey
    have hall := List.rel_append hslots (.cons hkey .nil)
    exact .ok (Query.agreesButForValues_of_slots _ hall)

private theorem deleteById_agrees (a b : Value) :
    (deleteById dialect t a).AgreesButForValues (deleteById dialect t b) := by
  apply Query.agreesButForValues_of_slots
  exact .cons (QueryValue.sameSlot_ofSerializer _ a b _) .nil

private theorem selectById_agrees (a b : Value) :
    (selectById dialect t a).AgreesButForValues (selectById dialect t b) := by
  apply Query.agreesButForValues_of_slots
  exact .cons (QueryValue.sameSlot_ofSerializer _ a b _) .nil

private theorem delete_agree (h : i.type = j.type) :
    Agree Query.AgreesButForValues (delete dialect t i) (delete dialect t j) := by
  apply (t.primary.property.read_agree h).bind
  intro a b _
  exact .ok (deleteById_agrees dialect t a b)

/-- No value reaches the text of a statement. Whatever table and dialect, two records of one type
are inserted, updated and deleted by statements that differ in nothing but the values that they
bind, or both are refused with the same error. So it is with the call of a procedure, and with two
keys of rows that are deleted or selected. -/
theorem statements_agree_but_for_values (dialect : Dialect) (i j : Instance) (a b : Value)
    (h : i.type = j.type) :
    (∀ t : Table,
      Agree Query.AgreesButForValues (insert dialect t i) (insert dialect t j) ∧
      Agree Query.AgreesButForValues (update dialect t i) (update dialect t j) ∧
      Agree Query.AgreesButForValues (delete dialect t i) (delete dialect t j) ∧
      (deleteById dialect t a).AgreesButForValues (deleteById dialect t b) ∧
      (selectById dialect t a).AgreesButForValues (selectById dialect t b)) ∧
    ∀ p : Procedure, Agree Query.AgreesButForValues (p.callQuery i) (p.callQuery j) := by
  refine ⟨?_, fun p => p.callQuery_agree h⟩
  intro t
  exact ⟨insert_agree dialect t h, update_agree dialect t h, delete_agree dialect t h,
    deleteById_agrees dialect t a b, selectById_agrees dialect t a b⟩

/-- A name that looks like a statement is bound like any other. -/
theorem statements_agree_but_for_values_of_artist :
    let artist : EntityType := ⟨0, "Artist"⟩
    let id : OwnedProperty :=
      ⟨⟨"id", .int64, true, false, none, fun fields => fields.headD .null⟩, artist⟩
    let name : OwnedProperty :=
      ⟨⟨"name", .text, false, true, none, fun fields => fields.tail.headD .null⟩, artist⟩
    let bigint : Serializer := ⟨.int64, .postgres, "BIGINT", .bigInt, Codec.Postgres.int64⟩
    let varchar : Serializer := ⟨.text, .postgres, "VARCHAR", .varchar, Codec.text⟩
    let t : Table :=
      ⟨artist, "Artist", [], .ofKey id bigint, [.ofProperty name varchar], some "music"⟩
    let i : Instance := ⟨artist, [.null, .text "Who?"]⟩
    let j : Instance := ⟨artist, [.int64 7, .text "?'); DROP TABLE \"Artist\"; --"]⟩
    i.type = j.type ∧ ∃ p q, insert .postgres t i = .ok p ∧ insert .postgres t j = .ok q ∧
      p.AgreesButForValues q ∧ p.values.map (·.value) = [.text "Who?"] ∧
      q.values.map (·.value) = [.text "?'); DROP TABLE \"Artist\"; --"] := by
  intro artist id name bigint varchar t i j
  have htype : i.type = j.type := rfl
  obtain ⟨p, hp, hvalues⟩ : ∃ p, insert .postgres t i = .ok p ∧
      p.values.map (·.value) = [.text "Who?"] := ⟨_, rfl, rfl⟩
  obtain ⟨q, hq, hvalues'⟩ : ∃ q, insert .postgres t j = .ok q ∧
      q.values.map (·.value) = [.text "?'); DROP TABLE \"Artist\"; --"] := ⟨_, rfl, rfl⟩
  have hagree := statements_agree_but_for_values .postgres i j .null (.int64 7) htype
  have hinsert := (hagree.1 t).1
  rw [hp, hq] at hinsert
  cases hinsert with
  | ok h => exact ⟨htype, p, q, hp, hq, h, hvalues, hvalues'⟩

end Statement

end RecordTables
