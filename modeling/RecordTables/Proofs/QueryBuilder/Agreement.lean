import RecordTables.Proofs.Mapper.Inputs
import RecordTables.Proofs.Procedure.Calls
import RecordTables.Proofs.Schema.Linking

/-!
# Three ways to bind a property

A builder looks up the serializer of a property each time that it binds it. A table and a procedure
have looked up theirs when they were built. Outside any schema the three look-ups are one, so a
condition on a column compares with what the column stores.
-/

namespace RecordTables

section Bindings

variable {m : Mapper} {entity : Entity} {p : OwnedProperty}

private theorem OwnedProperty.read_of_owner (p : OwnedProperty) (fields : List Value) :
    p.read ⟨p.owner, fields⟩ = .ok (p.getter fields) := by
  simp [read]

private theorem Table.exists_column_of_build {scope : List Serializer} {key : String}
    {name : Option String} {t : Table} (h : build m scope entity key name = .ok t)
    (hp : p ∈ entity.ownedProperties) :
    ∃ c, t.column? p.name = some c ∧ StoresProperty m scope key p c := by
  have hcolumns := columns_of_build h
  obtain ⟨c, hc, hstores⟩ := Check.exists_right_of_mem hcolumns hp
  obtain ⟨_, _, _, _, _, _, _, hnodup, _⟩ := exists_split_of_build h
  have hnames : t.columns.map Column.name = entity.ownedProperties.map fun p => p.name :=
    Check.map_eq_map_of_related hcolumns fun _ _ hstores => hstores.name_eq
  refine ⟨c, ?_, hstores⟩
  rw [column?, ← hstores.name_eq]
  exact find?_key_eq_some (hnames ▸ hnodup) hc

theorem Table.StoresProperty.queryValue {scope : List Serializer} {key : String} {c : Column}
    (h : StoresProperty m scope key p c) (fields : List Value) :
    c.queryValue ⟨p.owner, fields⟩ =
      .ok (.ofSerializer p.name (p.getter fields) c.serializer) := by
  rw [Column.queryValue, Column.value, h.property_eq, p.read_of_owner, ← h.name_eq]
  rfl

private theorem Procedure.exists_arg_of_ofEntity {schema : Option String} {procedure : Procedure}
    (h : ofEntity m entity schema = .ok procedure) (hp : p ∈ entity.ownedProperties) :
    ∃ a, procedure.arg? p.name = some a ∧ a.property = p ∧
      m.resolveProperty p [] = .ok a.serializer := by
  obtain ⟨args, hargs, hassemble⟩ := Check.bind_eq_ok.mp h
  obtain ⟨a, ha, hresolved⟩ := Check.exists_right_of_mem (Check.mapM_eq_ok.mp hargs) hp
  obtain ⟨s, hs, hdetached⟩ := Check.bind_eq_ok.mp hresolved
  obtain rfl := Except.ok.inj hdetached
  have hfind := find?_key_eq_some (nodup_names_of_assemble hassemble) ha
  obtain ⟨_, _, rfl⟩ := eq_of_assemble hassemble
  let id : ProcedureId := ⟨schema, entity.type⟩
  refine ⟨{ Argument.detached p s with procedure := some id }, ?_, rfl, hs⟩
  rw [arg?, List.find?_map]
  exact congrArg (Option.map fun a : Argument => { a with procedure := some id }) hfind

private theorem Argument.queryValue_of_owner (a : Argument) (fields : List Value) :
    a.queryValue ⟨a.property.owner, fields⟩ =
      .ok (.ofSerializer a.name (a.property.getter fields) a.serializer) := by
  rw [queryValue, OwnedProperty.read_of_owner]
  rfl

end Bindings

namespace QueryBuilder

private theorem binds_of_build {m : Mapper} {entity : Entity} {scope : List Serializer}
    {key : String}
    {name : Option String} {t : Table} (ht : Table.build m scope entity key name = .ok t)
    {p : Property} (hp : p ∈ entity.properties) {s : Serializer}
    (hs : m.getSerializer entity.type p.valueType = .ok s) (fields : List Value) :
    Binds m entity fields (.property p.name) (.ofSerializer p.name (p.getter fields) s) := by
  obtain ⟨_, _, _, _, _, _, _, hnodup, _⟩ := Table.exists_split_of_build ht
  have hnames : entity.ownedProperties.map (fun p => p.name) = entity.properties.map (·.name) := by
    rw [Entity.ownedProperties, List.map_map]
    rfl
  rw [hnames] at hnodup
  exact .property (find?_key_eq_some hnodup hp) hs

/-- Where the type of a record is a registered input, and a table and a procedure have been built of
it with the same mapper, a builder over the record can bind each property at any point. What it then
adds is what the column and the argument of that name bind for the record: the value of the property
with the serializer that the mapper gives for it. -/
theorem builder_column_and_argument_bind_alike {m : Mapper} {entity : Entity} {key : String}
    {name schema : Option String} {t : Table} {procedure : Procedure}
    (hinput : m.isRegistered entity.type) (ht : Table.build m [] entity key name = .ok t)
    (hprocedure : Procedure.ofEntity m entity schema = .ok procedure) (fields : List Value) :
    ∃ b, start m entity fields = .ok b ∧ ∀ p ∈ entity.properties, ∃ s c a,
      m.getSerializer entity.type p.valueType = .ok s ∧
      let v := QueryValue.ofSerializer p.name (p.getter fields) s
      (∀ calls, let before := (b.attempts calls).2
        before.attempt (.property p.name) =
          (.ok Placeholder.token, { before with values := before.values ++ [v] })) ∧
      t.column? p.name = some c ∧ c.queryValue ⟨entity.type, fields⟩ = .ok v ∧
      procedure.arg? p.name = some a ∧ a.queryValue ⟨entity.type, fields⟩ = .ok v := by
  refine ⟨⟨entity, fields, m, []⟩, by rw [start, if_pos hinput], ?_⟩
  intro p hp
  have howned : ⟨p, entity.type⟩ ∈ entity.ownedProperties := List.mem_map_of_mem hp
  obtain ⟨c, hcolumn, hstores⟩ := Table.exists_column_of_build ht howned
  obtain ⟨a, harg, hproperty, hresolved⟩ := Procedure.exists_arg_of_ofEntity hprocedure howned
  have hget := Mapper.resolveProperty_nil_eq_ok.mp hstores.serializer
  -- The column and the argument come from one look-up.
  have hserializer : a.serializer = c.serializer :=
    Except.ok.inj (hresolved.symm.trans hstores.serializer)
  have hargument := a.queryValue_of_owner fields
  rw [Argument.name, hproperty, hserializer] at hargument
  refine ⟨c.serializer, c, a, hget, ?_, hcolumn, hstores.queryValue fields, harg, hargument⟩
  intro calls before
  obtain ⟨values, hlast, _⟩ := attempts_values ⟨entity, fields, m, []⟩ calls
  have hbefore : before = ⟨entity, fields, m, values⟩ := hlast
  have hbinds := binds_of_build ht hp hget fields
  rw [hbefore]
  exact Binds.attempt hbinds

/-- The titles of works have an override. -/
theorem builder_column_and_argument_bind_alike_of_work :
    let work : Entity := ⟨⟨0, "Work"⟩, [
      ⟨"id", .int64, true, false, none, fun fields => fields.headD .null⟩,
      ⟨"title", .text, false, false, none, fun fields => fields.tail.headD .null⟩], none, none⟩
    let clob : Serializer := ⟨.text, .sqlite, "CLOB", .varchar, Codec.text⟩
    let m : Mapper :=
      { Mapper.ofDialect .sqlite with overrides := [⟨work.type, clob⟩], inputs := [work.type] }
    let fields : List Value := [.null, .text "4'33?"]
    let v : QueryValue := ⟨"title", .text "4'33?", .varchar, Codec.text.encoder⟩
    ∃ t procedure b c a, m.isRegistered work.type ∧ Table.build m [] work "id" none = .ok t ∧
      Procedure.ofEntity m work (some "music") = .ok procedure ∧ start m work fields = .ok b ∧
      (b.attempt (.property "title")).2.values = b.values ++ [v] ∧
      t.column? "title" = some c ∧ c.queryValue ⟨work.type, fields⟩ = .ok v ∧
      procedure.arg? "title" = some a ∧ a.queryValue ⟨work.type, fields⟩ = .ok v := by
  intro work clob m fields v
  have hinput : m.isRegistered work.type := by decide +kernel
  obtain ⟨t, ht⟩ : ∃ t, Table.build m [] work "id" none = .ok t :=
    Check.exists_of_isOk (by decide +kernel)
  obtain ⟨procedure, hprocedure⟩ : ∃ p, Procedure.ofEntity m work (some "music") = .ok p :=
    Check.exists_of_isOk (by decide +kernel)
  obtain ⟨b, hb, halike⟩ := builder_column_and_argument_bind_alike hinput ht hprocedure fields
  have htitle : ⟨"title", .text, false, false, none, fun fields => fields.tail.headD .null⟩ ∈
      work.properties := List.mem_cons_of_mem _ List.mem_cons_self
  obtain ⟨s, c, a, hs, hbuilder, hcolumn, hstored, harg, hpassed⟩ := halike _ htitle
  have hclob : s = clob := (Except.ok.inj hs).symm
  subst hclob
  exact ⟨t, procedure, b, c, a, hinput, ht, hprocedure, hb, congrArg (·.2.values) (hbuilder []),
    hcolumn, hstored, harg, hpassed⟩

end QueryBuilder

end RecordTables
