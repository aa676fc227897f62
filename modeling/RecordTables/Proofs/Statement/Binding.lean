import RecordTables.Proofs.Procedure.Calls
import RecordTables.Proofs.Schema.Linking

/-!
# Values and their placeholders

The text of a statement and the list of its values are put together apart from each other. Whatever
the columns and their names, the k-th placeholder of the text stands for the k-th value.
-/

namespace RecordTables

open Placeholder

/-- A table of an entity on its own, or a table of a schema that comes about. -/
inductive Table.IsObtained : Table → Prop
  | built {mapper : Mapper} {entity : Entity} {key : String} {name : Option String} {t : Table}
      (ht : Table.build mapper [] entity key name = .ok t) : IsObtained t
  | declared {mapper : Mapper} {entity : Entity} {t : Table}
      (ht : Table.ofEntity mapper entity = .ok t) : IsObtained t
  | ofSchema {s : Schema} {t : Table} (hs : s.IsBuilt) (ht : t ∈ s.tables) : IsObtained t

theorem Table.IsObtained.stores {t : Table} (h : t.IsObtained) : ∃ entity, t.Stores entity := by
  cases h with
  | built ht => exact Table.IsFresh.stores ⟨_, _, _, _, _, ht⟩
  | declared ht => exact (Table.isFresh_of_ofEntity ht).stores
  | ofSchema hs ht => exact hs.isLinked.stores t ht

namespace Statement

theorem isFragment_comma : IsFragment ", " := by
  decide

private theorem isFragment_where : IsFragment " WHERE " := by
  decide

theorem isFragment_tablePath (dialect : Dialect) (t : Table) :
    IsFragment (tablePath dialect t) := by
  have hdot : IsFragment "." := by decide
  unfold tablePath
  split
  · exact ((isFragment_quoteIdentifier _ _).append hdot).append (isFragment_quoteIdentifier _ _)
  · exact isFragment_quoteIdentifier _ _

def numberedAssignment (dialect : Dialect) (name : String) (index : Nat) : String :=
  dialect.quoteIdentifier name ++ " = " ++ ("$" ++ toString index)

def numberedTokens (count : Nat) : String :=
  ", ".intercalate ((List.range' 1 count).map fun k => "$" ++ toString k)

private theorem renumbers_assignment (dialect : Dialect) (name : String) (index : Nat) :
    Renumbers index (assignment dialect name) (index + 1)
      (numberedAssignment dialect name index) := by
  have hequals : IsFragment " = " := by decide
  rw [assignment]
  have hname := (isFragment_quoteIdentifier name dialect).append hequals
  exact (Renumbers.ofFragment hname index).append (.ofToken index)

private theorem isFragment_quotedNames (dialect : Dialect) (columns : List Column) :
    IsFragment (", ".intercalate (columns.map fun c => dialect.quoteIdentifier c.name)) := by
  apply isFragment_comma.intercalate
  intro part hpart
  obtain ⟨c, _, rfl⟩ := List.mem_map.mp hpart
  exact isFragment_quoteIdentifier c.name dialect

variable {t : Table} {entity : Entity} {i : Instance}

private theorem renumbers_inserted (dialect : Dialect) (columns : List Column) :
    let values := columns.map (Table.valueOf i)
    Renumbers 1
      (if values.isEmpty then " DEFAULT VALUES"
        else " (" ++ ", ".intercalate (values.map fun v => dialect.quoteIdentifier v.name) ++
          ") VALUES (" ++ ", ".intercalate (values.map fun _ => token) ++ ")")
      (1 + columns.length)
      (if columns.isEmpty then " DEFAULT VALUES"
        else " (" ++ ", ".intercalate (columns.map fun c => dialect.quoteIdentifier c.name) ++
          ") VALUES (" ++ numberedTokens columns.length ++ ")") := by
  intro values
  cases columns with
  | nil =>
    have hdefault : IsFragment " DEFAULT VALUES" := by decide
    exact .ofFragment hdefault 1
  | cons c columns =>
    have hnames := isFragment_quotedNames dialect (c :: columns)
    have hopen : IsFragment " (" := by decide
    have hbetween : IsFragment ") VALUES (" := by decide
    have hclose : IsFragment ")" := by decide
    have hhead := Renumbers.ofFragment ((hopen.append hnames).append hbetween) 1
    have htokens := Renumbers.intercalate_token isFragment_comma (c :: columns) 1
    simp only [values, List.map_map]
    exact (hhead.append htokens).append (.ofFragment hclose _)

private theorem insert_reads (h : t.Stores entity) (hi : i.type = t.entity) (dialect : Dialect) :
    let stored := t.columns.filter fun c => !c.isAutoIncrement
    ∃ q, insert dialect t i = .ok q ∧ q.Reads (stored.map (Table.valueOf i))
      ("INSERT INTO " ++ tablePath dialect t ++
        (if stored.isEmpty then " DEFAULT VALUES"
          else " (" ++ ", ".intercalate (stored.map fun c => dialect.quoteIdentifier c.name) ++
            ") VALUES (" ++ numberedTokens stored.length ++ ")") ++
        (if t.primary.isAutoIncrement ∧ dialect = .postgres then
            " RETURNING " ++ dialect.quoteIdentifier t.primary.name
          else "")) := by
  intro stored
  have hvalues : t.queryValues i (!t.primary.isAutoIncrement) =
      .ok (stored.map (Table.valueOf i)) := by
    rw [h.queryValues_eq hi, h.filter_isAutoIncrement]
  refine ⟨_, Check.bind_eq_ok.mpr ⟨_, hvalues, rfl⟩, ?_⟩
  have hinto : IsFragment "INSERT INTO " := by decide
  have hreturning : IsFragment (if t.primary.isAutoIncrement ∧ dialect = .postgres then
      " RETURNING " ++ dialect.quoteIdentifier t.primary.name else "") := by
    split
    · have hword : IsFragment " RETURNING " := by decide
      exact hword.append (isFragment_quoteIdentifier _ _)
    · decide
  have hhead := Renumbers.ofFragment (hinto.append (isFragment_tablePath dialect t)) 1
  apply Query.reads_of_renumbers
  rw [List.length_map]
  exact (hhead.append (renumbers_inserted dialect stored)).append (.ofFragment hreturning _)

theorem update_eq_error (dialect : Dialect) (i : Instance)
    (hnone : (t.columns.filter fun c => !c.isPrimary) = []) :
    update dialect t i = .error (.emptyEntity t.entity.name) :=
  Check.bind_eq_error.mpr (.inr ⟨[], t.queryValues_eq_nil i hnone, rfl⟩)

private theorem update_reads (h : t.Stores entity) (hi : i.type = t.entity) (dialect : Dialect) :
    let changed := t.columns.filter fun c => !c.isPrimary
    changed ≠ [] → ∃ q, update dialect t i = .ok q ∧
      q.Reads (changed.map (Table.valueOf i) ++ [Table.valueOf i t.primary])
        ("UPDATE " ++ tablePath dialect t ++ " SET " ++
          ", ".intercalate ((changed.zipIdx 1).map fun (c, k) =>
            numberedAssignment dialect c.name k) ++
          " WHERE " ++ numberedAssignment dialect t.primary.name (changed.length + 1)) := by
  intro changed hsome
  have hvalues : t.queryValues i false = .ok (changed.map (Table.valueOf i)) :=
    h.queryValues_eq hi false
  have hempty : ¬(changed.map (Table.valueOf i)).isEmpty := by
    simpa using hsome
  have hkey := h.queryValue_eq hi t.primary_mem_columns
  have hupdate : update dialect t i = .ok
      ⟨"UPDATE " ++ tablePath dialect t ++ " SET " ++
        ", ".intercalate ((changed.map (Table.valueOf i)).map fun v => assignment dialect v.name) ++
        " WHERE " ++ assignment dialect t.primary.name,
        changed.map (Table.valueOf i) ++ [Table.valueOf i t.primary]⟩ := by
    refine Check.bind_eq_ok.mpr ⟨_, hvalues, ?_⟩
    rw [if_neg hempty]
    exact Check.bind_eq_ok.mpr ⟨_, hkey, rfl⟩
  refine ⟨_, hupdate, Query.reads_of_renumbers ?_⟩
  have hword : IsFragment "UPDATE " := by decide
  have hset : IsFragment " SET " := by decide
  have hhead := (hword.append (isFragment_tablePath dialect t)).append hset
  have hassignments := Renumbers.intercalate isFragment_comma
    (fun (c : Column) k => renumbers_assignment dialect c.name k) changed 1
  have hlength : 1 + (changed.map (Table.valueOf i) ++ [Table.valueOf i t.primary]).length =
      changed.length + 1 + 1 := by
    simp only [List.length_append, List.length_map, List.length_singleton]
    omega
  rw [Nat.add_comm 1] at hassignments
  have hbody := (Renumbers.ofFragment hhead 1).append hassignments
  rw [hlength, List.map_map]
  exact (hbody.append (.ofFragment isFragment_where _)).append
    (renumbers_assignment dialect t.primary.name _)

private theorem reads_where {sql : String} (hsql : IsFragment sql) (dialect : Dialect)
    (id : Value) :
    Query.Reads ⟨sql ++ " WHERE " ++ assignment dialect t.primary.name, [t.primary.bind id]⟩
      [t.primary.bind id]
      (sql ++ " WHERE " ++ numberedAssignment dialect t.primary.name 1) := by
  have hhead := Renumbers.ofFragment (hsql.append isFragment_where) 1
  exact Query.reads_of_renumbers (hhead.append (renumbers_assignment dialect t.primary.name 1))

private theorem deleteById_reads (t : Table) (dialect : Dialect) (id : Value) :
    (deleteById dialect t id).Reads [t.primary.bind id]
      ("DELETE FROM " ++ tablePath dialect t ++ " WHERE " ++
        numberedAssignment dialect t.primary.name 1) := by
  have hdelete : IsFragment "DELETE FROM " := by decide
  exact reads_where (hdelete.append (isFragment_tablePath dialect t)) dialect id

private theorem selectById_reads (t : Table) (dialect : Dialect) (id : Value) :
    (selectById dialect t id).Reads [t.primary.bind id]
      ("SELECT " ++ selectColumns dialect t ++ " FROM " ++ tablePath dialect t ++ " WHERE " ++
        numberedAssignment dialect t.primary.name 1) := by
  have hselect : IsFragment "SELECT " := by decide
  have hfrom : IsFragment " FROM " := by decide
  have hcolumns := hselect.append (isFragment_quotedNames dialect t.columns)
  exact reads_where ((hcolumns.append hfrom).append (isFragment_tablePath dialect t)) dialect id

private theorem delete_eq (h : t.Stores entity) (hi : i.type = t.entity) (dialect : Dialect) :
    delete dialect t i = .ok (deleteById dialect t (t.primary.property.getter i.fields)) := by
  have howner := h.owner_eq t.primary_mem_columns
  rw [delete, Column.value, OwnedProperty.read, if_pos (hi.trans howner.symm)]
  rfl

private theorem callQuery_reads {p : Procedure} (h : p.IsBuilt) (i : Instance) :
    Query.Reads
      ⟨"CALL " ++ p.path ++ "(" ++ p.sqlArguments ", " ++ ")", p.args.map (Procedure.valueOf i)⟩
      (p.args.map (Procedure.valueOf i))
      ("CALL " ++ p.path ++ "(" ++ numberedTokens p.args.length ++ ")") := by
  have hcall : IsFragment "CALL " := by decide
  have hopen : IsFragment "(" := by decide
  have hclose : IsFragment ")" := by decide
  have hhead := (hcall.append (Procedure.isFragment_path h)).append hopen
  have htokens := Renumbers.intercalate_token isFragment_comma p.args 1
  apply Query.reads_of_renumbers
  rw [List.length_map]
  exact ((Renumbers.ofFragment hhead 1).append htokens).append (.ofFragment hclose _)

/-- The k-th placeholder of a statement stands for its k-th value, whatever the dialect that it is
written for. An insertion has all columns in their order but a key that the database makes up; an
update sets the other columns in their order, if there are any, and has the key last; deletions and
selections by a key have nothing but the key; a call has the arguments in their order. -/
theorem statements_bind_in_order :
    (∀ t : Table, t.IsObtained →
      (∃ entity : Entity, t.entity = entity.type ∧
        t.columns.map Column.property = entity.ownedProperties) ∧
      ∀ (i : Instance) (id : Value) (dialect : Dialect), i.type = t.entity →
        let stored := t.columns.filter fun c => !c.isAutoIncrement
        let changed := t.columns.filter fun c => !c.isPrimary
        let path := tablePath dialect t
        let key := t.primary.name
        (∃ q, insert dialect t i = .ok q ∧ q.Reads (stored.map (Table.valueOf i))
          ("INSERT INTO " ++ path ++
            (if stored.isEmpty then " DEFAULT VALUES"
              else " (" ++ ", ".intercalate (stored.map fun c => dialect.quoteIdentifier c.name) ++
                ") VALUES (" ++ numberedTokens stored.length ++ ")") ++
            (if t.primary.isAutoIncrement ∧ dialect = .postgres then
                " RETURNING " ++ dialect.quoteIdentifier key
              else ""))) ∧
        (changed = [] ∧ update dialect t i = .error (.emptyEntity t.entity.name) ∨
          changed ≠ [] ∧ ∃ q, update dialect t i = .ok q ∧
            q.Reads (changed.map (Table.valueOf i) ++ [Table.valueOf i t.primary])
              ("UPDATE " ++ path ++ " SET " ++
                ", ".intercalate ((changed.zipIdx 1).map fun (c, k) =>
                  numberedAssignment dialect c.name k) ++
                " WHERE " ++ numberedAssignment dialect key (changed.length + 1))) ∧
        (∃ q, delete dialect t i = .ok q ∧ q.Reads [Table.valueOf i t.primary]
          ("DELETE FROM " ++ path ++ " WHERE " ++ numberedAssignment dialect key 1)) ∧
        (deleteById dialect t id).Reads [t.primary.bind id]
          ("DELETE FROM " ++ path ++ " WHERE " ++ numberedAssignment dialect key 1) ∧
        (selectById dialect t id).Reads [t.primary.bind id]
          ("SELECT " ++ selectColumns dialect t ++ " FROM " ++ path ++ " WHERE " ++
            numberedAssignment dialect key 1)) ∧
    (∀ p : Procedure, p.IsBuilt → ∀ i : Instance,
      ((∃ a ∈ p.args, i.type ≠ a.property.owner) ∧ ∃ e, p.callQuery i = .error e) ∨
        ∃ q, p.callQuery i = .ok q ∧ q.Reads (p.args.map (Procedure.valueOf i))
          ("CALL " ++ p.path ++ "(" ++ numberedTokens p.args.length ++ ")")) ∧
    ∀ (mapper : Mapper) (entity : Entity) (schema : Option String) (p : Procedure),
      Procedure.ofEntity mapper entity schema = .ok p →
        p.IsBuilt ∧ p.id.type = entity.type ∧
          p.args.map Argument.property = entity.ownedProperties := by
  refine ⟨?_, ?_, fun _ _ _ _ h => Procedure.isBuilt_of_ofEntity h⟩
  · intro t ht
    obtain ⟨entity, h⟩ := ht.stores
    refine ⟨⟨entity, h.entity_eq, h.properties_eq⟩, ?_⟩
    intro i id dialect hi stored changed path key
    refine ⟨insert_reads h hi dialect, ?_,
      ⟨_, delete_eq h hi dialect, deleteById_reads t dialect _⟩,
      deleteById_reads t dialect id, selectById_reads t dialect id⟩
    by_cases hnone : changed = []
    · exact .inl ⟨hnone, update_eq_error dialect i hnone⟩
    · exact .inr ⟨hnone, update_reads h hi dialect hnone⟩
  · intro p hp i
    rcases p.callQuery_cases i with hrefused | hcall
    · exact .inl hrefused
    · exact .inr ⟨_, hcall, callQuery_reads hp i⟩

/-- A table and a procedure of one declared type. -/
theorem statements_bind_in_order_of_artist :
    let artist : Entity := ⟨⟨0, "Artist"⟩, [
      ⟨"id", .int64, true, false, none, fun fields => fields.headD .null⟩,
      ⟨"name", .text, false, true, none, fun fields => fields.tail.headD .null⟩,
      ⟨"born", .date, true, false, none, fun _ => .null⟩], some "id", none⟩
    let i : Instance := ⟨artist.type, [.null, .text "Who?"]⟩
    (∃ t, Table.ofEntity (.ofDialect .postgres) artist = .ok t ∧ t.IsObtained ∧
      i.type = t.entity ∧ ∃ q, update .sqlite t i = .ok q ∧ q.checkPlaceholders = .ok () ∧
        q.dialectSql .postgres =
          "UPDATE \"Artist\" SET \"name\" = $1, \"born\" = $2 WHERE \"id\" = $3") ∧
    ∃ p, Procedure.ofEntity (.ofDialect .postgres) artist (some "music") = .ok p ∧ p.IsBuilt ∧
      ∃ q, p.callQuery i = .ok q ∧ q.checkPlaceholders = .ok () ∧
        q.dialectSql .postgres = "CALL music.Artist($1, $2, $3)" := by
  intro artist i
  refine ⟨?_, ?_⟩
  · have hshape : (Table.ofEntity (.ofDialect .postgres) artist).toOption.map (fun t =>
        (t.entity, (t.columns.filter fun c => !c.isPrimary).isEmpty,
          "UPDATE " ++ tablePath .sqlite t ++ " SET " ++
            ", ".intercalate (((t.columns.filter fun c => !c.isPrimary).zipIdx 1).map fun (c, k) =>
              numberedAssignment .sqlite c.name k) ++
            " WHERE " ++ numberedAssignment .sqlite t.primary.name
              ((t.columns.filter fun c => !c.isPrimary).length + 1))) =
        some (artist.type, false,
          "UPDATE \"Artist\" SET \"name\" = $1, \"born\" = $2 WHERE \"id\" = $3") := by
      decide +kernel
    cases ht : Table.ofEntity (.ofDialect .postgres) artist with
    | error e =>
      rw [ht] at hshape
      cases hshape
    | ok t =>
      rw [ht] at hshape
      obtain ⟨hentity, hrest⟩ := Prod.mk.inj (Option.some.inj hshape)
      obtain ⟨hsome, htext⟩ := Prod.mk.inj hrest
      have hobtained : t.IsObtained := .declared ht
      obtain ⟨_, hreads⟩ := statements_bind_in_order.1 t hobtained
      obtain ⟨_, hupdate, _⟩ := hreads i .null .sqlite hentity.symm
      refine ⟨t, rfl, hobtained, hentity.symm, ?_⟩
      rcases hupdate with ⟨hnone, _⟩ | ⟨_, q, hq, hreads⟩
      · rw [hnone] at hsome
        cases hsome
      · exact ⟨q, hq, hreads.checked, hreads.text_eq.trans htext⟩
  · have hshape : (Procedure.ofEntity (.ofDialect .postgres) artist (some "music")).toOption.map
        (fun p => (p.args.all fun a => i.type = a.property.owner,
          "CALL " ++ p.path ++ "(" ++ numberedTokens p.args.length ++ ")")) =
        some (true, "CALL music.Artist($1, $2, $3)") := by
      decide +kernel
    cases hp : Procedure.ofEntity (.ofDialect .postgres) artist (some "music") with
    | error e =>
      rw [hp] at hshape
      cases hshape
    | ok p =>
      rw [hp] at hshape
      obtain ⟨howner, htext⟩ := Prod.mk.inj (Option.some.inj hshape)
      obtain ⟨hbuilt, _⟩ := statements_bind_in_order.2.2 _ artist _ p hp
      refine ⟨p, rfl, hbuilt, ?_⟩
      rcases statements_bind_in_order.2.1 p hbuilt i with ⟨⟨a, ha, hne⟩, _⟩ | ⟨q, hq, hreads⟩
      · have heq := List.all_eq_true.mp howner a ha
        exact absurd (of_decide_eq_true heq) hne
      · exact ⟨q, hq, hreads.checked, hreads.text_eq.trans htext⟩

end Statement

end RecordTables
