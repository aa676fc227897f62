import RecordTables.Proofs.Statement.Binding

/-!
# Records of other types

A statement refuses a record of another type than that of its table as soon as it reads a property.
Deletions and updates read one or find nothing to set. An insertion leaves out a key that the
database makes up, so into a table of nothing but such a key it takes any record.
-/

namespace RecordTables

namespace Table.Stores

variable {t : Table} {entity : Entity} {i : Instance} {c : Column}

private theorem value_eq_error (h : t.Stores entity) (hi : i.type ≠ t.entity) (hc : c ∈ t.columns) :
    c.value i = .error (.propertyAccess t.entity.name c.name) := by
  have howner := h.owner_eq hc
  rw [Column.value, OwnedProperty.read, howner, if_neg hi]
  rfl

private theorem queryValue_eq_error (h : t.Stores entity) (hi : i.type ≠ t.entity)
    (hc : c ∈ t.columns) :
    c.queryValue i = .error (.propertyAccess t.entity.name c.name) :=
  Check.bind_eq_error.mpr (.inl (h.value_eq_error hi hc))

private theorem queryValues_eq_error (h : t.Stores entity) (hi : i.type ≠ t.entity)
    {withPrimary : Bool}
    (hc : (t.columns.filter fun c => withPrimary || !c.isPrimary).head? = some c) :
    t.queryValues i withPrimary = .error (.propertyAccess t.entity.name c.name) := by
  obtain ⟨rest, hread⟩ := List.head?_eq_some_iff.mp hc
  have hmem : c ∈ t.columns := List.mem_of_mem_filter (List.mem_of_mem_head? hc)
  rw [queryValues, hread, List.mapM_cons]
  exact Check.bind_eq_error.mpr (.inl (h.queryValue_eq_error hi hmem))

private theorem filter_isAutoIncrement_eq_nil (h : t.Stores entity) :
    (t.columns.filter fun c => !c.isAutoIncrement) = [] ↔
      t.columns = [t.primary] ∧ t.primary.isAutoIncrement := by
  constructor
  · intro hnone
    have hall : ∀ c ∈ t.columns, c.isAutoIncrement := by
      simpa [List.filter_eq_nil_iff] using hnone
    -- All columns are made up by the database, but none of those around the key is.
    have hothers : t.before ++ t.after = [] := by
      apply List.eq_nil_iff_forall_not_mem.mpr
      intro c hc
      exact h.not_isAutoIncrement c hc (hall c (mem_columns.mpr (.inr hc)))
    obtain ⟨hbefore, hafter⟩ := List.append_eq_nil_iff.mp hothers
    exact ⟨by rw [columns, hbefore, hafter, List.nil_append], hall _ t.primary_mem_columns⟩
  · rintro ⟨hcolumns, hincrement⟩
    rw [hcolumns, List.filter_cons_of_neg (by simpa using hincrement), List.filter_nil]

end Table.Stores

namespace Statement

variable {t : Table} {entity : Entity} {i : Instance} {c : Column}

private theorem insert_eq_error (h : t.Stores entity) (hi : i.type ≠ t.entity) (dialect : Dialect)
    (hc : (t.columns.filter fun c => !c.isAutoIncrement).head? = some c) :
    insert dialect t i = .error (.propertyAccess t.entity.name c.name) := by
  rw [← h.filter_isAutoIncrement] at hc
  exact Check.bind_eq_error.mpr (.inl (h.queryValues_eq_error hi hc))

private theorem insert_eq_ok (h : t.Stores entity) (dialect : Dialect) (i : Instance)
    (hnone : (t.columns.filter fun c => !c.isAutoIncrement) = []) :
    insert dialect t i = .ok ⟨"INSERT INTO " ++ tablePath dialect t ++ " DEFAULT VALUES" ++
      (if dialect = .postgres then " RETURNING " ++ dialect.quoteIdentifier t.primary.name else ""),
      []⟩ := by
  have hincrement := (h.filter_isAutoIncrement_eq_nil.mp hnone).2
  rw [← h.filter_isAutoIncrement] at hnone
  refine Check.bind_eq_ok.mpr ⟨[], t.queryValues_eq_nil i hnone, ?_⟩
  simp only [hincrement, true_and]
  rfl

private theorem update_eq_error_of_other (h : t.Stores entity) (hi : i.type ≠ t.entity)
    (dialect : Dialect)
    (hc : (t.columns.filter fun c => !c.isPrimary).head? = some c) :
    update dialect t i = .error (.propertyAccess t.entity.name c.name) :=
  Check.bind_eq_error.mpr (.inl (h.queryValues_eq_error hi hc))

private theorem delete_eq_error (h : t.Stores entity) (hi : i.type ≠ t.entity) (dialect : Dialect) :
    delete dialect t i = .error (.propertyAccess t.entity.name t.primary.name) :=
  Check.bind_eq_error.mpr (.inl (h.value_eq_error hi t.primary_mem_columns))

/-- A record of another type is refused by the first column that a statement reads of it, whatever
the dialect. A deletion reads the key. An update reads the first column that it would set and has
nothing to set if there is none. An insertion reads the first column that it stores. It stores none
only in a table of nothing but a key that the database makes up; there it does not read the record,
and is the same for every record of whatever type. -/
theorem other_records_are_refused_where_read :
    ∀ t : Table, t.IsObtained → ∀ (i : Instance) (dialect : Dialect), i.type ≠ t.entity →
      let stored := t.columns.filter fun c => !c.isAutoIncrement
      let changed := t.columns.filter fun c => !c.isPrimary
      (∀ c, stored.head? = some c →
        insert dialect t i = .error (.propertyAccess t.entity.name c.name)) ∧
      (stored = [] ↔ t.columns = [t.primary] ∧ t.primary.isAutoIncrement) ∧
      (stored = [] → ∃ q : Query, q.values = [] ∧
        ∀ other : Instance, insert dialect t other = .ok q) ∧
      (∀ c, changed.head? = some c →
        update dialect t i = .error (.propertyAccess t.entity.name c.name)) ∧
      (changed = [] → update dialect t i = .error (.emptyEntity t.entity.name)) ∧
      delete dialect t i = .error (.propertyAccess t.entity.name t.primary.name) := by
  intro t ht i dialect hi stored changed
  obtain ⟨entity, h⟩ := ht.stores
  refine ⟨fun c hc => insert_eq_error h hi dialect hc, h.filter_isAutoIncrement_eq_nil, ?_,
    fun c hc => update_eq_error_of_other h hi dialect hc, update_eq_error dialect i,
    delete_eq_error h hi dialect⟩
  intro hnone
  exact ⟨_, rfl, fun other => insert_eq_ok h dialect other hnone⟩

/-- An album is no artist, even if it has the fields of one. -/
theorem other_records_are_refused_where_read_of_artist :
    let artist : Entity := ⟨⟨0, "Artist"⟩, [
      ⟨"id", .int64, true, false, none, fun fields => fields.headD .null⟩,
      ⟨"name", .text, false, true, none, fun fields => fields.tail.headD .null⟩], some "id", none⟩
    let album : Instance := ⟨⟨1, "Album"⟩, [.null, .text "Who Are You"]⟩
    ∃ t, Table.ofEntity (.ofDialect .postgres) artist = .ok t ∧ t.IsObtained ∧
      album.type ≠ t.entity ∧
      insert .postgres t album = .error (.propertyAccess "Artist" "name") ∧
      update .postgres t album = .error (.propertyAccess "Artist" "name") ∧
      delete .postgres t album = .error (.propertyAccess "Artist" "id") := by
  intro artist album
  have hshape : (Table.ofEntity (.ofDialect .postgres) artist).toOption.map (fun t =>
      (t.entity, (t.columns.filter fun c => !c.isAutoIncrement).map Column.name,
        (t.columns.filter fun c => !c.isPrimary).map Column.name, t.primary.name)) =
      some (artist.type, ["name"], ["name"], "id") := by
    decide +kernel
  obtain ⟨t, ht, hparts⟩ := Check.exists_of_toOption hshape
  simp only [Prod.mk.injEq] at hparts
  obtain ⟨hentity, hstored, hchanged, hkey⟩ := hparts
  have hobtained : t.IsObtained := .declared ht
  have hother : album.type ≠ t.entity := by
    rw [hentity]
    decide
  obtain ⟨hinsert, -, -, hupdate, -, hdelete⟩ :=
    other_records_are_refused_where_read t hobtained album .postgres hother
  obtain ⟨c, hc, hname⟩ := List.map_eq_singleton_iff.mp hstored
  have hinserted := hinsert c (by rw [hc, List.head?_cons])
  obtain ⟨d, hd, hset⟩ := List.map_eq_singleton_iff.mp hchanged
  have hupdated := hupdate d (by rw [hd, List.head?_cons])
  rw [hentity, hname] at hinserted
  rw [hentity, hset] at hupdated
  rw [hentity, hkey] at hdelete
  exact ⟨t, ht, hobtained, hother, hinserted, hupdated, hdelete⟩

/-- A counter has nothing but a number that the database makes up. An artist is inserted as one. -/
theorem artist_is_inserted_as_counter :
    let counter : Entity :=
      ⟨⟨0, "Counter"⟩, [⟨"id", .int32, true, false, none, fun fields => fields.headD .null⟩],
        some "id", none⟩
    let artist : Instance := ⟨⟨1, "Artist"⟩, [.int32 1, .text "Who"]⟩
    ∃ t q, Table.ofEntity (.ofDialect .sqlite) counter = .ok t ∧ t.IsObtained ∧
      artist.type ≠ t.entity ∧ insert .sqlite t artist = .ok q ∧
      q.sql = "INSERT INTO \"Counter\" DEFAULT VALUES" := by
  intro counter artist
  have hshape : (Table.ofEntity (.ofDialect .sqlite) counter).toOption.map (fun t =>
      (t.entity, (insert .sqlite t artist).toOption.map fun q => q.sql)) =
      some (counter.type, some "INSERT INTO \"Counter\" DEFAULT VALUES") := by
    decide +kernel
  obtain ⟨t, ht, hparts⟩ := Check.exists_of_toOption hshape
  obtain ⟨hentity, hinsert⟩ := Prod.mk.inj hparts
  obtain ⟨q, hq, hsql⟩ := Check.exists_of_toOption hinsert
  have hother : artist.type ≠ t.entity := by
    rw [hentity]
    decide
  exact ⟨t, q, ht, .declared ht, hother, hq, hsql⟩

end Statement

end RecordTables
