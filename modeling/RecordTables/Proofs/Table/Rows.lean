import RecordTables.Proofs.Mapper.Resolution
import RecordTables.Proofs.Serializer.Encoding
import RecordTables.Proofs.Statement.Binding

/-!
# Rows

A record becomes a row with one cell for each column, and a row is read cell by cell. A table whose
serializers are built in can write every record whose values have the declared types; what it has
written comes back as soon as every single value would.
-/

namespace RecordTables

theorem Mapper.valueType_eq_of_found? {m : Mapper} {owner : EntityType} {type : ValueType}
    {scope : List Serializer} {s : Serializer} (h : m.found? owner type scope = some s) :
    s.valueType = type := by
  rcases found?_eq_some h with hoverride | hserves
  · exact (override?_eq_some hoverride).2
  · rw [Serializer.serves, decide_eq_true_eq] at hserves
    exact hserves.1

private theorem Mapper.mem_builtins_of_found? {dialect : Dialect} {owner : EntityType}
    {type : ValueType}
    {s : Serializer} (h : (ofDialect dialect).found? owner type [] = some s) :
    s ∈ Serializer.builtins dialect := by
  have hfind : Registry.withBuiltins.find? type dialect = some s := h
  have hmem : s ∈ Registry.withBuiltins.serializers := List.mem_of_find?_eq_some hfind
  have hserves := List.find?_some hfind
  rw [Serializer.serves, decide_eq_true_eq] at hserves
  obtain ⟨other, _, hs⟩ := List.mem_flatMap.mp hmem
  rwa [← hserves.2, Serializer.dialect_of_builtin hs]

namespace Table

variable {t : Table} {c : Column}

theorem IsFresh.valueType_eq (h : t.IsFresh) (hc : c ∈ t.columns) :
    c.serializer.valueType = c.valueType := by
  obtain ⟨mapper, scope, entity, key, name, h⟩ := h
  obtain ⟨p, _, hstores⟩ := Check.exists_left_of_mem (columns_of_build h) hc
  rw [Column.valueType, hstores.property_eq]
  exact Mapper.valueType_eq_of_found? (Mapper.resolveProperty_eq_ok.mp hstores.serializer)

theorem IsObtained.valueType_eq (h : t.IsObtained) (hc : c ∈ t.columns) :
    c.serializer.valueType = c.valueType := by
  cases h with
  | built ht => exact IsFresh.valueType_eq ⟨_, _, _, _, _, ht⟩ hc
  | declared ht => exact (isFresh_of_ofEntity ht).valueType_eq hc
  | ofSchema hs ht =>
    obtain ⟨fresh, hfresh, _, hlinks⟩ := hs.exists_fresh ht
    obtain ⟨unlinked, hmem, hproperty, hserializer⟩ := hlinks.exists_unlinked hc
    rw [hserializer, Column.valueType, hproperty]
    exact hfresh.valueType_eq hmem

def UsesBuiltins (t : Table) : Prop :=
  ∀ c ∈ t.columns, ∃ dialect, c.serializer ∈ Serializer.builtins dialect

theorem mem_builtins_of_build {dialect : Dialect} {entity : Entity} {key : String}
    {name : Option String} (h : build (.ofDialect dialect) [] entity key name = .ok t)
    (hc : c ∈ t.columns) : c.serializer ∈ Serializer.builtins dialect := by
  obtain ⟨p, _, hstores⟩ := Check.exists_left_of_mem (columns_of_build h) hc
  exact Mapper.mem_builtins_of_found? (Mapper.resolveProperty_eq_ok.mp hstores.serializer)

private theorem usesBuiltins_of_build {dialect : Dialect} {entity : Entity} {key : String}
    {name : Option String} (h : build (.ofDialect dialect) [] entity key name = .ok t) :
    t.UsesBuiltins :=
  fun _ hc => ⟨dialect, mem_builtins_of_build h hc⟩

theorem mem_builtins_of_declared {dialect : Dialect} {d : SchemaDeclaration} {s : Schema}
    (hscope : d.serializers = []) (hs : d.build (.ofDialect dialect) = .ok s) (ht : t ∈ s.tables)
    (hc : c ∈ t.columns) : c.serializer ∈ Serializer.builtins dialect := by
  obtain ⟨_, _, fresh, _, hfresh, hlinks⟩ := Schema.exists_declaration_of_build hs ht
  rw [hscope] at hfresh
  obtain ⟨unlinked, hmem, _, hserializer⟩ := hlinks.exists_unlinked hc
  rw [hserializer]
  exact mem_builtins_of_build hfresh hmem

theorem usesBuiltins_of_declared {dialect : Dialect} {d : SchemaDeclaration} {s : Schema}
    (hscope : d.serializers = []) (hs : d.build (.ofDialect dialect) = .ok s) (ht : t ∈ s.tables) :
    t.UsesBuiltins :=
  fun _ hc => ⟨dialect, mem_builtins_of_declared hscope hs ht hc⟩

section Reading

variable {row : List DriverValue} {vs : List Value}

private theorem decodeRow_eq_error (h : row.length ≠ t.columns.length) :
    t.decodeRow row = .error (.rowWidth t.name t.columns.length row.length) := by
  rw [decodeRow, if_pos h]

private theorem decodeRow_eq (h : row.length = t.columns.length) :
    t.decodeRow row = (t.columns.zip row).mapM fun (c, d) => c.decode d := by
  have hwidth : ¬row.length ≠ t.columns.length := not_not.mpr h
  rw [decodeRow, if_neg hwidth]

private theorem decodeRow_eq_ok (h : row.length = t.columns.length) :
    t.decodeRow row = .ok vs ↔
      List.Forall₂ (fun cell v => cell.1.decode cell.2 = .ok v) (t.columns.zip row) vs := by
  rw [decodeRow_eq h]
  exact Check.mapM_eq_ok

private theorem exists_decodeRow_iff (h : row.length = t.columns.length) :
    (∃ vs, t.decodeRow row = .ok vs) ↔
      ∀ cell ∈ t.columns.zip row, ∃ v, cell.1.decode cell.2 = .ok v := by
  constructor
  · intro hvs cell hcell
    obtain ⟨vs, hvs⟩ := hvs
    obtain ⟨k, hk⟩ := List.mem_iff_getElem?.mp hcell
    obtain ⟨v, _, hv⟩ := Check.exists_right_of_getElem? ((decodeRow_eq_ok h).mp hvs) hk
    exact ⟨v, hv⟩
  · intro hcells
    rw [decodeRow_eq h]
    exact Check.exists_mapM hcells

end Reading

section Writing

variable {i : Instance} {row : List DriverValue}

private theorem encode_valueOf {d : DriverValue}
    (h : c.serializer.encode (c.property.getter i.fields) = .ok d) :
    (valueOf i c).encode = .ok d := by
  change (c.serializer.encode (c.property.getter i.fields)).mapError _ = _
  rw [h]
  rfl

private theorem decode_of_encode {d : DriverValue} (hencode : (valueOf i c).encode = .ok d)
    (hkeeps : c.serializer.Keeps (c.property.getter i.fields)) :
    c.decode d = .ok (c.property.getter i.fields) := by
  obtain ⟨other, hother, hdecode⟩ := hkeeps
  have heq : d = other := by
    rw [encode_valueOf hother] at hencode
    exact (Except.ok.inj hencode).symm
  rw [Column.decode, heq, hdecode]
  rfl

private theorem exists_encodedRow (ht : t.IsObtained) (hbuiltin : t.UsesBuiltins)
    (hfits : ∀ c ∈ t.columns, (c.property.getter i.fields).Fits c.valueType) :
    ∃ row, (t.columns.map (valueOf i)).mapM QueryValue.encode = .ok row := by
  rw [List.mapM_map]
  apply Check.exists_mapM
  intro c hc
  obtain ⟨dialect, hs⟩ := hbuiltin c hc
  have hv := hfits c hc
  rw [← ht.valueType_eq hc] at hv
  obtain ⟨d, hd⟩ := Serializer.exists_encode_eq_ok hs hv
  exact ⟨d, encode_valueOf hd⟩

private theorem encodes_cells (h : (t.columns.map (valueOf i)).mapM QueryValue.encode = .ok row) :
    List.Forall₂ (fun c d => (valueOf i c).encode = .ok d) t.columns row := by
  rw [List.mapM_map] at h
  exact Check.mapM_eq_ok.mp h

private theorem decodeRow_of_encode
    (h : (t.columns.map (valueOf i)).mapM QueryValue.encode = .ok row)
    (hkeeps : ∀ c ∈ t.columns, c.serializer.Keeps (c.property.getter i.fields)) :
    t.decodeRow row = .ok (t.columns.map fun c => c.property.getter i.fields) := by
  obtain ⟨hwidth, hcells⟩ := List.forall₂_iff_zip.mp (encodes_cells h)
  have hread : (t.columns.zip row).mapM (fun (c, d) => c.decode d) =
      .ok ((t.columns.zip row).map fun cell => cell.1.property.getter i.fields) := by
    apply Check.mapM_eq_map
    intro cell hcell
    have hmem : cell.1 ∈ t.columns := (List.of_mem_zip hcell).1
    exact decode_of_encode (hcells hcell) (hkeeps cell.1 hmem)
  have hcolumns : (t.columns.zip row).map Prod.fst = t.columns :=
    List.map_fst_zip hwidth.le
  rw [decodeRow_eq hwidth.symm, hread]
  conv_rhs => rw [← hcolumns, List.map_map]
  rfl

private theorem encodedValues_of_encode (sql : String)
    (h : (t.columns.map (valueOf i)).mapM QueryValue.encode = .ok row) :
    Query.encodedValues ⟨sql, t.columns.map (valueOf i)⟩ =
      .ok ((t.columns.map Column.wireType).zip row) := by
  have hcells := encodes_cells h
  rw [Query.encodedValues, List.mapM_map]
  clear h
  generalize t.columns = columns at hcells
  induction hcells with
  | nil => rfl
  | cons hcell _ ih =>
    rw [List.mapM_cons]
    exact Check.bind_eq_ok.mpr ⟨_, Check.bind_eq_ok.mpr ⟨_, hcell, rfl⟩,
      Check.bind_eq_ok.mpr ⟨_, ih, rfl⟩⟩

end Writing

/-- A table whose serializers are built in can write every record that has, for each of its
properties, a value of the declared type or none. No value is refused, the row is as wide as the
table, and reading it gives back the values of the record in the order of the columns as soon as
each serializer gives back its own. Whatever its serializers, a table refuses rows of any other
width, and reads one of its own width if and only if it reads every cell. Tables that are built over
the built-in serializers alone use no others. -/
theorem stored_rows_read_back :
    (∀ (t : Table) (i : Instance), t.IsObtained → t.UsesBuiltins → i.type = t.entity →
      (∀ c ∈ t.columns, (c.property.getter i.fields).Fits c.valueType) →
      ∃ values row, t.queryValues i true = .ok values ∧
        values.mapM QueryValue.encode = .ok row ∧ row.length = t.columns.length ∧
        (∀ sql, Query.encodedValues ⟨sql, values⟩ =
          .ok ((t.columns.map Column.wireType).zip row)) ∧
        ((∀ c ∈ t.columns, c.serializer.Keeps (c.property.getter i.fields)) →
          t.decodeRow row = .ok (t.columns.map fun c => c.property.getter i.fields))) ∧
    (∀ (t : Table) (row : List DriverValue),
      (row.length ≠ t.columns.length →
        t.decodeRow row = .error (.rowWidth t.name t.columns.length row.length)) ∧
      (row.length = t.columns.length →
        ((∃ vs, t.decodeRow row = .ok vs) ↔
          ∀ cell ∈ t.columns.zip row, ∃ v, cell.1.decode cell.2 = .ok v) ∧
        ∀ vs, t.decodeRow row = .ok vs ↔
          List.Forall₂ (fun cell v => cell.1.decode cell.2 = .ok v) (t.columns.zip row) vs)) ∧
    ∀ dialect : Dialect,
      (∀ entity key name t, build (.ofDialect dialect) [] entity key name = .ok t →
        t.IsObtained ∧ t.UsesBuiltins) ∧
      ∀ (d : SchemaDeclaration) (s : Schema), d.serializers = [] →
        d.build (.ofDialect dialect) = .ok s → ∀ t ∈ s.tables, t.IsObtained ∧ t.UsesBuiltins := by
  refine ⟨?_, ?_, ?_⟩
  · intro t i ht hbuiltin hi hfits
    obtain ⟨entity, hstores⟩ := ht.stores
    have hvalues : t.queryValues i true = .ok (t.columns.map (valueOf i)) := by
      have hall : t.columns.filter (fun c => true || !c.isPrimary) = t.columns :=
        List.filter_eq_self.mpr fun _ _ => Bool.true_or _
      rw [hstores.queryValues_eq hi true, hall]
    obtain ⟨row, hrow⟩ := exists_encodedRow ht hbuiltin hfits
    have hwidth : row.length = t.columns.length := (encodes_cells hrow).length_eq.symm
    refine ⟨_, row, hvalues, hrow, hwidth, ?_, decodeRow_of_encode hrow⟩
    intro sql
    exact encodedValues_of_encode sql hrow
  · intro t row
    refine ⟨decodeRow_eq_error, ?_⟩
    intro hwidth
    exact ⟨exists_decodeRow_iff hwidth, fun vs => decodeRow_eq_ok hwidth⟩
  · intro dialect
    refine ⟨?_, ?_⟩
    · intro entity key name t ht
      exact ⟨.built ht, usesBuiltins_of_build ht⟩
    · intro d s hscope hs t ht
      exact ⟨.ofSchema (.declared hs) ht, usesBuiltins_of_declared hscope hs ht⟩

/-- A key that the database is to make up is written and read as the absent value. -/
theorem stored_rows_read_back_of_artist :
    let id : Property := ⟨"id", .int64, true, false, none, fun fields => fields.headD .null⟩
    let name : Property :=
      ⟨"name", .text, false, true, none, fun fields => fields.tail.headD .null⟩
    let active : Property := ⟨"active", .bool, false, false, none, fun _ => .bool true⟩
    let artist : Entity := ⟨⟨0, "Artist"⟩, [id, name, active], some "id", none⟩
    let key : Column :=
      .ofKey ⟨id, artist.type⟩ ⟨.int64, .sqlite, "BIGINT", .bigInt, Codec.Sqlite.int64⟩
    let title : Column :=
      .ofProperty ⟨name, artist.type⟩ ⟨.text, .sqlite, "TEXT", .varchar, Codec.text⟩
    let flag : Column :=
      .ofProperty ⟨active, artist.type⟩ ⟨.bool, .sqlite, "BOOLEAN", .boolean, Codec.Sqlite.bool⟩
    let t : Table := ⟨artist.type, "Artist", [], key, [title, flag], none⟩
    let i : Instance := ⟨artist.type, [.null, .text "Who?"]⟩
    build (.ofDialect .sqlite) [] artist "id" none = .ok t ∧ t.IsObtained ∧
      t.UsesBuiltins ∧ i.type = t.entity ∧
      (∀ c ∈ t.columns, (c.property.getter i.fields).Fits c.valueType) ∧
      (∀ c ∈ t.columns, c.serializer.Keeps (c.property.getter i.fields)) ∧
      t.decodeRow [.null] = .error (.rowWidth "Artist" 3 1) ∧
      ∃ values row, t.queryValues i true = .ok values ∧
        values.mapM QueryValue.encode = .ok row ∧ row.length = 3 ∧
        t.decodeRow row = .ok [.null, .text "Who?", .bool true] := by
  intro id name active artist key title flag t i
  have ht : build (.ofDialect .sqlite) [] artist "id" none = .ok t := by
    have hartist : checkName "Artist" = .ok () := by with_unfolding_all rfl
    have hid : checkName "id" = .ok () := by with_unfolding_all rfl
    have hname : checkName "name" = .ok () := by with_unfolding_all rfl
    have hactive : checkName "active" = .ok () := by with_unfolding_all rfl
    have hkey : resolveColumn (.ofDialect .sqlite) [] .ofKey ⟨id, artist.type⟩ = .ok key :=
      resolveColumn_eq_ok.mpr ⟨hid, _, rfl, rfl⟩
    have htitle : resolveColumn (.ofDialect .sqlite) [] .ofProperty ⟨name, artist.type⟩ =
        .ok title := resolveColumn_eq_ok.mpr ⟨hname, _, rfl, rfl⟩
    have hflag : resolveColumn (.ofDialect .sqlite) [] .ofProperty ⟨active, artist.type⟩ =
        .ok flag := resolveColumn_eq_ok.mpr ⟨hactive, _, rfl, rfl⟩
    have hafter := Check.mapM_eq_ok.mpr (.cons htitle (.cons hflag .nil))
    refine Check.bind_eq_ok.mpr ⟨(), hartist, Check.bind_eq_ok.mpr ⟨(), rfl, ?_⟩⟩
    exact Check.bind_eq_ok.mpr ⟨[], rfl, Check.bind_eq_ok.mpr ⟨key, hkey,
      Check.bind_eq_ok.mpr ⟨[title, flag], hafter, rfl⟩⟩⟩
  obtain ⟨hobtained, hbuiltin⟩ := (stored_rows_read_back.2.2 .sqlite).1 _ _ _ _ ht
  have hall : ∀ P : Column → Prop, P key → P title → P flag → ∀ c ∈ t.columns, P c := by
    intro P hkey htitle hflag c hc
    rw [show t.columns = [key, title, flag] from rfl] at hc
    simp only [List.mem_cons, List.not_mem_nil, or_false] at hc
    rcases hc with hc | hc | hc
    · rwa [hc]
    · rwa [hc]
    · rwa [hc]
  have hfits := hall (fun c => (c.property.getter i.fields).Fits c.valueType)
    (.inl rfl) (.inr rfl) (.inr rfl)
  have hkeeps := hall (fun c => c.serializer.Keeps (c.property.getter i.fields))
    (Serializer.keeps_null _) ⟨_, rfl, rfl⟩ ⟨_, rfl, rfl⟩
  obtain ⟨values, row, hvalues, hrow, hwidth, _, hread⟩ :=
    stored_rows_read_back.1 t i hobtained hbuiltin rfl hfits
  have hnarrow := (stored_rows_read_back.2.1 t [.null]).1 (by decide)
  exact ⟨ht, hobtained, hbuiltin, rfl, hfits, hkeeps, hnarrow, values, row, hvalues, hrow, hwidth,
    hread hkeeps⟩

end Table

end RecordTables
