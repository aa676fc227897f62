import RecordTables.Proofs.Table.Rows

/-!
# How foreign keys are stored

A column has the serializer that the mapper finds for its own owner and type. A foreign key has the
type of the key that it references, but another owner, so the two are stored alike as long as no
override tells their owners apart.
-/

namespace RecordTables.Schema

variable {d : SchemaDeclaration} {m : Mapper} {s : Schema} {t : Table} {c : Column}

private theorem found?_of_build (hs : d.build m = .ok s) (ht : t ∈ s.tables) (hc : c ∈ t.columns) :
    m.found? c.owner c.valueType d.serializers = some c.serializer := by
  obtain ⟨declaration, _, fresh, _, hfresh, hlinks⟩ := exists_declaration_of_build hs ht
  obtain ⟨unlinked, hunlinked, hproperty, hserializer⟩ := hlinks.exists_unlinked hc
  obtain ⟨p, _, hstores⟩ := Check.exists_left_of_mem (Table.columns_of_build hfresh) hunlinked
  have hfound := Mapper.resolveProperty_eq_ok.mp hstores.serializer
  rw [Column.owner, Column.valueType, hproperty, hserializer, hstores.property_eq]
  exact hfound

private theorem owner_eq_of_build (hs : d.build m = .ok s) (ht : t ∈ s.tables)
    (hc : c ∈ t.columns) :
    c.owner = t.entity := by
  have hlinked := (IsBuilt.declared hs).isLinked
  obtain ⟨entity, hstores⟩ := hlinked.stores t ht
  exact hstores.owner_eq hc

private theorem exists_key_of_build (hs : d.build m = .ok s) (ht : t ∈ s.tables)
    (hc : c ∈ t.foreignColumns) :
    ∃ target, s.foreignTable c = .ok target ∧ target ∈ s.tables ∧
      c.references? = some target.entity ∧ target.primary.valueType = c.valueType ∧
      m.found? t.entity c.valueType d.serializers = some c.serializer ∧
      m.found? target.entity c.valueType d.serializers = some target.primary.serializer := by
  obtain ⟨hmem, hforeign⟩ := List.mem_filter.mp hc
  obtain ⟨references, href⟩ := Option.isSome_iff_exists.mp hforeign
  have hlinked := (IsBuilt.declared hs).isLinked
  obtain ⟨target, htarget, htables, honly, htype⟩ := hlinked.exists_foreignTable ht hmem href
  have hentity : target.entity = references := (honly target htables).mpr rfl
  have hkey := target.primary_mem_columns
  refine ⟨target, htarget, htables, by rw [href, hentity], htype, ?_, ?_⟩
  · rw [← owner_eq_of_build hs ht hmem]
    exact found?_of_build hs ht hmem
  · rw [← owner_eq_of_build hs htables hkey, ← htype]
    exact found?_of_build hs htables hkey

private theorem encode_bind (c : Column) (v : Value) :
    (c.bind v).encode = (c.serializer.encode v).mapError .serializer := rfl

/-- Every foreign key of a declared schema leads to a table whose key has its type, and each of the
two has the serializer that the mapper finds for its own owner. If the mapper has no override for
that type and either owner, or the same one for both, then the foreign key and the key have the same
wire type and encode every value alike. -/
theorem foreign_keys_are_stored_as_keys (hs : d.build m = .ok s) (ht : t ∈ s.tables)
    (hc : c ∈ t.foreignColumns) :
    ∃ target, s.foreignTable c = .ok target ∧ target ∈ s.tables ∧
      c.references? = some target.entity ∧ target.primary.valueType = c.valueType ∧
      m.lookup t.entity c.valueType d.serializers = .ok c.serializer ∧
      m.lookup target.entity c.valueType d.serializers = .ok target.primary.serializer ∧
      (m.override? t.entity c.valueType = m.override? target.entity c.valueType →
        c.wireType = target.primary.wireType ∧
        ∀ v, (c.bind v).encode = (target.primary.bind v).encode) := by
  obtain ⟨target, htarget, hmem, href, htype, hcolumn, hkey⟩ := exists_key_of_build hs ht hc
  refine ⟨target, htarget, hmem, href, htype, Mapper.lookup_eq_ok.mpr hcolumn,
    Mapper.lookup_eq_ok.mpr hkey, ?_⟩
  intro hoverride
  have heq : c.serializer = target.primary.serializer := by
    rw [Mapper.found?, hoverride, ← Mapper.found?, hkey] at hcolumn
    exact (Option.some.inj hcolumn).symm
  refine ⟨?_, ?_⟩
  · rw [Column.wireType, Column.wireType, heq]
  · intro v
    rw [encode_bind, encode_bind, heq]

/-- Categories form a tree. A category and its parent have the same override. -/
theorem foreign_keys_are_stored_as_keys_in_tree :
    let category : EntityType := ⟨0, "Category"⟩
    let octets : Serializer := ⟨.uuid, .sqlite, "BLOB", .binary, Codec.Postgres.uuid⟩
    let d : SchemaDeclaration := ⟨"shop", [], [⟨⟨category, [
      ⟨"id", .uuid, false, false, none, fun fields => fields.headD .null⟩,
      ⟨"parent", .uuid, true, false, some category, fun fields => fields.tail.headD .null⟩],
      none, none⟩, "id", none⟩]⟩
    ∃ m s t c target, (Mapper.ofDialect .sqlite).registerOverride category octets = .ok m ∧
      d.build m = .ok s ∧ t ∈ s.tables ∧ c ∈ t.foreignColumns ∧ s.foreignTable c = .ok target ∧
      m.override? t.entity c.valueType = m.override? target.entity c.valueType ∧
      c.wireType = .binary ∧ target.primary.wireType = .binary ∧
      ∀ v, (c.bind v).encode = (target.primary.bind v).encode := by
  intro category octets d
  let m : Mapper := { Mapper.ofDialect .sqlite with overrides := [⟨category, octets⟩] }
  have hshape : (d.build m).toOption.map
      (fun s => s.tables.map fun t => t.foreignColumns.map Column.wireType) =
        some [[.binary]] := by decide +kernel
  obtain ⟨s, hs, htables⟩ := Check.exists_of_toOption hshape
  obtain ⟨t, ht, hcolumns⟩ := List.map_eq_singleton_iff.mp htables
  obtain ⟨c, hc, hbinary⟩ := List.map_eq_singleton_iff.mp hcolumns
  have htmem : t ∈ s.tables := by simp [ht]
  have hcmem : c ∈ t.foreignColumns := by simp [hc]
  obtain ⟨target, htarget, hmem, _, _, _, _, halike⟩ :=
    foreign_keys_are_stored_as_keys hs htmem hcmem
  -- There is no other table, so the key is that of the same table.
  have hself : target = t := by simpa [ht] using hmem
  have hoverride : m.override? t.entity c.valueType = m.override? target.entity c.valueType := by
    rw [hself]
  obtain ⟨hwire, hencode⟩ := halike hoverride
  rw [hbinary] at hwire
  exact ⟨m, s, t, c, target, rfl, hs, htmem, hcmem, htarget, hoverride, hbinary, hwire.symm,
    hencode⟩

/-- Artists have an override for their keys. Albums refer to them without it. -/
theorem foreign_key_is_stored_unlike_key :
    let artist : EntityType := ⟨0, "Artist"⟩
    let album : EntityType := ⟨1, "Album"⟩
    let octets : Serializer := ⟨.uuid, .sqlite, "BLOB", .binary, Codec.Postgres.uuid⟩
    let key : Property := ⟨"id", .uuid, false, false, none, fun fields => fields.headD .null⟩
    let d : SchemaDeclaration := ⟨"music", [], [
      ⟨⟨artist, [key], none, none⟩, "id", none⟩,
      ⟨⟨album, [key, ⟨"artist_id", .uuid, false, false, some artist,
        fun fields => fields.tail.headD .null⟩], none, none⟩, "id", none⟩]⟩
    ∃ m s t c target, (Mapper.ofDialect .sqlite).registerOverride artist octets = .ok m ∧
      d.build m = .ok s ∧ t ∈ s.tables ∧ c ∈ t.foreignColumns ∧ s.foreignTable c = .ok target ∧
      c.wireType ≠ target.primary.wireType ∧
      ∃ v, (c.bind v).encode ≠ (target.primary.bind v).encode := by
  intro artist album octets key d
  let m : Mapper := { Mapper.ofDialect .sqlite with overrides := [⟨artist, octets⟩] }
  let nil : Value := .uuid ⟨List.replicate 16 0, rfl⟩
  have hshape : (d.build m).toOption.map (fun s => s.tables.map fun t =>
      (t.entity, t.foreignColumns.map fun c => (c.valueType, c.references?))) =
        some [(artist, []), (album, [(.uuid, some artist)])] := by decide +kernel
  obtain ⟨s, hs, htables⟩ := Check.exists_of_toOption hshape
  obtain ⟨t, ht, htable⟩ := List.mem_map.mp (htables ▸ List.mem_cons_of_mem _ List.mem_cons_self)
  obtain ⟨hentity, hcolumns⟩ := Prod.mk.inj htable
  obtain ⟨c, hc, hcolumn⟩ := List.map_eq_singleton_iff.mp hcolumns
  obtain ⟨htype, href⟩ := Prod.mk.inj hcolumn
  have hcmem : c ∈ t.foreignColumns := by simp [hc]
  obtain ⟨target, htarget, _, hreferenced, _, hforeign, hkey⟩ := exists_key_of_build hs ht hcmem
  have hartist : target.entity = artist := Option.some.inj (hreferenced.symm.trans href)
  rw [htype, hentity] at hforeign
  rw [htype, hartist] at hkey
  have hkeyed : target.primary.serializer = octets := (Option.some.inj hkey).symm
  have hbuiltin : c.serializer = ⟨.uuid, .sqlite, "CHAR(36)", .uuid, Codec.Sqlite.uuid⟩ :=
    (Option.some.inj hforeign).symm
  refine ⟨m, s, t, c, target, rfl, hs, ht, hcmem, htarget, ?_, nil, ?_⟩
  · rw [Column.wireType, Column.wireType, hkeyed, hbuiltin]
    decide
  · rw [encode_bind, encode_bind, hkeyed, hbuiltin]
    intro h
    cases h

end RecordTables.Schema
