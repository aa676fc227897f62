import RecordTables.Proofs.Session.Registration

/-!
# Finding tables

The table of an entity type is that of the default schema, or else that of the schema registered
first among those that have one. The order of registration therefore does not matter where the
default schema has a table of the type, nor where no two schemas do.
-/

namespace RecordTables

namespace Schema

variable {s : Schema} {type : EntityType} {t : Table}

def Maps (s : Schema) (type : EntityType) : Prop :=
  ∃ t ∈ s.tables, t.entity = type

/-- The table is the first of the entity type in its schema. -/
def MapsTo (s : Schema) (type : EntityType) (t : Table) : Prop :=
  ∃ before after, s.tables = before ++ t :: after ∧ t.entity = type ∧
    ∀ earlier ∈ before, earlier.entity ≠ type

private theorem tableFor?_eq_some_iff : s.tableFor? type = some t ↔ s.MapsTo type t := by
  rw [tableFor?, List.find?_eq_some_iff_append]
  simp only [decide_eq_true_eq, MapsTo, Bool.not_eq_true', decide_eq_false_iff_not]
  constructor
  · intro h
    obtain ⟨hentity, before, after, hsplit, hbefore⟩ := h
    exact ⟨before, after, hsplit, hentity, hbefore⟩
  · intro h
    obtain ⟨before, after, hsplit, hentity, hbefore⟩ := h
    exact ⟨hentity, before, after, hsplit, hbefore⟩

private theorem tableFor?_eq_none_iff : s.tableFor? type = none ↔ ¬s.Maps type := by
  simp [tableFor?, Maps]

private theorem maps_iff : s.Maps type ↔ ∃ t, s.MapsTo type t := by
  rw [← not_iff_not, ← tableFor?_eq_none_iff, Option.eq_none_iff_forall_ne_some, not_exists]
  simp only [ne_eq, tableFor?_eq_some_iff]

private theorem IsBuilt.mapsTo_iff (h : s.IsBuilt) :
    s.MapsTo type t ↔ t ∈ s.tables ∧ t.entity = type := by
  rw [← tableFor?_eq_some_iff]
  exact find?_key_eq_some_iff h.isLinked.entities

end Schema

namespace Session

variable {s other : Session} {type : EntityType} {t : Table}

/-- Where a session finds the table of an entity type. -/
inductive Finds (s : Session) (type : EntityType) (t : Table) : Prop
  | inDefault {schema : Schema} (hschema : schema ∈ s.schemas)
      (hname : schema.name = s.defaultSchema) (ht : schema.MapsTo type t)
  | inFirst {before after : List Schema} {schema : Schema}
      (hdefault : ∀ d ∈ s.schemas, d.name = s.defaultSchema → ¬d.Maps type)
      (hsplit : s.schemas = before ++ schema :: after)
      (hbefore : ∀ earlier ∈ before, ¬earlier.Maps type) (ht : schema.MapsTo type t)

private theorem defaultTable?_eq_some_iff (hn : s.schemaNames.Nodup) :
    s.defaultTable? type = some t ↔
      ∃ schema ∈ s.schemas, schema.name = s.defaultSchema ∧ schema.MapsTo type t := by
  rw [defaultTable?, Option.bind_eq_some_iff]
  simp only [find?_key_eq_some_iff hn, Schema.tableFor?_eq_some_iff, and_assoc]

private theorem defaultTable?_eq_none_iff (hn : s.schemaNames.Nodup) :
    s.defaultTable? type = none ↔
      ∀ schema ∈ s.schemas, schema.name = s.defaultSchema → ¬schema.Maps type := by
  rw [Option.eq_none_iff_forall_ne_some]
  simp only [ne_eq, defaultTable?_eq_some_iff hn, Schema.maps_iff]
  constructor
  · intro h schema hschema hname ht
    obtain ⟨t, ht⟩ := ht
    exact h t ⟨schema, hschema, hname, ht⟩
  · intro h t ht
    obtain ⟨schema, hschema, hname, ht⟩ := ht
    exact h schema hschema hname ⟨t, ht⟩

private theorem firstTable?_eq_some_iff :
    s.firstTable? type = some t ↔ ∃ before schema after, s.schemas = before ++ schema :: after ∧
      schema.MapsTo type t ∧ ∀ earlier ∈ before, ¬earlier.Maps type := by
  simp only [firstTable?, List.findSome?_eq_some_iff, Schema.tableFor?_eq_some_iff,
    Schema.tableFor?_eq_none_iff]

private theorem firstTable?_eq_none_iff :
    s.firstTable? type = none ↔ ∀ schema ∈ s.schemas, ¬schema.Maps type := by
  simp only [firstTable?, List.findSome?_eq_none_iff, Schema.tableFor?_eq_none_iff]

private theorem table_eq_ok_iff (hn : s.schemaNames.Nodup) :
    s.table type = .ok t ↔ s.Finds type t := by
  have htable : s.table type = .ok t ↔ s.defaultTable? type = some t ∨
      s.defaultTable? type = none ∧ s.firstTable? type = some t := by
    rw [table]
    cases s.defaultTable? type <;> cases s.firstTable? type <;> simp
  rw [htable, defaultTable?_eq_some_iff hn, defaultTable?_eq_none_iff hn, firstTable?_eq_some_iff]
  constructor
  · intro h
    rcases h with ⟨schema, hschema, hname, ht⟩ | ⟨hdefault, hfirst⟩
    · exact .inDefault hschema hname ht
    · obtain ⟨before, schema, after, hsplit, ht, hbefore⟩ := hfirst
      exact .inFirst hdefault hsplit hbefore ht
  · intro h
    cases h with
    | inDefault hschema hname ht => exact .inl ⟨_, hschema, hname, ht⟩
    | inFirst hdefault hsplit hbefore ht =>
      exact .inr ⟨hdefault, _, _, _, hsplit, ht, hbefore⟩

private theorem table_eq_error_iff (hn : s.schemaNames.Nodup) {e : SessionError} :
    s.table type = .error e ↔
      (∀ schema ∈ s.schemas, ¬schema.Maps type) ∧ e = .mapping (.unknownTable type.name) := by
  have htable : s.table type = .error e ↔
      (s.defaultTable? type = none ∧ s.firstTable? type = none) ∧
        e = .mapping (.unknownTable type.name) := by
    rw [table]
    cases s.defaultTable? type <;> cases s.firstTable? type <;> simp [eq_comm]
  rw [htable, defaultTable?_eq_none_iff hn, firstTable?_eq_none_iff]
  apply and_congr_left
  intro _
  exact ⟨And.right, fun h => ⟨fun schema hschema _ => h schema hschema, h⟩⟩

/-- The order of the schemas does not matter where the default schema has a table of the type, and
neither where just one schema does. -/
private theorem Finds.of_perm (hperm : s.schemas.Perm other.schemas)
    (hdefault : s.defaultSchema = other.defaultSchema)
    (hone : (∃ d ∈ s.schemas, d.name = s.defaultSchema ∧ d.Maps type) ∨
      ∀ d ∈ s.schemas, ∀ d' ∈ s.schemas, d.Maps type → d'.Maps type → d = d')
    (h : s.Finds type t) : other.Finds type t := by
  cases h with
  | inDefault hschema hname ht =>
    exact .inDefault (hperm.mem_iff.mp hschema) (hname.trans hdefault) ht
  | @inFirst before after schema hnone hsplit hbefore ht =>
    have hmaps : schema.Maps type := Schema.maps_iff.mpr ⟨t, ht⟩
    have hmem : schema ∈ s.schemas := by
      rw [hsplit]
      exact List.mem_append_right _ List.mem_cons_self
    rcases hone with ⟨d, hd, hname, hd'⟩ | hone
    · exact absurd hd' (hnone d hd hname)
    · obtain ⟨before', after', hsplit', hfresh⟩ :=
        List.eq_append_cons_of_mem (hperm.mem_iff.mp hmem)
      refine .inFirst ?_ hsplit' ?_ ht
      · intro d hd hname
        exact hnone d (hperm.mem_iff.mpr hd) (hname.trans hdefault.symm)
      · intro earlier hearlier hearlier'
        have hmem' : earlier ∈ other.schemas := by
          rw [hsplit']
          exact List.mem_append_left _ hearlier
        have hsame := hone earlier (hperm.mem_iff.mpr hmem') schema hmem hearlier' hmaps
        rw [hsame] at hearlier
        exact hfresh hearlier

private theorem table_eq_of_perm (hn : s.schemaNames.Nodup) (hperm : s.schemas.Perm other.schemas)
    (hdefault : s.defaultSchema = other.defaultSchema)
    (hone : (∃ d ∈ s.schemas, d.name = s.defaultSchema ∧ d.Maps type) ∨
      ∀ d ∈ s.schemas, ∀ d' ∈ s.schemas, d.Maps type → d'.Maps type → d = d') :
    s.table type = other.table type := by
  have hn' : other.schemaNames.Nodup := (hperm.map Schema.name).nodup_iff.mp hn
  cases h : s.table type with
  | ok t =>
    have hfinds := ((table_eq_ok_iff hn).mp h).of_perm hperm hdefault hone
    exact ((table_eq_ok_iff hn').mpr hfinds).symm
  | error e =>
    obtain ⟨hnone, he⟩ := (table_eq_error_iff hn).mp h
    have hnone' : ∀ schema ∈ other.schemas, ¬schema.Maps type := by
      intro schema hschema
      exact hnone schema (hperm.mem_iff.mpr hschema)
    exact ((table_eq_error_iff hn').mpr ⟨hnone', he⟩).symm

private theorem attempts_schemas_perm {calls later : List Schema} (hs : s.schemas = [])
    (hperm : calls.Perm later) (hn : (calls.map Schema.name).Nodup) :
    (s.attempts calls).2.schemas.Perm (s.attempts later).2.schemas := by
  have hfree : ∀ name, name ∉ s.schemaNames := by
    rw [schemaNames, hs]
    exact fun _ => List.not_mem_nil
  have hn' : (later.map Schema.name).Nodup := (hperm.map Schema.name).nodup_iff.mp hn
  rw [attempts_schemas_of_nodup hn fun call _ => hfree call.name,
    attempts_schemas_of_nodup hn' fun call _ => hfree call.name]
  exact (hperm.filter _).append_left s.schemas

/-- Whatever schemas were offered to an open session, it finds the table of an entity type in the
default schema if that has one, else in the schema registered first among those that have one, and
it fails if and only if no registered schema has one. Two sessions with the same schemas find the
same table, whatever the order of registration, if the default schema has a table of the type or if
no two schemas have one. They do have the same schemas if the same were offered in another order,
with no name twice. In a schema that comes about, the table of an entity type is the only one. -/
theorem tables_are_found_in_order (config : AppConfig) (mapper : Mapper) (s : Session)
    (h : connect config mapper = .ok s) :
    (∀ (calls : List Schema) (type : EntityType),
      let last := (s.attempts calls).2
      last.defaultSchema = config.mapper.defaultSchema ∧
      (∀ t, last.table type = .ok t ↔ last.Finds type t) ∧
      ∀ e, last.table type = .error e ↔
        (∀ schema ∈ last.schemas, ¬schema.Maps type) ∧
          e = .mapping (.unknownTable type.name)) ∧
    (∀ (calls later : List Schema) (type : EntityType),
      let a := (s.attempts calls).2
      let b := (s.attempts later).2
      a.schemas.Perm b.schemas →
      ((∃ d ∈ a.schemas, d.name = config.mapper.defaultSchema ∧ d.Maps type) ∨
        ∀ d ∈ a.schemas, ∀ d' ∈ a.schemas, d.Maps type → d'.Maps type → d = d') →
      a.table type = b.table type) ∧
    (∀ calls later : List Schema, calls.Perm later → (calls.map Schema.name).Nodup →
      (s.attempts calls).2.schemas.Perm (s.attempts later).2.schemas) ∧
    ∀ schema : Schema, schema.IsBuilt → ∀ type t,
      schema.MapsTo type t ↔ t ∈ schema.tables ∧ t.entity = type := by
  obtain ⟨_, hnone, hdefault⟩ := connect_eq_ok h
  have hkept : ∀ calls, (s.attempts calls).2.defaultSchema = config.mapper.defaultSchema := by
    intro calls
    rw [attempts_eq]
    exact hdefault
  have hnames : ∀ calls, (s.attempts calls).2.schemaNames.Nodup := by
    intro calls
    exact ((isOrderly_of_connect h).attempts calls).names
  refine ⟨?_, ?_, ?_, ?_⟩
  · intro calls type last
    exact ⟨hkept calls, fun t => table_eq_ok_iff (hnames calls),
      fun e => table_eq_error_iff (hnames calls)⟩
  · intro calls later type a b hperm hone
    rw [← hkept calls] at hone
    exact table_eq_of_perm (hnames calls) hperm ((hkept calls).trans (hkept later).symm) hone
  · intro calls later hperm hn
    exact attempts_schemas_perm hnone hperm hn
  · intro schema hschema type t
    exact hschema.mapsTo_iff

/-- Artists are found in the default schema and albums in the other one, whichever of the two was
registered first. -/
theorem tables_are_found_in_order_of_artist :
    let artist : EntityType := ⟨0, "Artist"⟩
    let album : EntityType := ⟨1, "Album"⟩
    let label : EntityType := ⟨2, "Label"⟩
    let id : Property := ⟨"id", .int64, false, false, none, fun fields => fields.headD .null⟩
    let mapper := Mapper.ofDialect .sqlite
    let declared (name : String) (types : List EntityType) : SchemaDeclaration :=
      ⟨name, [], types.map fun type => ⟨⟨type, [id], some "id", none⟩, "id", none⟩⟩
    let integer : Serializer := ⟨.int64, .sqlite, "BIGINT", .bigInt, Codec.Sqlite.int64⟩
    let fresh (type : EntityType) : Table :=
      ⟨type, type.name, [], .ofKey ⟨id, type⟩ integer, [], none⟩
    let stored (type : EntityType) (schema : String) : Table :=
      { fresh type with schema := some schema }
    let main : Schema := ⟨"main", [stored artist "main"], [], []⟩
    let media : Schema := ⟨"media", [stored artist "media", stored album "media"], [], []⟩
    let config : AppConfig := ⟨.sqlite ":memory:", { dialect := .sqlite }⟩
    (declared "main" [artist]).build mapper = .ok main ∧
      (declared "media" [artist, album]).build mapper = .ok media ∧
      ∃ s, connect config mapper = .ok s ∧
        (s.attempts [media, main]).2.schemas.Perm (s.attempts [main, media]).2.schemas ∧
        (s.attempts [media, main]).2.table artist = .ok (stored artist "main") ∧
        (s.attempts [main, media]).2.table artist = .ok (stored artist "main") ∧
        (s.attempts [media, main]).2.table album = .ok (stored album "media") ∧
        (s.attempts [main, media]).2.table label = .error (.mapping (.unknownTable "Label")) ∧
        ∀ t, main.MapsTo artist t ↔ t ∈ main.tables ∧ t.entity = artist := by
  intro artist album label id mapper declared integer fresh stored main media config
  have hfresh : ∀ type : EntityType, checkName type.name = .ok () →
      Table.build mapper [] ⟨type, [id], some "id", none⟩ "id" none = .ok (fresh type) := by
    intro type htype
    have hid : checkName "id" = .ok () := by with_unfolding_all rfl
    have hkey : Table.resolveColumn mapper [] .ofKey ⟨id, type⟩ = .ok (.ofKey ⟨id, type⟩ integer) :=
      Table.resolveColumn_eq_ok.mpr ⟨hid, _, rfl, rfl⟩
    refine Check.bind_eq_ok.mpr ⟨(), htype, Check.bind_eq_ok.mpr ⟨(), rfl, ?_⟩⟩
    exact Check.bind_eq_ok.mpr ⟨[], rfl, Check.bind_eq_ok.mpr ⟨_, hkey, rfl⟩⟩
  have hartist : checkName "Artist" = .ok () := by with_unfolding_all rfl
  have halbum : checkName "Album" = .ok () := by with_unfolding_all rfl
  have hmain : (declared "main" [artist]).build mapper = .ok main := by
    have hname : checkName "main" = .ok () := by with_unfolding_all rfl
    have htables : (declared "main" [artist]).tables.mapM
        (fun d => Table.build mapper [] d.entity d.key d.name) = .ok [fresh artist] :=
      Check.mapM_eq_ok.mpr (.cons (hfresh artist hartist) .nil)
    exact Check.bind_eq_ok.mpr ⟨_, htables, Check.bind_eq_ok.mpr ⟨(), hname, rfl⟩⟩
  have hmedia : (declared "media" [artist, album]).build mapper = .ok media := by
    have hname : checkName "media" = .ok () := by with_unfolding_all rfl
    have htables : (declared "media" [artist, album]).tables.mapM
        (fun d => Table.build mapper [] d.entity d.key d.name) =
          .ok [fresh artist, fresh album] :=
      Check.mapM_eq_ok.mpr (.cons (hfresh artist hartist) (.cons (hfresh album halbum) .nil))
    exact Check.bind_eq_ok.mpr ⟨_, htables, Check.bind_eq_ok.mpr ⟨(), hname, rfl⟩⟩
  obtain ⟨s, hs, heq⟩ : ∃ s, connect config mapper = .ok s ∧
      s = ⟨.sqlite, mapper, rfl, false, [], "main"⟩ := ⟨_, rfl, rfl⟩
  obtain ⟨hfound, hsame, hperm, honly⟩ := tables_are_found_in_order config mapper s hs
  have hschemas : (s.attempts [media, main]).2.schemas = [media, main] := by
    rw [heq]
    rfl
  have hschemas' : (s.attempts [main, media]).2.schemas = [main, media] := by
    rw [heq]
    rfl
  have hperm := hperm [media, main] [main, media] (.swap _ _ _) (by decide)
  have hmem : main ∈ (s.attempts [media, main]).2.schemas := by
    rw [hschemas]
    exact List.mem_cons_of_mem _ List.mem_cons_self
  have hdefault := (hfound [media, main] artist).1
  have hartist : (s.attempts [media, main]).2.table artist = .ok (stored artist "main") := by
    apply ((hfound [media, main] artist).2.1 _).mpr
    exact .inDefault hmem hdefault.symm ⟨[], [], rfl, rfl, List.forall_mem_nil _⟩
  have hmaps : main.Maps artist := ⟨stored artist "main", List.mem_cons_self, rfl⟩
  have hartist' := hsame [media, main] [main, media] artist hperm (.inl ⟨main, hmem, rfl, hmaps⟩)
  refine ⟨hmain, hmedia, s, hs, hperm, hartist, hartist'.symm.trans hartist, ?_, ?_,
    honly main (.declared hmain) artist⟩
  · apply ((hfound [media, main] album).2.1 _).mpr
    refine .inFirst ?_ hschemas (List.forall_mem_nil _) ⟨[stored artist "media"], [], rfl, rfl, ?_⟩
    · intro d hd hname
      rw [hschemas, List.mem_pair] at hd
      rw [hdefault] at hname
      rcases hd with hd | hd
      · rw [hd] at hname
        exact absurd hname (by decide)
      · rw [hd]
        exact Schema.tableFor?_eq_none_iff.mp rfl
    · rw [List.forall_mem_singleton]
      decide
  · apply ((hfound [main, media] label).2.2 _).mpr
    refine ⟨?_, rfl⟩
    intro schema hschema
    rw [hschemas', List.mem_pair] at hschema
    rcases hschema with hschema | hschema
    · rw [hschema]
      exact Schema.tableFor?_eq_none_iff.mp rfl
    · rw [hschema]
      exact Schema.tableFor?_eq_none_iff.mp rfl

end Session

end RecordTables
