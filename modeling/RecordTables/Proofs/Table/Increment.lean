import RecordTables.Proofs.Table.Rows

/-!
# Keys that the database makes up

The database makes up a key that its records may leave out and that is stored as an integer. How it
is stored is up to the serializer that is found for the key. Built-in serializers store the integer
types as integers and nothing else; any other may do otherwise.
-/

namespace RecordTables

theorem WireType.isInteger_iff {w : WireType} :
    w.isInteger ↔ w ∈ [.smallInt, .integer, .bigInt] := by
  cases w <;> decide

/-- The serializer stores values as integers if and only if their type is an integer type. -/
def Serializer.AgreesOnIntegers (s : Serializer) : Prop :=
  s.wireType ∈ [.smallInt, .integer, .bigInt] ↔ s.valueType ∈ [.int16, .int32, .int64]

instance (s : Serializer) : Decidable s.AgreesOnIntegers :=
  inferInstanceAs (Decidable (_ ↔ _))

theorem Serializer.agreesOnIntegers_of_builtin {dialect : Dialect} {s : Serializer}
    (hs : s ∈ builtins dialect) : s.AgreesOnIntegers := by
  have hall : ∀ dialect ∈ Dialect.all, ∀ s ∈ builtins dialect, s.AgreesOnIntegers := by decide
  have hdialect : dialect ∈ Dialect.all := by cases dialect <;> decide
  exact hall dialect hdialect s hs

namespace Table

variable {mapper : Mapper} {scope : List Serializer} {entity : Entity} {key : String}
  {name : Option String} {t : Table}

/-- The key is made up by the database if its property may be absent and the serializer that is
found for it has an integer wire type. This is the same as an integer type if the serializer agrees
on integers, or if the property must be there. No other column is made up. -/
def IncrementsByWireType (mapper : Mapper) (scope : List Serializer) (entity : Entity)
    (key : String) (t : Table) : Prop :=
  (∃ p ∈ entity.properties, p.name = key ∧ ∃ s,
    mapper.lookup entity.type p.valueType scope = .ok s ∧
    (t.primary.isAutoIncrement ↔ p.nullable ∧ s.wireType ∈ [.smallInt, .integer, .bigInt]) ∧
    ((t.primary.isAutoIncrement ↔ p.nullable ∧ p.valueType ∈ [.int16, .int32, .int64]) ↔
      (p.nullable → s.AgreesOnIntegers))) ∧
  ∀ c ∈ t.before ++ t.after, ¬c.isAutoIncrement

private theorem incrementsByWireType_of_build (h : build mapper scope entity key name = .ok t) :
    IncrementsByWireType mapper scope entity key t := by
  have hfresh : t.IsFresh := ⟨mapper, scope, entity, key, name, h⟩
  obtain ⟨_, hstores⟩ := hfresh.stores
  obtain ⟨before, primary, after, hsplit, hname, _, _, _, _, hprimary, _⟩ := exists_split_of_build h
  obtain ⟨_, s, hs, hc⟩ := resolveColumn_eq_ok.mp hprimary
  have hmem : primary ∈ entity.ownedProperties := by simp [hsplit]
  obtain ⟨p, hp, rfl⟩ := List.mem_map.mp hmem
  have hfound := Mapper.resolveProperty_eq_ok.mp hs
  have hincrement : t.primary.isAutoIncrement ↔
      p.nullable ∧ s.wireType ∈ [.smallInt, .integer, .bigInt] := by
    rw [← WireType.isInteger_iff]
    simp [hc, Column.isAutoIncrement, Column.isPrimary, Column.ofKey, Column.wireType]
  refine ⟨⟨p, hp, hname, s, Mapper.lookup_eq_ok.mpr hfound, hincrement, ?_⟩,
    hstores.not_isAutoIncrement⟩
  rw [hincrement, Serializer.AgreesOnIntegers, Mapper.valueType_eq_of_found? hfound]
  exact and_congr_right_iff

private theorem incrementsByWireType_of_declared {d : SchemaDeclaration} {s : Schema}
    (hs : d.build mapper = .ok s) (ht : t ∈ s.tables) :
    ∃ declaration ∈ d.tables,
      IncrementsByWireType mapper d.serializers declaration.entity declaration.key t := by
  obtain ⟨declaration, hdeclared, fresh, _, hfresh, hlinks⟩ :=
    Schema.exists_declaration_of_build hs ht
  obtain ⟨_, hunlinked⟩ := IsFresh.stores ⟨_, _, _, _, _, hfresh⟩
  have hprimary : t.primary = fresh.primary := hlinks.primary_eq hunlinked.primary_role
  obtain ⟨hkey, -⟩ := incrementsByWireType_of_build hfresh
  rw [← hprimary] at hkey
  obtain ⟨_, hstores⟩ := (Schema.IsBuilt.declared hs).isLinked.stores t ht
  exact ⟨declaration, hdeclared, hkey, hstores.not_isAutoIncrement⟩

/-- With whatever mapper a table is built, on its own or in a schema with serializers of its own:
the key is made up by the database if and only if its property may be absent and the serializer that
the mapper finds for the entity and the type has an integer wire type. That the type itself is one
of the three integer types comes to the same unless the serializer stores it otherwise, which no
built-in one does. No other column is ever made up. -/
theorem keys_increment_by_wire_type (mapper : Mapper) :
    (∀ scope entity key name t, build mapper scope entity key name = .ok t →
      IncrementsByWireType mapper scope entity key t) ∧
    (∀ entity t, ofEntity mapper entity = .ok t →
      ∃ key, entity.primaryKey = some key ∧ IncrementsByWireType mapper [] entity key t) ∧
    (∀ (d : SchemaDeclaration) (s : Schema), d.build mapper = .ok s →
      ∀ t ∈ s.tables, ∃ declaration ∈ d.tables,
        IncrementsByWireType mapper d.serializers declaration.entity declaration.key t) ∧
    ∀ dialect, ∀ s ∈ Serializer.builtins dialect, s.AgreesOnIntegers := by
  refine ⟨fun _ _ _ _ _ => incrementsByWireType_of_build, ?_,
    fun _ _ hs _ ht => incrementsByWireType_of_declared hs ht,
    fun _ _ => Serializer.agreesOnIntegers_of_builtin⟩
  intro entity t h
  rw [ofEntity] at h
  split at h
  · cases h
  · next key hkey => exact ⟨key, hkey, incrementsByWireType_of_build h⟩

/-- The number of a ticket is made up, but not in a schema that stores it as text. -/
theorem keys_increment_by_wire_type_of_ticket :
    let number : Property := ⟨"number", .int64, true, false, none, fun fields => fields.headD .null⟩
    let ticket : Entity := ⟨⟨0, "Ticket"⟩, [number], some "number", none⟩
    let padded : Serializer := ⟨.int64, .postgres, "CHAR(12)", .char, Codec.text⟩
    let d : SchemaDeclaration := ⟨"sales", [padded], [⟨ticket, "number", none⟩]⟩
    let mapper := Mapper.ofDialect .postgres
    (∃ t, build mapper [] ticket "number" none = .ok t ∧ t.primary.isAutoIncrement) ∧
    (∃ t, ofEntity mapper ticket = .ok t ∧ t.primary.isAutoIncrement) ∧
    ∃ s t, d.build mapper = .ok s ∧ t ∈ s.tables ∧ ¬t.primary.isAutoIncrement := by
  intro number ticket padded d mapper
  have hfound : mapper.lookup ticket.type .int64 [] =
      .ok ⟨.int64, .postgres, "BIGINT", .bigInt, Codec.Postgres.int64⟩ := rfl
  have hscoped : mapper.lookup ticket.type .int64 [padded] = .ok padded := rfl
  have hmade : ∀ t, IncrementsByWireType mapper [] ticket "number" t →
      t.primary.isAutoIncrement := by
    rintro t ⟨⟨p, hp, -, s, hs, hwire, -⟩, -⟩
    obtain rfl := List.mem_singleton.mp hp
    obtain rfl := Except.ok.inj (hfound.symm.trans hs)
    exact hwire.mpr (by decide)
  obtain ⟨hbuild, hentity, hschema, -⟩ := keys_increment_by_wire_type mapper
  have hok : (build mapper [] ticket "number" none).isOk := by decide +kernel
  obtain ⟨t, ht⟩ := Check.exists_of_isOk hok
  have hdeclared : ofEntity mapper ticket = .ok t := ht
  obtain ⟨key, hkey, hrule⟩ := hentity _ _ hdeclared
  obtain rfl := Option.some.inj hkey
  have hshape : (d.build mapper).toOption.map (fun s => s.tables.length) = some 1 := by
    decide +kernel
  obtain ⟨s, hs, hlength⟩ := Check.exists_of_toOption hshape
  obtain ⟨u, hu⟩ := List.length_eq_one_iff.mp hlength
  have hmem : u ∈ s.tables := by simp [hu]
  obtain ⟨declaration, hdeclaration, ⟨p, hp, -, serializer, hserializer, hwire, -⟩, -⟩ :=
    hschema _ _ hs u hmem
  obtain rfl := List.mem_singleton.mp hdeclaration
  obtain rfl := List.mem_singleton.mp hp
  obtain rfl := Except.ok.inj (hscoped.symm.trans hserializer)
  have hbuilt := hbuild _ _ _ _ _ ht
  refine ⟨⟨t, ht, hmade t hbuilt⟩, ⟨t, hdeclared, hmade t hrule⟩, s, u, hs, hmem, ?_⟩
  rw [hwire]
  decide

/-- A switch that is stored as a number is made up although its type is none of the three. So an
insertion leaves out its state, and the second number that is made up is none. A number that is
stored as text is not made up although its type is one of the three. -/
theorem switch_is_made_up_but_not_number :
    let owner : EntityType := ⟨0, "Switch"⟩
    let entity (type : ValueType) : Entity :=
      ⟨owner, [⟨"key", type, true, false, none, fun fields => fields.headD .null⟩], none, none⟩
    let numbered : Serializer := ⟨.bool, .sqlite, "INTEGER", .integer, Codec.Sqlite.bool⟩
    let spelled : Serializer := ⟨.int32, .sqlite, "TEXT", .varchar, Codec.text⟩
    (∃ m t q, (Mapper.ofDialect .sqlite).registerOverride owner numbered = .ok m ∧
      build m [] (entity .bool) "key" none = .ok t ∧ t.primary.property.nullable ∧
      t.primary.valueType = .bool ∧ t.primary.isAutoIncrement ∧
      Statement.insert .sqlite t ⟨owner, [.bool true]⟩ = .ok q ∧ q.values.isEmpty ∧
      ¬(t.primary.decode (.bigInt 2)).isOk) ∧
    ∃ m t, (Mapper.ofDialect .sqlite).registerOverride owner spelled = .ok m ∧
      build m [] (entity .int32) "key" none = .ok t ∧ t.primary.property.nullable ∧
      t.primary.valueType = .int32 ∧ ¬t.primary.isAutoIncrement := by
  intro owner entity numbered spelled
  let overriding (s : Serializer) : Mapper :=
    { Mapper.ofDialect .sqlite with overrides := [⟨owner, s⟩] }
  have hbool : (build (overriding numbered) [] (entity .bool) "key" none).toOption.map (fun t =>
      (t.primary.property.nullable, t.primary.valueType, t.primary.isAutoIncrement,
        (Statement.insert .sqlite t ⟨owner, [.bool true]⟩).toOption.map fun q => q.values.isEmpty,
        (t.primary.decode (.bigInt 2)).isOk)) = some (true, .bool, true, some true, false) := by
    decide +kernel
  have hint32 : (build (overriding spelled) [] (entity .int32) "key" none).toOption.map (fun t =>
      (t.primary.property.nullable, t.primary.valueType, t.primary.isAutoIncrement)) =
      some (true, .int32, false) := by
    decide +kernel
  obtain ⟨t, ht, hmade⟩ := Check.exists_of_toOption hbool
  obtain ⟨u, hu, hkept⟩ := Check.exists_of_toOption hint32
  simp only [Prod.mk.injEq] at hmade hkept
  obtain ⟨hnullable, htype, hincrement, hinsert, hdecode⟩ := hmade
  obtain ⟨q, hq, hempty⟩ := Check.exists_of_toOption hinsert
  refine ⟨⟨overriding numbered, t, q, rfl, ht, hnullable, htype, hincrement, hq, hempty, ?_⟩,
    overriding spelled, u, rfl, hu, hkept.1, hkept.2.1, ?_⟩
  · rw [hdecode]
    decide
  · rw [hkept.2.2]
    decide

end Table

end RecordTables
