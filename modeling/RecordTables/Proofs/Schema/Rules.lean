import Mathlib.Data.List.Perm.Basic
import RecordTables.Proofs.Registry.Registration
import RecordTables.Proofs.Schema.Assembly
import RecordTables.Proofs.Table.Rules

/-!
# The rules of schemas

A schema can be assembled of tables that have just been built if they keep the rules below, and
otherwise the first rule that is broken is reported. No rule asks for the order of the tables, so
tables that refer to each other may stand in any order.
-/

namespace RecordTables

open Rule

namespace Schema

/-- The rule that serializers are for distinct pairs, which reports the first that is for the pair
of one before it. -/
def distinctRule (serializers : List Serializer) : Rule MappingError :=
  ⟨(serializers.map Serializer.pair).Nodup, fun e => ∃ before s after,
    serializers = before ++ s :: after ∧ (before.map Serializer.pair).Nodup ∧
      s.pair ∈ before.map Serializer.pair ∧ e = .serializer (.duplicate s.valueType s.dialect)⟩

/-- The rules of a column: what it references has a table, with a key of the type of the column. -/
def linkRules (schema : String) (tables : List Table) (t : Table) (c : Column) :
    List (Rule MappingError) :=
  match c.references? with
  | none => []
  | some references =>
    keyed tables (fun t => t.entity) references
      (.unknownForeignTable schema t.name c.name references.name) fun target =>
        .of (target.primary.valueType = c.valueType)
          (.foreignKeyMismatch t.name c.name c.valueType target.primary.valueType)

/-- The rules of the parts of a schema. -/
def assembleRules (name : String) (tables : List Table) (serializers : List Serializer) :
    List (Rule MappingError) :=
  nameRules name ++ (uniqueRule name (tables.map fun t => t.name) ::
    uniqueRule name (tables.map fun t => t.entity.name) :: distinctRule serializers ::
      tables.flatMap fun t => t.columns.flatMap (linkRules name tables t))

section Following

/-- Two lists cannot both be free of repetitions up to different places where one repeats. -/
private theorem eq_of_append_eq_append {α : Type} {before other after later : List α} {x y : α}
    (h : before ++ x :: after = other ++ y :: later) (hbefore : before.Nodup) (hother : other.Nodup)
    (hx : x ∈ before) (hy : y ∈ other) : x = y := by
  rcases List.append_eq_append_iff.mp h with ⟨mid, hmid, hrest⟩ | ⟨mid, hmid, hrest⟩
  · cases mid with
    | nil => exact (List.cons.inj hrest).1
    | cons z mid =>
      -- The first repetition would already stand in the other list.
      obtain ⟨rfl, _⟩ := List.cons.inj hrest
      rw [hmid, List.nodup_append] at hother
      exact absurd rfl (hother.2.2 x hx x List.mem_cons_self)
  · cases mid with
    | nil => exact (List.cons.inj hrest).1.symm
    | cons z mid =>
      obtain ⟨rfl, _⟩ := List.cons.inj hrest
      rw [hmid, List.nodup_append] at hbefore
      exact absurd rfl (hbefore.2.2 y hy y List.mem_cons_self)

private theorem any_serves_iff {seen : List Serializer} {s : Serializer} :
    (seen.any fun other => other.serves s.valueType s.dialect) ↔
      s.pair ∈ seen.map Serializer.pair :=
  Registry.contains_iff (r := ⟨seen⟩)

private theorem checkSerializers_follows {seen serializers : List Serializer}
    (hseen : (seen.map Serializer.pair).Nodup) :
    Follows (checkSerializers seen serializers) [distinctRule (seen.reverse ++ serializers)] := by
  -- What has been seen stands reversed before what is left, so the list as a whole stays the same.
  induction serializers generalizing seen with
  | nil =>
    have hnodup : ((seen.reverse ++ []).map Serializer.pair).Nodup := by
      rw [List.append_nil, List.map_reverse, List.nodup_reverse]
      exact hseen
    exact .held hnodup (.nil ())
  | cons s serializers ih =>
    rw [checkSerializers]
    split
    · next hany =>
      have hbefore : (seen.reverse.map Serializer.pair).Nodup := by
        rw [List.map_reverse, List.nodup_reverse]
        exact hseen
      have hrepeats : s.pair ∈ seen.reverse.map Serializer.pair := by
        rw [List.map_reverse, List.mem_reverse]
        exact any_serves_iff.mp hany
      apply Follows.reported
      · intro hnodup
        change ((seen.reverse ++ s :: serializers).map Serializer.pair).Nodup at hnodup
        rw [List.map_append, List.nodup_append] at hnodup
        exact hnodup.2.2 _ hrepeats _ List.mem_cons_self rfl
      · intro e
        constructor
        · rintro ⟨others, other, after, hsplit, hothers, hother, rfl⟩
          have hpairs := congrArg (List.map Serializer.pair) hsplit
          rw [List.map_append, List.map_append, List.map_cons, List.map_cons] at hpairs
          have hpair := eq_of_append_eq_append hpairs hbefore hothers hrepeats hother
          obtain ⟨htype, hdialect⟩ := Prod.mk.inj hpair
          rw [htype, hdialect]
        · rintro rfl
          exact ⟨seen.reverse, s, serializers, rfl, hbefore, hrepeats, rfl⟩
    · next hany =>
      have hnext : ((s :: seen).map Serializer.pair).Nodup :=
        List.nodup_cons.mpr ⟨mt any_serves_iff.mpr hany, hseen⟩
      have hrest := ih hnext
      rw [List.reverse_cons, List.append_assoc] at hrest
      exact hrest

variable {name : String} {tables : List Table} {t : Table} {c : Column}

private theorem exists_link {references : EntityType}
    (hc : ∀ references position, c.role ≠ .foreign references (some position))
    (href : c.references? = some references) (position : Nat) :
    ∃ linked, c.link position = .ok linked := by
  rw [Column.references?] at href
  split at href
  · next target? hrole =>
    cases target? with
    | none => exact ⟨_, by rw [Column.link, hrole]⟩
    | some position => exact absurd hrole (hc _ _)
  · cases href

private theorem linkColumn_follows (hentities : (tables.map fun t => t.entity).Nodup)
    (hc : ∀ references position, c.role ≠ .foreign references (some position)) :
    Follows (linkColumn name tables t c) (linkRules name tables t c) := by
  rw [linkColumn, linkRules]
  cases href : c.references? with
  | none => exact .nil c
  | some references =>
    dsimp only
    rw [← List.append_nil (keyed _ _ _ _ _)]
    split
    · next hfind => exact .missing fun target htarget => find?_zipIdx_eq_none hfind htarget
    · next target position hfind =>
      obtain ⟨hposition, hentity⟩ := find?_zipIdx_eq_some hfind
      apply Follows.found hentities (List.mem_of_getElem? hposition) hentity
      split
      · next htype => exact .broken htype
      · next htype =>
        apply Follows.held (not_not.mp htype)
        obtain ⟨linked, hlinked⟩ := exists_link hc href position
        rw [hlinked]
        exact .nil linked

private theorem linkColumn_attached :
    linkColumn name (tables.map fun t => { t with schema := some name })
      { t with schema := some name } c = linkColumn name tables t c := by
  rw [linkColumn, linkColumn]
  cases c.references? with
  | none => rfl
  | some references =>
    dsimp only
    rw [List.zipIdx_map, List.find?_map]
    simp only [Function.comp_def, Prod.map]
    generalize tables.zipIdx.find? _ = found
    cases found <;> rfl

private theorem linkTable_follows (hentities : (tables.map fun t => t.entity).Nodup)
    (ht : t.IsFresh) :
    Follows (linkTable name (tables.map fun t => { t with schema := some name })
        { t with schema := some name })
      (t.columns.flatMap (linkRules name tables t)) := by
  have hlink : ∀ c ∈ t.columns, Follows
      (linkColumn name (tables.map fun t => { t with schema := some name })
        { t with schema := some name } c) (linkRules name tables t c) := by
    intro c hc
    rw [linkColumn_attached]
    exact linkColumn_follows hentities (ht.unlinked hc)
  obtain ⟨hbefore, hrest⟩ := List.forall_mem_append.mp hlink
  obtain ⟨hprimary, hafter⟩ := List.forall_mem_cons.mp hrest
  exact .mapM_around hbefore hprimary hafter

private theorem assemble_follows {serializers : List Serializer} (ht : ∀ t ∈ tables, t.IsFresh) :
    Follows (assemble name tables serializers) (assembleRules name tables serializers) := by
  rw [assemble, assembleRules]
  apply (checkName_follows name).bind
  rintro _ -
  apply (checkUnique_follows _ _).bind
  rintro _ -
  apply (checkUnique_follows _ _).bind
  intro _ hunique
  have hentities := nodup_entities (checkUnique_eq_ok.mp hunique)
  have hserializers : Follows (checkSerializers [] serializers) [distinctRule serializers] :=
    checkSerializers_follows List.nodup_nil
  apply hserializers.bind
  rintro _ -
  -- Tables that have just been built can all be put into the schema, so linking alone remains.
  rw [mapM_attach name fun t hmem => (ht t hmem).schema]
  have hlinked : Follows ((tables.map fun t => { t with schema := some name }).mapM
      (linkTable name (tables.map fun t => { t with schema := some name })))
      (tables.flatMap fun t => t.columns.flatMap (linkRules name tables t)) := by
    rw [List.mapM_map]
    exact .mapM fun t hmem => linkTable_follows hentities (ht t hmem)
  exact hlinked.bind_ok

theorem severity_of_assemble {serializers : List Serializer} {e : MappingError}
    (ht : ∀ t ∈ tables, t.IsFresh) (h : assemble name tables serializers = .error e) :
    e.severity = .user := by
  have hbroken := ((assemble_follows ht).error_iff e).mp h
  obtain ⟨rule, hrule, he⟩ := hbroken.exists_reports
  rw [assembleRules, List.mem_append, List.mem_cons, List.mem_cons, List.mem_cons] at hrule
  rcases hrule with hname | rfl | rfl | rfl | hlink
  · obtain ⟨_, _, rfl⟩ := List.mem_map.mp hname
    obtain ⟨_, _, rfl⟩ := he
    rfl
  · cases he
    rfl
  · cases he
    rfl
  · obtain ⟨_, _, _, _, _, _, rfl⟩ := he
    rfl
  · obtain ⟨t, _, hlink⟩ := List.mem_flatMap.mp hlink
    obtain ⟨c, _, hlink⟩ := List.mem_flatMap.mp hlink
    rw [linkRules] at hlink
    split at hlink
    · cases hlink
    · rw [keyed, List.mem_cons, List.mem_singleton] at hlink
      rcases hlink with rfl | rfl
      · cases he
        rfl
      · obtain ⟨_, _, _, he⟩ := he
        cases he
        rfl

end Following

/-- What the parts of a schema need. -/
structure IsAssemblable (name : String) (tables : List Table) (serializers : List Serializer) :
    Prop where
  name : Identifier.IsValid name
  names : (tables.map fun t => t.name).Nodup
  entities : (tables.map fun t => t.entity.name).Nodup
  serializers : (serializers.map Serializer.pair).Nodup
  references : ∀ t ∈ tables, ∀ c ∈ t.columns, ∀ references, c.references? = some references →
    ∃ target ∈ tables, target.entity = references ∧ target.primary.valueType = c.valueType

section Order

variable {name : String} {tables other : List Table} {serializers : List Serializer}

private theorem linkRules_hold_iff {t : Table} {c : Column}
    (hentities : (tables.map fun t => t.entity).Nodup) :
    (∀ rule ∈ linkRules name tables t c, rule.holds) ↔
      ∀ references, c.references? = some references →
        ∃ target ∈ tables, target.entity = references ∧
          target.primary.valueType = c.valueType := by
  rw [linkRules]
  cases c.references? with
  | none => simp
  | some references =>
    simp only [Option.some.injEq, forall_eq']
    exact keyed_hold_iff hentities

private theorem isAssemblable_iff : IsAssemblable name tables serializers ↔
    ∀ rule ∈ assembleRules name tables serializers, rule.holds := by
  rw [assembleRules, List.forall_mem_append, nameRules_hold_iff, List.forall_mem_cons,
    List.forall_mem_cons, List.forall_mem_cons]
  simp only [List.forall_mem_flatMap]
  have hlinks (hnames : (tables.map fun t => t.entity.name).Nodup) {t : Table} {c : Column} :
      (∀ rule ∈ linkRules name tables t c, rule.holds) ↔ _ :=
    linkRules_hold_iff (nodup_entities hnames)
  constructor
  · rintro ⟨hname, hnames, hentities, hserializers, hreferences⟩
    refine ⟨hname, hnames, hentities, hserializers, ?_⟩
    exact fun t ht c hc => (hlinks hentities).mpr (hreferences t ht c hc)
  · rintro ⟨hname, hnames, hentities, hserializers, hreferences⟩
    refine ⟨hname, hnames, hentities, hserializers, ?_⟩
    exact fun t ht c hc => (hlinks hentities).mp (hreferences t ht c hc)

private theorem IsAssemblable.perm (hperm : other.Perm tables)
    (h : IsAssemblable name tables serializers) : IsAssemblable name other serializers := by
  refine ⟨h.name, ?_, ?_, h.serializers, ?_⟩
  · exact (hperm.map fun t => t.name).nodup_iff.mpr h.names
  · exact (hperm.map fun t => t.entity.name).nodup_iff.mpr h.entities
  · intro t ht c hc references href
    obtain ⟨target, htarget, hlinks⟩ := h.references t (hperm.mem_iff.mp ht) c hc references href
    exact ⟨target, hperm.mem_iff.mpr htarget, hlinks⟩

theorem exists_assemble_iff (ht : ∀ t ∈ tables, t.IsFresh) :
    (∃ s, assemble name tables serializers = .ok s) ↔ IsAssemblable name tables serializers :=
  (assemble_follows ht).ok_iff.trans isAssemblable_iff.symm

private theorem exists_assemble_of_perm (hperm : other.Perm tables) (ht : ∀ t ∈ tables, t.IsFresh)
    (h : ∃ s, assemble name tables serializers = .ok s) :
    ∃ s, assemble name other serializers = .ok s := by
  have hother : ∀ t ∈ other, t.IsFresh := fun t hmem => ht t (hperm.mem_iff.mp hmem)
  exact (exists_assemble_iff hother).mpr (((exists_assemble_iff ht).mp h).perm hperm)

private theorem exists_build_of_perm {d : SchemaDeclaration} {mapper : Mapper}
    {declarations : List TableDeclaration} (hperm : declarations.Perm d.tables)
    (h : ∃ s, d.build mapper = .ok s) :
    ∃ s, { d with tables := declarations }.build mapper = .ok s := by
  obtain ⟨s, hs⟩ := h
  obtain ⟨tables, htables, hs⟩ := Check.bind_eq_ok.mp hs
  have hbuilt := Check.mapM_eq_ok.mp htables
  -- Each table is built by itself, so the same tables come in the order of the declarations.
  obtain ⟨others, hothers, horder⟩ := List.perm_comp_forall₂ hperm hbuilt
  obtain ⟨other, hother⟩ := exists_assemble_of_perm horder (isFresh_of_built hbuilt) ⟨s, hs⟩
  exact ⟨other, Check.bind_eq_ok.mpr ⟨others, Check.mapM_eq_ok.mpr hothers, hother⟩⟩

end Order

/-- A schema can be assembled of tables that have just been built if and only if its parts keep all
rules. Otherwise the error reports the first rule that is broken, of references that of the first
column in the order of tables and columns. Whether a schema can be assembled, or built as it is
declared, does not depend on the order of its tables. -/
theorem schemas_are_assembled_by_rules :
    (∀ (name : String) (tables : List Table) (serializers : List Serializer),
      (∀ t ∈ tables, t.IsFresh) →
        ((∃ s, assemble name tables serializers = .ok s) ↔
          IsAssemblable name tables serializers) ∧
        (∀ e, assemble name tables serializers = .error e ↔
          FirstBroken (assembleRules name tables serializers) e) ∧
        ∀ other : List Table, other.Perm tables →
          ((∃ s, assemble name other serializers = .ok s) ↔
            ∃ s, assemble name tables serializers = .ok s)) ∧
    ∀ (d : SchemaDeclaration) (mapper : Mapper) (other : List TableDeclaration),
      other.Perm d.tables →
        ((∃ s, { d with tables := other }.build mapper = .ok s) ↔ ∃ s, d.build mapper = .ok s) := by
  refine ⟨?_, ?_⟩
  · intro name tables serializers ht
    refine ⟨exists_assemble_iff ht, (assemble_follows ht).error_iff, ?_⟩
    intro other hperm
    have hother : ∀ t ∈ other, t.IsFresh := fun t hmem => ht t (hperm.mem_iff.mp hmem)
    exact ⟨exists_assemble_of_perm hperm.symm hother, exists_assemble_of_perm hperm ht⟩
  · intro d mapper other hperm
    exact ⟨exists_build_of_perm (d := { d with tables := other }) hperm.symm,
      exists_build_of_perm hperm⟩

/-- Players know their team, and a team knows its captain. Either may be declared first, but players
cannot do without teams. -/
theorem schemas_are_assembled_by_rules_in_circle :
    let player : EntityType := ⟨0, "Player"⟩
    let team : EntityType := ⟨1, "Team"⟩
    let key : Property := ⟨"id", .int64, false, false, none, fun fields => fields.headD .null⟩
    let reference (name : String) (references : EntityType) : Property :=
      ⟨name, .int64, true, false, some references, fun _ => .null⟩
    let players : Entity := ⟨player, [key, reference "team" team], none, none⟩
    let teams : Entity := ⟨team, [reference "captain" player, key], none, none⟩
    let mapper := Mapper.ofDialect .postgres
    let d : SchemaDeclaration := ⟨"league", [], [⟨players, "id", none⟩, ⟨teams, "id", none⟩]⟩
    (∃ s, d.build mapper = .ok s) ∧
    [⟨teams, "id", none⟩, ⟨players, "id", none⟩].Perm d.tables ∧
    (∃ s, { d with tables := [⟨teams, "id", none⟩, ⟨players, "id", none⟩] }.build mapper = .ok s) ∧
    ∃ t e, Table.build mapper [] players "id" none = .ok t ∧ (∀ u ∈ [t], u.IsFresh) ∧
      assemble "league" [t] [] = .error e ∧
      e.message = "Column 'Player.team' references 'Team' which is not a table in schema " ++
        "'league'" ∧
      ¬IsAssemblable "league" [t] [] ∧ FirstBroken (assembleRules "league" [t] []) e := by
  intro player team key reference players teams mapper d
  have hbuilt : ∃ s, d.build mapper = .ok s := Check.exists_of_isOk (by decide +kernel)
  have hperm : [⟨teams, "id", none⟩, ⟨players, "id", none⟩].Perm d.tables := .swap _ _ _
  refine ⟨hbuilt, hperm, (schemas_are_assembled_by_rules.2 d mapper _ hperm).mpr hbuilt, ?_⟩
  obtain ⟨t, ht⟩ : ∃ t, Table.build mapper [] players "id" none = .ok t :=
    Check.exists_of_isOk (by decide +kernel)
  have hfresh : ∀ u ∈ [t], u.IsFresh := by
    rw [List.forall_mem_singleton]
    exact ⟨mapper, [], players, "id", none, ht⟩
  obtain ⟨e, herror, hmessage⟩ : ∃ e,
      (Table.build mapper [] players "id" none >>= fun t => assemble "league" [t] []) = .error e ∧
        e.message = "Column 'Player.team' references 'Team' which is not a table in schema " ++
          "'league'" := Check.exists_of_error? (by decide +kernel)
  rw [ht] at herror
  obtain ⟨hok, hreports, _⟩ := schemas_are_assembled_by_rules.1 "league" [t] [] hfresh
  refine ⟨t, e, ht, hfresh, herror, hmessage, ?_, (hreports e).mp herror⟩
  rw [← hok]
  rintro ⟨s, hs⟩
  cases herror.symm.trans hs

end Schema

end RecordTables
