import Mathlib.Data.List.Dedup
import RecordTables.Proofs.Check
import RecordTables.Proofs.Keyed
import RecordTables.Registry

/-!
# Filling a registry

A registry is filled by calls that add a serializer each. A call looks whether the pair of its
serializer is taken, so that a pair stays with the serializer that has claimed it first. The
built-in serializers are put in without a look, which comes to the same since no two of them are of
one pair.
-/

namespace RecordTables

def Serializer.pair (s : Serializer) : ValueType × Dialect :=
  (s.valueType, s.dialect)

private theorem Serializer.serves_eq (s : Serializer) (type : ValueType) (dialect : Dialect) :
    s.serves type dialect = decide (s.pair = (type, dialect)) := by
  simp [serves, pair]

namespace Registry

/-- Puts a serializer into the place of the one of its pair, or behind all others. -/
def insert (r : Registry) (s : Serializer) : Registry :=
  if r.contains s.valueType s.dialect then
    ⟨r.serializers.map fun other => if other.serves s.valueType s.dialect then s else other⟩
  else ⟨r.serializers ++ [s]⟩

/-- Adds a serializer in place, after a look at whether its pair has one. -/
def registerInPlace (s : Serializer) : EStateM SerializerError Registry Unit := do
  if (← get).contains s.valueType s.dialect then throw (.duplicate s.valueType s.dialect)
  modify (·.insert s)

/-- The registry that a call leaves, whether it has been accepted or not. -/
def attempt (r : Registry) (s : Serializer) : Registry :=
  match (registerInPlace s).run r with
  | .ok _ next => next
  | .error _ next => next

def attempts (r : Registry) (calls : List Serializer) : Registry :=
  calls.foldl attempt r

section Lookups

variable {r : Registry} {type : ValueType} {dialect : Dialect} {s : Serializer}

theorem contains_iff :
    r.contains type dialect ↔ (type, dialect) ∈ r.serializers.map Serializer.pair := by
  simp [contains, Serializer.serves_eq]

private theorem contains_eq_isSome : r.contains type dialect = (r.find? type dialect).isSome := by
  rw [Bool.eq_iff_iff, contains, find?, List.find?_isSome, List.any_eq_true]

private theorem resolve_eq_ok : r.resolve type dialect = .ok s ↔ r.find? type dialect = some s := by
  rw [resolve]
  cases r.find? type dialect <;> simp

private theorem pair_of_find? (h : r.find? type dialect = some s) : s.pair = (type, dialect) := by
  have hserves := List.find?_some h
  rwa [Serializer.serves_eq, decide_eq_true_eq] at hserves

private theorem find?_eq_none_iff : r.find? type dialect = none ↔ ¬r.contains type dialect := by
  rw [contains_eq_isSome, Option.not_isSome_iff_eq_none]

private theorem resolve_cases (r : Registry) (type : ValueType) (dialect : Dialect) :
    if r.contains type dialect
      then ∃ s, r.resolve type dialect = .ok s ∧ s.valueType = type ∧ s.dialect = dialect
      else r.resolve type dialect = .error (.unknownType type dialect) := by
  split
  · next hcontains =>
    rw [contains_eq_isSome] at hcontains
    obtain ⟨s, hs⟩ := Option.isSome_iff_exists.mp hcontains
    exact ⟨s, resolve_eq_ok.mpr hs, Prod.mk.inj (pair_of_find? hs)⟩
  · next hnew => rw [resolve, find?_eq_none_iff.mpr hnew]

private theorem insert_of_new (h : ¬r.contains s.valueType s.dialect) :
    r.insert s = ⟨r.serializers ++ [s]⟩ := by
  rw [insert, if_neg h]

private theorem register_of_new (h : ¬r.contains s.valueType s.dialect) :
    r.register s = .ok (r.insert s) := by
  rw [register, if_neg h, insert_of_new h]

private theorem resolve_insert (h : ¬r.contains s.valueType s.dialect) (type : ValueType)
    (dialect : Dialect) : (r.insert s).resolve type dialect =
      if s.serves type dialect then .ok s else r.resolve type dialect := by
  rw [insert_of_new h, resolve, resolve, find?, List.find?_append, List.find?_singleton, ← find?]
  split_ifs with hserves
  · rw [Serializer.serves_eq, decide_eq_true_eq] at hserves
    obtain ⟨rfl, rfl⟩ := Prod.mk.inj hserves
    rw [find?_eq_none_iff.mpr h, Option.none_or]
  · rw [Option.or_none]

end Lookups

theorem run_registerInPlace (r : Registry) (s : Serializer) :
    (registerInPlace s).run r = outcome r (r.register s) := by
  by_cases h : r.contains s.valueType s.dialect
  · simp [registerInPlace, register, outcome, h]
  · simp [registerInPlace, register_of_new h, outcome, h]

theorem attempt_eq (r : Registry) (s : Serializer) : r.attempt s =
    if r.contains s.valueType s.dialect then r else ⟨r.serializers ++ [s]⟩ := by
  cases h : r.contains s.valueType s.dialect <;>
    simp [attempt, run_registerInPlace, register, outcome, h]

/-- The registry has one serializer for each pair that is claimed, the one that claims it first. -/
structure Holds (r : Registry) (claims : List Serializer) : Prop where
  nodup : (r.serializers.map Serializer.pair).Nodup
  find?_eq : ∀ type dialect, r.find? type dialect = claims.find? fun s => s.serves type dialect

private theorem holds_empty : empty.Holds empty.serializers :=
  ⟨.nil, fun _ _ => rfl⟩

private theorem holds_withBuiltins : withBuiltins.Holds withBuiltins.serializers :=
  ⟨by decide, fun _ _ => rfl⟩

namespace Holds

variable {r : Registry} {claims : List Serializer} {type : ValueType} {dialect : Dialect}

theorem attempt (h : r.Holds claims) (s : Serializer) : (r.attempt s).Holds (claims ++ [s]) := by
  rw [attempt_eq]
  split
  · next hcontains =>
    refine ⟨h.nodup, ?_⟩
    intro type dialect
    rw [List.find?_append, ← h.find?_eq, List.find?_singleton]
    split
    · next hserves =>
      rw [Serializer.serves_eq, decide_eq_true_eq] at hserves
      obtain ⟨rfl, rfl⟩ := Prod.mk.inj hserves
      rw [contains_eq_isSome] at hcontains
      rw [Option.or_of_isSome hcontains]
    · rw [Option.or_none]
  · next hnew =>
    rw [Registry.contains_iff] at hnew
    refine ⟨?_, ?_⟩
    · rw [List.map_append, List.map_singleton, ← List.concat_eq_append]
      exact h.nodup.concat hnew
    · intro type dialect
      rw [find?, List.find?_append, List.find?_append, ← h.find?_eq]
      rfl

theorem attempts (h : r.Holds claims) (calls : List Serializer) :
    (r.attempts calls).Holds (claims ++ calls) := by
  induction calls generalizing r claims with
  | nil => simpa [Registry.attempts] using h
  | cons s calls ih =>
    have hrest := ih (h.attempt s)
    rwa [List.append_assoc, List.singleton_append] at hrest

theorem contains_iff (h : r.Holds claims) :
    r.contains type dialect ↔ (type, dialect) ∈ claims.map Serializer.pair := by
  rw [contains_eq_isSome, h.find?_eq, List.find?_isSome]
  simp [Serializer.serves_eq]

private theorem mem_pairs_iff (h : r.Holds claims) (pair : ValueType × Dialect) :
    pair ∈ r.serializers.map Serializer.pair ↔ pair ∈ claims.map Serializer.pair :=
  Registry.contains_iff.symm.trans h.contains_iff

private theorem size_eq (h : r.Holds claims) :
    r.size = (claims.map Serializer.pair).dedup.length := by
  have hperm : (r.serializers.map Serializer.pair).Perm (claims.map Serializer.pair).dedup := by
    rw [List.perm_ext_iff_of_nodup h.nodup (List.nodup_dedup _)]
    intro pair
    rw [List.mem_dedup, h.mem_pairs_iff]
  rw [← hperm.length_eq, List.length_map, size]

private theorem resolve_eq_ok_iff (h : r.Holds claims) {s : Serializer} :
    r.resolve type dialect = .ok s ↔ s ∈ r.serializers ∧ s.pair = (type, dialect) := by
  rw [resolve_eq_ok, find?]
  simp only [Serializer.serves_eq]
  exact find?_key_eq_some_iff h.nodup

private theorem mem_forDialect_iff (h : r.Holds claims) {s : Serializer} :
    s ∈ r.forDialect dialect ↔ s.dialect = dialect ∧ r.resolve s.valueType dialect = .ok s := by
  rw [h.resolve_eq_ok_iff, forDialect, List.mem_filter, decide_eq_true_eq, Serializer.pair,
    Prod.mk.injEq]
  tauto

private theorem nodup_forDialect (h : r.Holds claims) :
    ((r.forDialect dialect).map Serializer.valueType).Nodup := by
  have hpairs : ((r.forDialect dialect).map Serializer.pair).Nodup :=
    h.nodup.sublist (List.filter_sublist.map _)
  refine hpairs.of_map.map_on ?_
  intro s hs other hother htype
  have hdialect : s.dialect = other.dialect :=
    (h.mem_forDialect_iff.mp hs).1.trans (h.mem_forDialect_iff.mp hother).1.symm
  exact List.inj_on_of_nodup_map hpairs hs hother (Prod.ext htype hdialect)

end Holds

section NewPairs

variable {r : Registry} {ss : List Serializer}

private theorem not_contains_of_nodup {s : Serializer}
    (h : ((r.serializers ++ s :: ss).map Serializer.pair).Nodup) :
    ¬r.contains s.valueType s.dialect := by
  rw [contains_iff]
  rw [List.map_append, List.map_cons, List.nodup_append] at h
  intro hmem
  exact h.2.2 _ hmem _ List.mem_cons_self rfl

private theorem insert_append {s : Serializer}
    (h : ((r.serializers ++ s :: ss).map Serializer.pair).Nodup) :
    (r.insert s).serializers ++ ss = r.serializers ++ s :: ss := by
  rw [insert_of_new (not_contains_of_nodup h), List.append_assoc, List.singleton_append]

private theorem foldl_insert (h : ((r.serializers ++ ss).map Serializer.pair).Nodup) :
    ss.foldl insert r = ⟨r.serializers ++ ss⟩ := by
  induction ss generalizing r with
  | nil => simp
  | cons s ss ih =>
    have happend := insert_append h
    rw [List.foldl_cons, ih (by rwa [happend]), happend]

private theorem foldlM_register (h : ((r.serializers ++ ss).map Serializer.pair).Nodup) :
    ss.foldlM register r = .ok ⟨r.serializers ++ ss⟩ := by
  induction ss generalizing r with
  | nil =>
    rw [List.append_nil]
    rfl
  | cons s ss ih =>
    have happend := insert_append h
    rw [List.foldlM_cons, register_of_new (not_contains_of_nodup h), ← happend]
    exact ih (by rwa [happend])

end NewPairs

private theorem foldl_insert_builtins :
    (Dialect.all.flatMap Serializer.builtins).foldl insert empty = withBuiltins :=
  foldl_insert holds_withBuiltins.nodup

/-- Serializers of new pairs are found whatever the order they are added in. -/
private theorem Holds.exists_foldlM_of_perm {r : Registry} {claims ss ss' : List Serializer}
    (h : r.Holds claims) (hperm : ss.Perm ss') (hpairs : (ss.map Serializer.pair).Nodup)
    (hnew : ∀ s ∈ ss, ¬r.contains s.valueType s.dialect) :
    ∃ next next', ss.foldlM register r = .ok next ∧ ss'.foldlM register r = .ok next' ∧
      ∀ type dialect, next.resolve type dialect = next'.resolve type dialect := by
  have hnodup : ((r.serializers ++ ss).map Serializer.pair).Nodup := by
    rw [List.map_append, List.nodup_append]
    refine ⟨h.nodup, hpairs, ?_⟩
    intro pair hpair other hother heq
    obtain ⟨s, hs, rfl⟩ := List.mem_map.mp hother
    rw [heq] at hpair
    exact hnew s hs (Registry.contains_iff.mpr hpair)
  have happend := hperm.append_left r.serializers
  have hnodup' := (happend.map Serializer.pair).nodup_iff.mp hnodup
  refine ⟨_, _, foldlM_register hnodup, foldlM_register hnodup', ?_⟩
  intro type dialect
  rw [resolve, resolve, find?, find?]
  simp only [Serializer.serves_eq]
  rw [find?_key_eq_of_perm happend hnodup]

/-- However a registry has been filled, each pair of a value type and a dialect belongs to the
serializer that has claimed it first, whatever is called later. A call is refused if and only if its
pair is taken; it then changes nothing, and otherwise it adds its serializer alone. A pair is
resolved if and only if it is taken, by a serializer that is for the pair. There are as many
serializers as pairs, each of them is listed once for its dialect, and the order in which new pairs
are claimed does not matter. -/
theorem pairs_belong_to_first_claim :
    (Dialect.all.flatMap Serializer.builtins).foldl insert empty = withBuiltins ∧
    ∀ start ∈ [empty, withBuiltins], ∀ calls : List Serializer,
      let r := start.attempts calls
      let claims := start.serializers ++ calls
      (∀ type dialect s, r.resolve type dialect = .ok s ↔
        claims.find? (fun s => s.serves type dialect) = some s) ∧
      (∀ later type dialect s, r.resolve type dialect = .ok s →
        (r.attempts later).resolve type dialect = .ok s) ∧
      (∀ s, (registerInPlace s).run r = outcome r (r.register s)) ∧
      (∀ s, r.contains s.valueType s.dialect →
        (registerInPlace s).run r = .error (.duplicate s.valueType s.dialect) r) ∧
      (∀ s, ¬r.contains s.valueType s.dialect → ∃ next : Registry,
        (registerInPlace s).run r = .ok () next ∧ next.size = r.size + 1 ∧
        ∀ type dialect, next.resolve type dialect =
          if s.serves type dialect then .ok s else r.resolve type dialect) ∧
      (∀ type dialect, if r.contains type dialect
        then ∃ s, r.resolve type dialect = .ok s ∧ s.valueType = type ∧ s.dialect = dialect
        else r.resolve type dialect = .error (.unknownType type dialect)) ∧
      r.size = (claims.map Serializer.pair).dedup.length ∧
      (∀ dialect, ((r.forDialect dialect).map Serializer.valueType).Nodup ∧
        ∀ s, s ∈ r.forDialect dialect ↔
          s.dialect = dialect ∧ r.resolve s.valueType dialect = .ok s) ∧
      ∀ ss ss' : List Serializer, ss.Perm ss' → (ss.map Serializer.pair).Nodup →
        (∀ s ∈ ss, ¬r.contains s.valueType s.dialect) →
        ∃ next next' : Registry,
          ss.foldlM register r = .ok next ∧ ss'.foldlM register r = .ok next' ∧
          ∀ type dialect, next.resolve type dialect = next'.resolve type dialect := by
  refine ⟨foldl_insert_builtins, ?_⟩
  intro start hstart calls r claims
  have hholds : r.Holds claims := by
    rcases List.mem_pair.mp hstart with rfl | rfl
    · exact holds_empty.attempts calls
    · exact holds_withBuiltins.attempts calls
  refine ⟨?_, ?_, run_registerInPlace r, ?_, ?_, ?_, hholds.size_eq, ?_, ?_⟩
  · intro type dialect s
    rw [resolve_eq_ok, hholds.find?_eq]
  · intro later type dialect s hs
    rw [resolve_eq_ok] at hs ⊢
    rw [(hholds.attempts later).find?_eq, List.find?_append, ← hholds.find?_eq, hs, Option.some_or]
  · intro s hs
    rw [run_registerInPlace, register, if_pos hs, outcome]
  · intro s hs
    refine ⟨r.insert s, ?_, ?_, resolve_insert hs⟩
    · rw [run_registerInPlace, register_of_new hs, outcome]
    · rw [insert_of_new hs, size, List.length_append, List.length_singleton, size]
  · exact resolve_cases r
  · exact fun dialect => ⟨hholds.nodup_forDialect, fun s => hholds.mem_forDialect_iff⟩
  · exact fun ss ss' => hholds.exists_foldlM_of_perm

/-- Money is claimed as text first, and again later. Dates have a built-in serializer. -/
theorem pairs_belong_to_first_claim_of_money :
    let money : Serializer := ⟨.custom "Money", .sqlite, "TEXT", .varchar, Codec.text⟩
    let again : Serializer := { money with dbType := "NUMERIC" }
    let abroad : Serializer := { money with dialect := .postgres }
    let point : Serializer := { abroad with valueType := .custom "Point" }
    let date : Serializer := ⟨.date, .sqlite, "TEXT", .varchar, Codec.text⟩
    let r := withBuiltins.attempts [money, date, again]
    r.resolve (.custom "Money") .sqlite = .ok money ∧
    (r.attempts [again, date]).resolve (.custom "Money") .sqlite = .ok money ∧
    r.contains .date .sqlite ∧
    (registerInPlace date).run r = .error (.duplicate .date .sqlite) r ∧
    ¬r.contains (.custom "Money") .postgres ∧
    (∃ next : Registry, (registerInPlace abroad).run r = .ok () next ∧
      next.resolve (.custom "Money") .postgres = .ok abroad) ∧
    ∃ next next' : Registry, [abroad, point].foldlM register r = .ok next ∧
      [point, abroad].foldlM register r = .ok next' ∧
      next.resolve (.custom "Point") .postgres = next'.resolve (.custom "Point") .postgres := by
  intro money again abroad point date r
  obtain ⟨hfirst, hlater, -, htaken, hnew, -, -, -, horder⟩ :=
    pairs_belong_to_first_claim.2 withBuiltins (by simp) [money, date, again]
  have hmoney : r.resolve (.custom "Money") .sqlite = .ok money := (hfirst _ _ _).mpr rfl
  have hdate : r.contains .date .sqlite := by decide +kernel
  have habroad : ¬r.contains (.custom "Money") .postgres := by decide +kernel
  obtain ⟨next, hnext, -, hresolve⟩ := hnew abroad habroad
  have hpoint : ¬r.contains (.custom "Point") .postgres := by decide +kernel
  have hpairs : ([abroad, point].map Serializer.pair).Nodup := by decide
  have hboth : ∀ s ∈ [abroad, point], ¬r.contains s.valueType s.dialect :=
    List.forall_mem_cons.mpr ⟨habroad, List.forall_mem_singleton.mpr hpoint⟩
  obtain ⟨one, other, hone, hother, hsame⟩ :=
    horder [abroad, point] [point, abroad] (.swap _ _ _) hpairs hboth
  exact ⟨hmoney, hlater _ _ _ _ hmoney, hdate, htaken date hdate, habroad,
    ⟨next, hnext, hresolve _ _⟩, one, other, hone, hother, hsame _ _⟩

end Registry

end RecordTables
