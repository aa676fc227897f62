import Mathlib.Data.Fintype.BigOperators
import Mathlib.Data.Fintype.Pigeonhole
import Mathlib.Data.List.Nodup
import Mathlib.Data.List.OfFn
import RecordTables.Serializer.Builtin
import RecordTables.Proofs.Check
import RecordTables.Proofs.Value.Equality

/-!
# Equal queries

Equal queries have the same text and bind the same values under the same names and wire types,
whatever digests are taken. Two things escape the comparison. The encoders do not count, so equal
queries can send different driver values; they do not where no two serializers share a wire type.
And documents that differ in the signs of zeros are equal values: their digests tell them apart,
unless these collide.
-/

namespace RecordTables

namespace QueryValue

/-- Whether a value is bound the way one of some serializers binds. -/
def IsBoundWith (serializers : List Serializer) (v : QueryValue) : Prop :=
  ∃ s ∈ serializers, v.wireType = s.wireType ∧ v.encoder = s.codec.encoder

variable [Digest] {v w : QueryValue}

/-- Two bound values of different octets have the same digest. -/
def Collides (v w : QueryValue) : Prop :=
  v.octets ≠ w.octets ∧ v.digest = w.digest

/-- Two bound values hold the same value, but for zero signs that their digests do not see. -/
def Agrees (v w : QueryValue) : Prop :=
  v.name = w.name ∧ v.wireType = w.wireType ∧
    (v.value = w.value ∨ v.value.same w.value ∧ v.Collides w)

theorem same_iff (v w : QueryValue) : v.same w ↔ v.Agrees w := by
  rw [same, decide_eq_true_eq, Agrees]
  constructor
  · rintro ⟨hdigest, hname, hvalue, hwire⟩
    refine ⟨hname, hwire, ?_⟩
    by_cases hoctets : v.octets = w.octets
    · rw [octets, octets, hname, hwire] at hoctets
      have hsame := List.append_cancel_left (List.append_cancel_right hoctets)
      exact .inl ((Value.same_and_octets_eq_iff _ _).mp ⟨hvalue, hsame⟩)
    · exact .inr ⟨hvalue, hoctets, hdigest⟩
  · rintro ⟨hname, hwire, hvalue | ⟨hvalue, -, hdigest⟩⟩
    · refine ⟨?_, hname, ?_, hwire⟩
      · rw [digest, digest, octets, octets, hname, hwire, hvalue]
      · rw [hvalue]
        exact Value.same_equivalence.refl _
    · exact ⟨hdigest, hname, hvalue, hwire⟩

private theorem digest_eq_of_same (h : v.same w) : v.digest = w.digest := by
  rw [same, decide_eq_true_eq] at h
  exact h.1

/-- Equality of values is reflexive, symmetric and transitive, and forgets nothing but the signs of
zeros in documents. Equal values have the same octets exactly if they are identical. A serializer
binds two values to equal bound values exactly if they are identical, or if they are equal and the
digests of what they are bound to collide. -/
theorem equal_values_bind_alike_but_for_zero_signs (a b c : Value) :
    a.same a ∧ (a.same b → b.same a) ∧ (a.same b → b.same c → a.same c) ∧
      (a.same b ↔ a.positiveZeros = b.positiveZeros) ∧
      ((a.same b ∧ a.octets = b.octets) ↔ a = b) ∧
      ∀ (name : String) (s : Serializer),
        let v := ofSerializer name a s
        let w := ofSerializer name b s
        v.same w ↔ a = b ∨ a.same b ∧ v.Collides w := by
  refine ⟨Value.same_equivalence.refl a, Value.same_equivalence.symm, Value.same_equivalence.trans,
    Value.same_iff a b, Value.same_and_octets_eq_iff a b, ?_⟩
  intro name s v w
  rw [same_iff]
  exact ⟨fun h => h.2.2, fun h => ⟨rfl, rfl, h⟩⟩

end QueryValue

/-- The documents `0.0` and `-0.0` are equal values of different octets, and they are bound to
values that are not equal. -/
theorem QueryValue.equal_zeros_bind_apart :
    let zero : Value := .json (.number (.float ⟨0⟩ (by decide)))
    let negative : Value := .json (.number (.float ⟨0x8000000000000000⟩ (by decide)))
    let s : Serializer := ⟨.json, .sqlite, "JSON", .json, Codec.Sqlite.json⟩
    zero.same negative ∧ zero.octets ≠ negative.octets ∧ zero.fingerprint ≠ negative.fingerprint ∧
      ¬(ofSerializer "document" zero s).same (ofSerializer "document" negative s) := by
  decide +kernel

namespace Query

open QueryValue (Agrees Collides IsBoundWith)

private theorem nodup_wireType_builtins (dialect : Dialect) :
    ((Serializer.builtins dialect).map (·.wireType)).Nodup := by
  cases dialect <;> decide

section

variable [Digest] {p q : Query}

private theorem sameValues_iff (vs ws : List QueryValue) :
    sameValues vs ws ↔ List.Forall₂ Agrees vs ws := by
  induction vs generalizing ws with
  | nil => cases ws <;> simp [sameValues]
  | cons v vs ih =>
    cases ws with
    | nil => simp [sameValues]
    | cons w ws => simp [sameValues, QueryValue.same_iff, ih]

private theorem map_digest_eq {vs ws : List QueryValue} (h : List.Forall₂ Agrees vs ws) :
    vs.map QueryValue.digest = ws.map QueryValue.digest := by
  induction h with
  | nil => rfl
  | cons hvw _ ih =>
    rw [List.map_cons, List.map_cons, ih,
      QueryValue.digest_eq_of_same ((QueryValue.same_iff _ _).mpr hvw)]

/-- Equal values have equal digests, so that of the query decides nothing. -/
private theorem digest_eq (hsql : p.sql = q.sql) (hvalues : List.Forall₂ Agrees p.values q.values) :
    p.digest = q.digest := by
  have hdigests := congrArg (List.flatMap fun d => Digest.number 8 d.toNat) (map_digest_eq hvalues)
  rw [List.flatMap_map, List.flatMap_map] at hdigests
  rw [digest, digest, hsql, hvalues.length_eq, hdigests]

theorem same_iff (p q : Query) :
    p.same q ↔ p.sql = q.sql ∧ List.Forall₂ Agrees p.values q.values := by
  rw [same, decide_eq_true_eq, sameValues_iff]
  exact ⟨fun h => h.2, fun h => ⟨digest_eq h.1 h.2, h⟩⟩

private theorem dialectSql_eq_of_same (h : p.same q) (dialect : Dialect) :
    p.dialectSql dialect = q.dialectSql dialect := by
  have hsql := ((same_iff p q).mp h).1
  cases dialect with
  | sqlite => exact hsql
  | postgres => simp only [dialectSql, hsql]

private theorem map_wireType_eq {vs ws : List QueryValue} (h : List.Forall₂ Agrees vs ws) :
    vs.map (·.wireType) = ws.map (·.wireType) := by
  induction h with
  | nil => rfl
  | cons hvw _ ih => rw [List.map_cons, List.map_cons, hvw.2.1, ih]

private theorem encodedValues_eq_of_same (h : p.same q)
    (hencode : p.values.map QueryValue.encode = q.values.map QueryValue.encode) :
    p.encodedValues = q.encodedValues := by
  have hpairs := congrArg₂ List.zip (map_wireType_eq ((same_iff p q).mp h).2) hencode
  rw [List.zip_map', List.zip_map'] at hpairs
  -- Encoding reads no more of a bound value than its wire type and what it encodes to.
  have hsend := congrArg (List.mapM fun c => do
    let encoded ← c.2
    return (c.1, encoded)) hpairs
  rwa [List.mapM_map, List.mapM_map] at hsend

private theorem eq_or_collides {serializers : List Serializer}
    (hwire : (serializers.map (·.wireType)).Nodup) {v w : QueryValue}
    (hv : v.IsBoundWith serializers) (hw : w.IsBoundWith serializers) (h : v.Agrees w) :
    v = w ∨ v.value ≠ w.value ∧ v.Collides w := by
  by_cases hvalue : v.value = w.value
  · obtain ⟨s, hs, hwires, hencoder⟩ := hv
    obtain ⟨s', hs', hwires', hencoder'⟩ := hw
    have heq : s = s' :=
      List.inj_on_of_nodup_map hwire hs hs' (by rw [← hwires, ← hwires', h.2.1])
    refine .inl ?_
    rw [← heq] at hencoder'
    cases v
    cases w
    simp_all [Agrees]
  · exact .inr ⟨hvalue, (h.2.2.resolve_left hvalue).2⟩

/-- Values that agree one by one are identical, or the digests of two of them collide. -/
private theorem values_eq_or_collide {serializers : List Serializer}
    (hwire : (serializers.map (·.wireType)).Nodup) {vs ws : List QueryValue}
    (hvs : ∀ v ∈ vs, v.IsBoundWith serializers) (hws : ∀ w ∈ ws, w.IsBoundWith serializers)
    (h : List.Forall₂ Agrees vs ws) :
    vs = ws ∨ vs.map (·.value) ≠ ws.map (·.value) ∧ ∃ v ∈ vs, ∃ w ∈ ws, v.Collides w := by
  induction h with
  | nil => exact .inl rfl
  | @cons v w vs ws hvw _ ih =>
    obtain ⟨hv, hvtail⟩ := List.forall_mem_cons.mp hvs
    obtain ⟨hw, hwtail⟩ := List.forall_mem_cons.mp hws
    rcases eq_or_collides hwire hv hw hvw with rfl | ⟨hvalue, hcollides⟩
    · rcases ih hvtail hwtail with rfl | ⟨hvalues, v', hv', w', hw', hcollides⟩
      · exact .inl rfl
      · refine .inr ⟨?_, v', List.mem_cons_of_mem _ hv', w', List.mem_cons_of_mem _ hw', hcollides⟩
        intro heq
        exact hvalues (List.cons.inj heq).2
    · refine .inr ⟨?_, v, List.mem_cons_self, w, List.mem_cons_self, hcollides⟩
      intro heq
      exact hvalue (List.cons.inj heq).1

/-- Whatever digests are taken, queries are equal exactly if they have the same text and their
values agree one by one: in name, in wire type, and in the value itself but for zero signs that a
collision hides. They then have equal digests and the same text in every dialect, and send the same
driver values or fail with the same error if they encode each value alike. Where both bind with
serializers of which no two share a wire type, equal queries are identical if they bind identical
values, and otherwise two of these have colliding digests. -/
theorem equal_queries_differ_in_encoders_and_zero_signs (p q : Query) :
    (p.same q ↔ p.sql = q.sql ∧ List.Forall₂ Agrees p.values q.values) ∧
    (p.same q → p.digest = q.digest ∧ (∀ dialect, p.dialectSql dialect = q.dialectSql dialect) ∧
      (p.values.map QueryValue.encode = q.values.map QueryValue.encode →
        p.encodedValues = q.encodedValues)) ∧
    ∀ serializers : List Serializer, (serializers.map (·.wireType)).Nodup →
      (∀ v ∈ p.values, v.IsBoundWith serializers) → (∀ w ∈ q.values, w.IsBoundWith serializers) →
      (p.same q ∧ p.values.map (·.value) = q.values.map (·.value) ↔ p = q) ∧
        (p.same q → p = q ∨ ∃ v ∈ p.values, ∃ w ∈ q.values, v.Collides w) := by
  refine ⟨same_iff p q, ?_, ?_⟩
  · intro h
    obtain ⟨hsql, hvalues⟩ := (same_iff p q).mp h
    exact ⟨digest_eq hsql hvalues, dialectSql_eq_of_same h, encodedValues_eq_of_same h⟩
  · intro serializers hwire hp hq
    have hcases : p.same q → p = q ∨ p.values.map (·.value) ≠ q.values.map (·.value) ∧
        ∃ v ∈ p.values, ∃ w ∈ q.values, v.Collides w := by
      intro h
      obtain ⟨hsql, hvalues⟩ := (same_iff p q).mp h
      refine (values_eq_or_collide hwire hp hq hvalues).imp_left ?_
      intro hidentical
      cases p
      cases q
      cases hsql
      cases hidentical
      rfl
    refine ⟨⟨?_, ?_⟩, fun h => (hcases h).imp_right And.right⟩
    · rintro ⟨h, hvalues⟩
      exact (hcases h).resolve_right fun hdiffer => hdiffer.1 hvalues
    · rintro rfl
      exact ⟨(same_iff p p).mpr ⟨rfl, List.forall₂_same.mpr fun v _ => ⟨rfl, rfl, .inl rfl⟩⟩, rfl⟩

end

/-- Two queries are built apart for the same identifier with a built-in serializer. -/
theorem equal_queries_differ_in_encoders_and_zero_signs_of_uuid :
    let v : QueryValue :=
      ⟨"id", .uuid ⟨List.replicate 16 0, rfl⟩, .uuid, Codec.Sqlite.uuid.encoder⟩
    let p : Query := ⟨"SELECT ?", [v]⟩
    let q : Query := ⟨"SELECT ?", [v]⟩
    p.same q ∧ v.IsBoundWith (Serializer.builtins .sqlite) ∧
      p.encodedValues = q.encodedValues := by
  intro v p q
  have hbound : v.IsBoundWith (Serializer.builtins .sqlite) :=
    ⟨⟨.uuid, .sqlite, "CHAR(36)", .uuid, Codec.Sqlite.uuid⟩,
      by simp [Serializer.builtins, Serializer.sqlite], rfl, rfl⟩
  obtain ⟨-, hagree, hidentical⟩ := equal_queries_differ_in_encoders_and_zero_signs p q
  have hsame : p.same q :=
    ((hidentical _ (nodup_wireType_builtins .sqlite) (by simpa [p] using hbound)
      (by simpa [q] using hbound)).1.mpr rfl).1
  exact ⟨hsame, hbound, (hagree hsame).2.2 rfl⟩

/-- The same identifier is sent as text to one database and as it is to the other, but the queries
that bind it are equal. -/
theorem equal_queries_send_different_values :
    let u : Uuid := ⟨List.replicate 16 0, rfl⟩
    let query (codec : Codec) : Query := ⟨"SELECT ?", [⟨"id", .uuid u, .uuid, codec.encoder⟩]⟩
    ((Serializer.builtin? .uuid .sqlite).map (·.codec) = some Codec.Sqlite.uuid ∧
      (Serializer.builtin? .uuid .postgres).map (·.codec) = some Codec.Postgres.uuid) ∧
    (query Codec.Sqlite.uuid).same (query Codec.Postgres.uuid) ∧
    (query Codec.Sqlite.uuid).encodedValues = .ok [(.uuid, .text u.text)] ∧
    (query Codec.Postgres.uuid).encodedValues = .ok [(.uuid, .uuid u)] ∧
    (query Codec.Sqlite.uuid).encodedValues ≠ (query Codec.Postgres.uuid).encodedValues := by
  intro u query
  have hagree : List.Forall₂ QueryValue.Agrees (query Codec.Sqlite.uuid).values
      (query Codec.Postgres.uuid).values :=
    .cons ⟨rfl, rfl, .inl rfl⟩ .nil
  refine ⟨⟨rfl, rfl⟩, (same_iff _ _).mpr ⟨rfl, hagree⟩, rfl, rfl, ?_⟩
  intro h
  cases h

end Query

/-! ## Documents of zeros -/

namespace Json

def zero (negative : Bool) : Json :=
  .number (.float ⟨if negative then 0x8000000000000000 else 0⟩ (by cases negative <;> decide))

private theorem zero_injective : Function.Injective zero := by
  intro a b h
  cases a <;> cases b <;> first | rfl | simp [zero] at h

private theorem same_zero (a b : Bool) : (zero a).same (zero b) := by
  revert a b
  decide

private theorem sameItems_map_zero {as bs : List Bool} (h : as.length = bs.length) :
    sameItems (as.map zero) (bs.map zero) := by
  induction as generalizing bs with
  | nil =>
    rw [List.length_eq_zero_iff.mp h.symm]
    rfl
  | cons a as ih =>
    cases bs with
    | nil => cases h
    | cons b bs => simp [sameItems, same_zero, ih (Nat.succ.inj h)]

end Json

/-- No way to take digests tells all documents apart that differ in the signs of zeros: two of them
are bound by the same serializer in equal queries, which send different texts. -/
theorem Query.exists_same_and_encodedValues_ne [Digest] :
    ∃ p q : Query,
      (∀ v ∈ p.values ++ q.values, v.IsBoundWith (Serializer.builtins .sqlite)) ∧
      p.same q ∧ p.encodedValues ≠ q.encodedValues := by
  let document (signs : Fin 65 → Bool) : Json := .array ((List.ofFn signs).map .zero)
  let v (signs : Fin 65 → Bool) : QueryValue :=
    ⟨"document", .json (document signs), .json, Codec.Sqlite.json.encoder⟩
  have hbound : ∀ signs, (v signs).IsBoundWith (Serializer.builtins .sqlite) := fun signs =>
    ⟨⟨.json, .sqlite, "JSON", .json, Codec.Sqlite.json⟩,
      by simp [Serializer.builtins, Serializer.sqlite], rfl, rfl⟩
  -- There are more documents of 65 zeros than numbers of 64 bits.
  obtain ⟨signs, signs', hne, hdigest⟩ :=
    Fintype.exists_ne_map_eq_of_card_lt (fun signs => (v signs).digest.toFin)
      (by simp [UInt64.size])
  have hsame : (document signs).same (document signs') := Json.sameItems_map_zero (by simp)
  have hcompact : (document signs).compact ≠ (document signs').compact := by
    intro h
    have hdocument := (Json.same_and_compact_eq_iff _ _).mp ⟨hsame, h⟩
    have hzeros := List.map_injective_iff.mpr Json.zero_injective (Json.array.inj hdocument)
    exact hne (List.ofFn_injective hzeros)
  have hvalue : (v signs).same (v signs') := by
    rw [QueryValue.same, decide_eq_true_eq]
    exact ⟨UInt64.toFin_inj.mp hdigest, rfl, hsame, rfl⟩
  have hsend : ∀ signs, encodedValues ⟨"SELECT ?", [v signs]⟩ =
      .ok [(.json, .text (document signs).compact)] := fun _ => rfl
  refine ⟨⟨"SELECT ?", [v signs]⟩, ⟨"SELECT ?", [v signs']⟩, ?_, ?_, ?_⟩
  · simp [hbound]
  · exact (same_iff _ _).mpr ⟨rfl, .cons ((QueryValue.same_iff _ _).mp hvalue) .nil⟩
  · rw [hsend, hsend]
    intro h
    exact hcompact (by simpa using h)

end RecordTables
