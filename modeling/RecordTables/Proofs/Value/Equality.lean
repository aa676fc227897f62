import RecordTables.Query
import RecordTables.Proofs.Json.Equality

/-!
# Equal values

Equality of values is an equivalence relation which forgets nothing but the signs of zeros in
documents. The octets of a value keep these signs, so equal values have the same octets exactly if
they are identical.
-/

namespace RecordTables

namespace Value

/-- The value without the signs of zeros in a document. -/
def positiveZeros : Value → Value
  | .json j => .json j.positiveZeros
  | v => v

theorem same_iff (a b : Value) : a.same b ↔ a.positiveZeros = b.positiveZeros := by
  cases a with
  | json a => cases b <;> simp [same, positiveZeros, Json.same_iff]
  | _ => cases b <;> simp [same, positiveZeros]

theorem same_equivalence : Equivalence fun a b : Value => a.same b = true where
  refl a := (same_iff a a).mpr rfl
  symm h := (same_iff _ _).mpr ((same_iff _ _).mp h).symm
  trans h h' := (same_iff _ _).mpr (((same_iff _ _).mp h).trans ((same_iff _ _).mp h'))

private theorem eq_of_same {a b : Value} (h : a.same b) (hjson : ∀ j, a ≠ .json j) : a = b := by
  rw [same_iff] at h
  cases a with
  | json j => exact absurd rfl (hjson j)
  | _ => cases b <;> simp_all [positiveZeros]

theorem same_and_octets_eq_iff (a b : Value) : (a.same b ∧ a.octets = b.octets) ↔ a = b := by
  constructor
  · rintro ⟨h, hoctets⟩
    by_cases hjson : ∃ j, a = .json j
    · obtain ⟨j, rfl⟩ := hjson
      cases b with
      | json k =>
        have hcompact : j.compact = k.compact :=
          Digest.text_injective (List.append_cancel_left hoctets)
        rw [(Json.same_and_compact_eq_iff j k).mp ⟨h, hcompact⟩]
      | _ => cases h
    · exact eq_of_same h (not_exists.mp hjson)
  · rintro rfl
    exact ⟨same_equivalence.refl a, rfl⟩

end Value

end RecordTables
