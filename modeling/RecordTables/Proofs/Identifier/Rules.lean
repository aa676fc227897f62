import RecordTables.Identifier
import RecordTables.Proofs.Rule

/-!
# The rules of identifiers

What makes a name an identifier, as a property of the name and as rules in the order in which their
errors are reported.
-/

namespace RecordTables.Identifier

/-- The name has one to 63 bytes, all of them ASCII letters, digits and underscores, and does not
start with a digit. -/
structure IsValid (name : String) : Prop where
  nonempty : name ≠ ""
  short : name.utf8ByteSize ≤ greatestLength
  start : ∀ c, name.toList.head? = some c → isStart c
  parts : ∀ c ∈ name.toList, isPart c

def rules (name : String) : List (Rule IdentifierError) :=
  [.of (name ≠ "") .empty,
    .of (name.utf8ByteSize ≤ greatestLength) (.tooLong name),
    .of (∀ c, name.toList.head? = some c → isStart c) (.invalidStart name),
    .of (∀ c ∈ name.toList, isPart c) (.invalidCharacters name)]

theorem isValid_iff {name : String} : IsValid name ↔ ∀ rule ∈ rules name, rule.holds := by
  simp only [rules, List.forall_mem_cons, Rule.of]
  constructor
  · rintro ⟨hnonempty, hshort, hstart, hparts⟩
    exact ⟨hnonempty, hshort, hstart, hparts, by simp⟩
  · rintro ⟨hnonempty, hshort, hstart, hparts, _⟩
    exact ⟨hnonempty, hshort, hstart, hparts⟩

theorem check_follows (name : String) : Rule.Follows (check name) (rules name) := by
  rw [check, rules]
  split
  · next hempty => exact .broken (not_not.mpr (String.toList_eq_nil_iff.mp hempty))
  · next first rest hname =>
    have hnonempty : name ≠ "" := by
      rintro rfl
      cases hname
    apply Rule.Follows.held hnonempty
    split
    · next hlong => exact .broken (Nat.not_le.mpr hlong)
    · next hlong =>
      apply Rule.Follows.held (Nat.not_lt.mp hlong)
      have hhead : (∀ c, name.toList.head? = some c → isStart c) ↔ isStart first := by
        simp [hname]
      split
      · next hstart => exact .broken (mt hhead.mp hstart)
      · next hstart =>
        apply Rule.Follows.held (hhead.mpr (not_not.mp hstart))
        have hall : (∀ c ∈ name.toList, isPart c) ↔ (first :: rest).all isPart := by
          rw [hname, List.all_eq_true]
        split
        · next hparts => exact .broken (mt hall.mp hparts)
        · next hparts => exact .held (hall.mpr (not_not.mp hparts)) (.nil ())

end RecordTables.Identifier
