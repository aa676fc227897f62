import RecordTables.Declaration.Name
import RecordTables.Proofs.Identifier.Rules

/-!
# Names in declarations

A name is checked twice, when a declaration is read and when a table is built of it. The first check
passes the names that the second one passes.
-/

namespace RecordTables.NameFault

open Identifier

theorem isDigit_eq (c : Char) : (decide ('0' ≤ c) && decide (c ≤ '9')) = c.isDigit := rfl

theorem isAlpha_eq (c : Char) : c.isAlpha =
    (decide ('A' ≤ c ∧ c ≤ 'Z') || (decide ('a' ≤ c) && decide (c ≤ 'z'))) := rfl

private theorem isNamePart_eq (c : Char) : isNamePart c = isPart c := by
  rw [isNamePart, isPart, Char.isAlphanum, isAlpha_eq, isDigit_eq, Bool.decide_and,
    Bool.or_comm (decide ('A' ≤ c) && decide (c ≤ 'Z'))]

private theorem isDigit_eq_false_of_isStart {c : Char} (h : isStart c) : c.isDigit = false := by
  have hstart : c.isAlpha ∨ c = '_' := by simpa [isStart] using h
  rcases hstart with halpha | rfl
  · simp only [isAlpha_eq, Bool.or_eq_true, Bool.and_eq_true, decide_eq_true_eq, Char.le_def,
      UInt32.le_iff_toNat_le] at halpha
    simp only [← isDigit_eq, Bool.and_eq_false_iff, decide_eq_false_iff_not, Char.le_def,
      UInt32.le_iff_toNat_le]
    have hnine : '9'.val.toNat = 57 := rfl
    have hupper : 'A'.val.toNat = 65 := rfl
    have hlower : 'a'.val.toNat = 97 := rfl
    omega
  · rfl

private theorem isStart_iff (c : Char) : isStart c ↔ isNamePart c ∧ ¬c.isDigit := by
  rw [isNamePart_eq]
  constructor
  · intro h
    refine ⟨?_, ?_⟩
    · have hstart : c.isAlpha ∨ c = '_' := by simpa [isStart] using h
      rcases hstart with halpha | rfl
      · simp [isPart, Char.isAlphanum, halpha]
      · rfl
    · simp [isDigit_eq_false_of_isStart h]
  · intro h
    have hdigit : c.isDigit = false := by simpa using h.2
    simpa [isStart, isPart, Char.isAlphanum, hdigit] using h.1

variable {name : String}

theorem occursIn_empty : occursIn name .empty ↔ name = "" := by
  simp [occursIn]

theorem occursIn_tooLong : occursIn name .tooLong ↔ greatestLength < name.utf8ByteSize := by
  rw [occursIn, decide_eq_true_iff, byteLimit, greatestLength]

theorem occursIn_badStart :
    occursIn name .badStart ↔ ∃ c, name.toList.head? = some c ∧ ¬isStart c := by
  have hstart (c : Char) : (!isNamePart c || ('0' ≤ c && c ≤ '9')) = true ↔ ¬isStart c := by
    rw [isStart_iff, isDigit_eq]
    simp [imp_iff_not_or]
  rw [occursIn]
  cases name.toList.head? with
  | none => simp
  | some c => simpa using hstart c

theorem occursIn_badCharacter : occursIn name .badCharacter ↔ ∃ c ∈ name.toList, ¬isPart c := by
  simp [occursIn, isNamePart_eq]

theorem first?_eq_none_iff_forall : first? name = none ↔ ∀ fault, ¬occursIn name fault := by
  rw [first?, List.find?_eq_none]
  constructor
  · intro h fault
    exact h fault (by cases fault <;> decide)
  · intro h fault _
    exact h fault

theorem first?_eq_none_iff : first? name = none ↔ IsValid name := by
  rw [first?_eq_none_iff_forall]
  constructor
  · intro h
    refine ⟨mt occursIn_empty.mpr (h .empty), ?_, ?_, ?_⟩
    · exact Nat.not_lt.mp (mt occursIn_tooLong.mpr (h .tooLong))
    · intro c hc
      by_contra hstart
      exact h .badStart (occursIn_badStart.mpr ⟨c, hc, hstart⟩)
    · intro c hc
      by_contra hpart
      exact h .badCharacter (occursIn_badCharacter.mpr ⟨c, hc, hpart⟩)
  · intro h fault hoccurs
    cases fault with
    | empty => exact h.nonempty (occursIn_empty.mp hoccurs)
    | tooLong => exact Nat.not_lt.mpr h.short (occursIn_tooLong.mp hoccurs)
    | badStart =>
      obtain ⟨c, hc, hstart⟩ := occursIn_badStart.mp hoccurs
      exact hstart (h.start c hc)
    | badCharacter =>
      obtain ⟨c, hc, hpart⟩ := occursIn_badCharacter.mp hoccurs
      exact hpart (h.parts c hc)

end RecordTables.NameFault
