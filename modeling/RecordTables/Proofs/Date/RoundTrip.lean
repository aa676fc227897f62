import RecordTables.Proofs.Date.Calendar
import RecordTables.Proofs.Date.Spelling

/-!
# Reading written dates

The written form of a date spells it, in whatever year it is, and so it is read back.
-/

namespace RecordTables.Date

open RecordTables.Text

private theorem isNumeral_padded (width n : Nat) : IsNumeral (padded width n) n := by
  have hnonempty : 1 ≤ (padded width n).length := List.length_pos_of_ne_nil (padded_ne_nil width n)
  exact ⟨fun _ => isDigit_of_mem_padded, hnonempty, ofDigits_padded width n⟩

private theorem spellsPair_padded {n : Nat} (h : n < 10 ^ 2) : SpellsPair (padded 2 n) n := by
  have hlength : (padded 2 n).length = 2 := length_padded (by decide) h
  rw [← List.nil_append (padded 2 n)]
  exact .digits (List.forall_mem_nil _) (isNumeral_padded 2 n) hlength.le

private theorem spellsYear_yearChars (year : Int) : SpellsYear (yearChars year) year := by
  have hblanks : ∀ c ∈ ([] : List Char), isBlank c := List.forall_mem_nil _
  have hdigits := isNumeral_padded 4 year.natAbs
  rw [yearChars]
  split
  · next hfour =>
    have hlength : (padded 4 year.natAbs).length = 4 := length_padded (by decide) (by omega)
    have hyear := SpellsYear.unsigned hblanks hdigits hlength.le
    rwa [Int.natAbs_of_nonneg hfour.1] at hyear
  · split
    · next hneg =>
      have hyear := SpellsYear.negative hblanks hdigits
      rwa [Int.ofNat_natAbs_of_nonpos (Int.le_of_lt hneg), Int.neg_neg] at hyear
    · next hneg =>
      have hyear := SpellsYear.positive hblanks hdigits
      rwa [Int.natAbs_of_nonneg (Int.not_lt.mp hneg)] at hyear

theorem spells_partsChars (year : Int) {month day : Nat} (hmonth : month < 10 ^ 2)
    (hday : day < 10 ^ 2) : Spells (partsChars year month day) year month day :=
  .parts (spellsYear_yearChars year) (spellsPair_padded hmonth) (spellsPair_padded hday)

private theorem spells_chars (d : Date) : Spells d.chars d.year d.month d.day :=
  spells_partsChars d.year (Nat.lt_of_le_of_lt d.is_day.month_le (by decide))
    (Nat.lt_of_le_of_lt d.is_day.day_le (by decide))

theorem read?_chars (d : Date) : read? d.chars = some d := by
  rw [d.spells_chars.read]
  exact dif_pos d.is_day

end RecordTables.Date
