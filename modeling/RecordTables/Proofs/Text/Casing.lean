import Mathlib.Data.List.Basic

/-!
# Letters in lower case

Lower case changes the 26 capital letters and nothing else. What it makes of them it leaves alone.
-/

namespace RecordTables.Text

theorem toLower_eq_or_isCapital (c : Char) :
    c.toLower = c ∨ ∃ i < 26, c = Char.ofNat (65 + i) := by
  by_cases hc : 'A' ≤ c ∧ c ≤ 'Z'
  · have hlow : 65 ≤ c.toNat := UInt32.le_iff_toNat_le.mp hc.1
    have hhigh : c.toNat ≤ 90 := UInt32.le_iff_toNat_le.mp hc.2
    refine .inr ⟨c.toNat - 65, by omega, ?_⟩
    rw [Nat.add_sub_cancel' hlow, Char.ofNat_toNat]
  · exact .inl (dif_neg hc)

theorem toLower_toLower (c : Char) : c.toLower.toLower = c.toLower := by
  have hcapital : ∀ i < 26,
      (Char.ofNat (65 + i)).toLower.toLower = (Char.ofNat (65 + i)).toLower := by
    decide
  rcases toLower_eq_or_isCapital c with h | ⟨i, hi, rfl⟩
  · rw [h, h]
  · exact hcapital i hi

theorem toLower_eq_iff {mark : Char} (hmark : ¬mark.isAlpha) (c : Char) :
    c.toLower = mark ↔ c = mark := by
  have hcapital : ∀ i < 26,
      (Char.ofNat (65 + i)).toLower.isAlpha ∧ (Char.ofNat (65 + i)).isAlpha := by
    decide
  rcases toLower_eq_or_isCapital c with h | ⟨i, hi, rfl⟩
  · rw [h]
  · obtain ⟨hlower, hupper⟩ := hcapital i hi
    constructor
    · rintro rfl
      exact absurd hlower hmark
    · rintro rfl
      exact absurd hupper hmark

theorem map_toLower_eq_some_iff {mark : Char} (hmark : ¬mark.isAlpha) (c : Option Char) :
    c.map Char.toLower = some mark ↔ c = some mark := by
  simp only [Option.map_eq_some_iff, toLower_eq_iff hmark, exists_eq_right]

end RecordTables.Text
