import Mathlib.Data.List.Basic
import Mathlib.Data.List.Induction
import Mathlib.Data.List.TakeWhile
import RecordTables.Text

/-!
# Reading written digits

The digits of a number read back as that number, with leading zeros or without, and a reader of
digits stops where they end.
-/

namespace RecordTables.Text

theorem digits_ne_nil (n : Nat) : digits n ≠ [] :=
  Nat.toDigits_ne_nil

theorem isDigit_of_mem_digits {n : Nat} {c : Char} (h : c ∈ digits n) : c.isDigit :=
  Nat.isDigit_of_mem_toDigits (by decide) (by decide) h

theorem exists_digits_eq_cons (n : Nat) : ∃ d ds, digits n = d :: ds ∧ d.isDigit := by
  obtain ⟨d, ds, hds⟩ := List.exists_cons_of_ne_nil (digits_ne_nil n)
  exact ⟨d, ds, hds, isDigit_of_mem_digits (hds ▸ List.mem_cons_self)⟩

theorem exists_signedDigits_eq_cons (n : Int) :
    ∃ c s, signedDigits n = c :: s ∧ (c.isDigit ∨ c = '-') := by
  rw [signedDigits]
  split
  · exact ⟨'-', _, rfl, .inr rfl⟩
  · obtain ⟨d, ds, hds, hd⟩ := exists_digits_eq_cons n.natAbs
    exact ⟨d, ds, hds, .inl hd⟩

theorem digits_of_lt {n : Nat} (h : n < 10) : digits n = [n.digitChar] :=
  Nat.toDigits_of_lt_base h

private theorem digits_of_le {n : Nat} (h : 10 ≤ n) :
    digits n = digits (n / 10) ++ [(n % 10).digitChar] :=
  Nat.toDigits_of_base_le (by decide) h

theorem head?_digits_ne_zero {n : Nat} (h : 0 < n) : (digits n).head? ≠ some '0' := by
  induction n using Nat.strongRecOn with
  | ind n ih =>
    by_cases hn : n < 10
    · rw [digits_of_lt hn, List.head?_cons, ne_eq, Option.some_inj, Nat.digitChar_eq_zero]
      omega
    · rw [digits_of_le (by omega), List.head?_append_of_ne_nil _ (digits_ne_nil _)]
      exact ih (n / 10) (by omega) (by omega)

theorem ofDigits_digits (n : Nat) : ofDigits (digits n) = n :=
  Nat.ofDigitChars_ten_toDigits

private theorem ofDigits_zeros_append (count : Nat) (s : List Char) :
    ofDigits (List.replicate count '0' ++ s) = ofDigits s := by
  induction count with
  | zero => rfl
  | succ count ih => rw [← ih]; rfl

theorem ofDigits_padded (width n : Nat) : ofDigits (padded width n) = n := by
  rw [padded, ofDigits_zeros_append, ofDigits_digits]

theorem isDigit_of_mem_padded {width n : Nat} {c : Char} (h : c ∈ padded width n) : c.isDigit := by
  rcases List.mem_append.mp h with h | h
  · rw [(List.mem_replicate.mp h).2]
    rfl
  · exact isDigit_of_mem_digits h

theorem length_padded {width n : Nat} (hpos : 0 < width) (h : n < 10 ^ width) :
    (padded width n).length = width := by
  have hle : (digits n).length ≤ width := (Nat.length_toDigits_le_iff (by decide) hpos).mpr h
  rw [padded, List.length_append, List.length_replicate]
  omega

private theorem readDigits?_append {least : Nat} {ds : List Char} (hds : ∀ c ∈ ds, c.isDigit)
    (hleast : least ≤ ds.length) (rest : List Char) :
    readDigits? least ds.length (ds ++ rest) = some (ofDigits ds, rest) := by
  have htake : (ds ++ rest).take ds.length = ds := List.take_left
  have hrun : ds.takeWhile Char.isDigit = ds := List.takeWhile_eq_self_iff.mpr hds
  simp only [readDigits?, htake, hrun, List.drop_left, if_neg (Nat.not_lt.mpr hleast)]

theorem readDigits?_padded {least width n : Nat} (hleast : least ≤ width) (hpos : 0 < width)
    (h : n < 10 ^ width) (rest : List Char) :
    readDigits? least width (padded width n ++ rest) = some (n, rest) := by
  have hlength := length_padded hpos h
  have hleast' : least ≤ (padded width n).length := by omega
  have hread := readDigits?_append (fun _ => isDigit_of_mem_padded) hleast' rest
  rwa [hlength, ofDigits_padded] at hread

theorem padded_ne_nil (width n : Nat) : padded width n ≠ [] :=
  List.append_ne_nil_of_right_ne_nil _ (digits_ne_nil n)

private theorem takeWhile_take_eq_nil {rest : List Char} (h : ∀ c ∈ rest.head?, ¬c.isDigit)
    (most : Nat) :
    (rest.take most).takeWhile Char.isDigit = [] := by
  cases rest with
  | nil => simp
  | cons c rest =>
    have hc := h c rfl
    cases most <;> simp [hc]

theorem readDigits?_of_append {least most : Nat} {ds rest : List Char} (hds : ∀ c ∈ ds, c.isDigit)
    (hleast : least ≤ ds.length) (hmost : ds.length ≤ most)
    (hrest : ∀ c ∈ rest.head?, ¬c.isDigit) :
    readDigits? least most (ds ++ rest) = some (ofDigits ds, rest) := by
  have hrun : ((ds ++ rest).take most).takeWhile Char.isDigit = ds := by
    rw [List.take_append, List.take_of_length_le hmost, List.takeWhile_append_of_pos hds,
      takeWhile_take_eq_nil hrest, List.append_nil]
  simp only [readDigits?, hrun, if_neg (Nat.not_lt.mpr hleast), List.drop_left]

theorem exists_digits_of_readDigits? {least most n : Nat} {s rest : List Char}
    (h : readDigits? least most s = some (n, rest)) :
    ∃ ds, s = ds ++ rest ∧ (∀ c ∈ ds, c.isDigit) ∧ least ≤ ds.length ∧ ds.length ≤ most ∧
      ofDigits ds = n := by
  simp only [readDigits?] at h
  split at h
  · cases h
  · next hleast =>
    cases h
    have hfront : (s.take most).takeWhile Char.isDigit <+: s :=
      (List.takeWhile_prefix _).trans (List.take_prefix _ _)
    have hlength : ((s.take most).takeWhile Char.isDigit).length ≤ most :=
      Nat.le_trans (List.takeWhile_sublist _).length_le (List.length_take_le _ _)
    refine ⟨_, (List.prefix_iff_eq_append.mp hfront).symm, ?_, Nat.not_lt.mp hleast, hlength, rfl⟩
    intro c hc
    exact List.mem_takeWhile_imp hc

theorem toNat_of_isDigit {c : Char} (h : c.isDigit) : 48 ≤ c.toNat ∧ c.toNat ≤ 57 := by
  simpa [Char.isDigit, UInt32.le_iff_toNat_le] using h

private theorem digitValue_lt {c : Char} (h : c.isDigit) : digitValue c < 10 := by
  have hcode := toNat_of_isDigit h
  have hzero : '0'.toNat = 48 := rfl
  rw [digitValue, hzero]
  omega

private theorem ofDigits_append_singleton (s : List Char) (c : Char) :
    ofDigits (s ++ [c]) = 10 * ofDigits s + digitValue c := by
  simp only [ofDigits, List.foldl_append, List.foldl_cons, List.foldl_nil]

private theorem ofDigits_lt {s : List Char} (h : ∀ c ∈ s, c.isDigit) :
    ofDigits s < 10 ^ s.length := by
  induction s using List.reverseRecOn with
  | nil => decide
  | append_singleton s c ih =>
    have hs := ih fun d hd => h d (List.mem_append_left _ hd)
    have hc := digitValue_lt (h c (List.mem_append_right _ List.mem_cons_self))
    rw [ofDigits_append_singleton, List.length_append, List.length_singleton, Nat.pow_succ]
    omega

theorem readDigits?_lt {least most n : Nat} {s rest : List Char}
    (h : readDigits? least most s = some (n, rest)) : n < 10 ^ most := by
  obtain ⟨ds, -, hds, -, hmost, rfl⟩ := exists_digits_of_readDigits? h
  exact Nat.lt_of_lt_of_le (ofDigits_lt hds) (Nat.pow_le_pow_right (by decide) hmost)

theorem readDigits?_eq_none {least most : Nat} {s : List Char} (hleast : 0 < least)
    (h : ∀ c ∈ s.head?, ¬c.isDigit) : readDigits? least most s = none := by
  simp [readDigits?, takeWhile_take_eq_nil h, hleast]

end RecordTables.Text
