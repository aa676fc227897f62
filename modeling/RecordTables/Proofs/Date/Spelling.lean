import RecordTables.Date.Text
import RecordTables.Proofs.Text.Digits

/-!
# Spellings of dates

Which texts spell a year, a month and a day, said without the reader. The reader takes these texts
and no others, so that a spelling is read if and only if its parts are a day of the calendar.
-/

namespace RecordTables.Date

open RecordTables.Text

/-- The text consists of digits, of one at least, that write the number. -/
structure IsNumeral (s : List Char) (n : Nat) : Prop where
  digits : ∀ c ∈ s, c.isDigit
  nonempty : 1 ≤ s.length
  value_eq : ofDigits s = n

/-- The text spells a year: blanks, and then at most four digits, or a sign and digits. -/
inductive SpellsYear : List Char → Int → Prop
  | unsigned {blanks ds : List Char} {n : Nat} (hblanks : ∀ c ∈ blanks, isBlank c)
      (hds : IsNumeral ds n) (hlength : ds.length ≤ 4) : SpellsYear (blanks ++ ds) n
  | positive {blanks ds : List Char} {n : Nat} (hblanks : ∀ c ∈ blanks, isBlank c)
      (hds : IsNumeral ds n) : SpellsYear (blanks ++ '+' :: ds) n
  | negative {blanks ds : List Char} {n : Nat} (hblanks : ∀ c ∈ blanks, isBlank c)
      (hds : IsNumeral ds n) : SpellsYear (blanks ++ '-' :: ds) (-n)

/-- The text spells a month or a day: blanks, and then one or two digits. -/
inductive SpellsPair : List Char → Nat → Prop
  | digits {blanks ds : List Char} {n : Nat} (hblanks : ∀ c ∈ blanks, isBlank c)
      (hds : IsNumeral ds n) (hlength : ds.length ≤ 2) : SpellsPair (blanks ++ ds) n

/-- The text spells a year, a month and a day with hyphens between them. -/
inductive Spells : List Char → Int → Nat → Nat → Prop
  | parts {y m d : List Char} {year : Int} {month day : Nat} (hyear : SpellsYear y year)
      (hmonth : SpellsPair m month) (hday : SpellsPair d day) :
      Spells (y ++ '-' :: m ++ '-' :: d) year month day

private theorem isBlank_eq_false_of_isDigit {c : Char} (h : c.isDigit) : isBlank c = false := by
  have hcode := toNat_of_isDigit h
  simp only [isBlank, Bool.or_eq_false_iff, Bool.and_eq_false_iff, decide_eq_false_iff_not,
    beq_eq_false_iff_ne]
  omega

private theorem skipBlanks_append {blanks s : List Char} (hblanks : ∀ c ∈ blanks, isBlank c)
    (hs : ∀ c ∈ s.head?, isBlank c = false) : skipBlanks (blanks ++ s) = s := by
  rw [skipBlanks, List.dropWhile_append_of_pos hblanks]
  cases s with
  | nil => rfl
  | cons c s => rw [List.dropWhile_cons_of_neg (by simp [hs c rfl])]

private theorem exists_blanks (s : List Char) :
    ∃ blanks, s = blanks ++ skipBlanks s ∧ ∀ c ∈ blanks, isBlank c := by
  refine ⟨s.takeWhile isBlank, List.takeWhile_append_dropWhile.symm, ?_⟩
  intro c hc
  exact List.mem_takeWhile_imp hc

private theorem exists_numeral {most n : Nat} {s rest : List Char}
    (h : readDigits? 1 most s = some (n, rest)) :
    ∃ ds, s = ds ++ rest ∧ IsNumeral ds n ∧ ds.length ≤ most := by
  obtain ⟨ds, hs, hds, hnonempty, hmost, hvalue⟩ := exists_digits_of_readDigits? h
  exact ⟨ds, hs, ⟨hds, hnonempty, hvalue⟩, hmost⟩

private theorem exists_numeral_of_map {most : Nat} {s rest : List Char} {f : Nat → Int} {year : Int}
    (h : (readDigits? 1 most s).map (fun (n, rest) => (f n, rest)) = some (year, rest)) :
    ∃ ds n, s = ds ++ rest ∧ IsNumeral ds n ∧ ds.length ≤ most ∧ f n = year := by
  obtain ⟨⟨n, rest⟩, hdigits, hvalue⟩ := Option.map_eq_some_iff.mp h
  cases hvalue
  obtain ⟨ds, hs, hds, hlength⟩ := exists_numeral hdigits
  exact ⟨ds, n, hs, hds, hlength, rfl⟩

private theorem expect?_eq_some {c : Char} {s rest : List Char} :
    expect? c s = some rest ↔ s = c :: rest := by
  cases s with
  | nil => simp [expect?]
  | cons d s => simp [expect?, eq_comm]

section Numeral

variable {ds rest : List Char} {n : Nat} (h : IsNumeral ds n)

include h

private theorem IsNumeral.exists_eq_cons : ∃ d s, ds = d :: s ∧ d.isDigit := by
  obtain ⟨d, s, hds⟩ := List.exists_cons_of_length_pos h.nonempty
  exact ⟨d, s, hds, h.digits d (hds ▸ List.mem_cons_self)⟩

private theorem IsNumeral.head_notBlank : ∀ c ∈ (ds ++ rest).head?, isBlank c = false := by
  obtain ⟨d, s, rfl, hd⟩ := h.exists_eq_cons
  simpa using isBlank_eq_false_of_isDigit hd

variable (hrest : ∀ c ∈ rest.head?, ¬c.isDigit)

include hrest

private theorem readDigits?_numeral {most : Nat} (hmost : ds.length ≤ most) :
    readDigits? 1 most (ds ++ rest) = some (n, rest) := by
  rw [readDigits?_of_append h.digits h.nonempty hmost hrest, h.value_eq]

private theorem readNumber?_numeral : readNumber? (ds ++ rest) = some (n, rest) :=
  readDigits?_numeral h hrest (by simp)

end Numeral

private theorem readYear?_of_isDigit {d : Char} {s t : List Char} (hd : d.isDigit)
    (h : skipBlanks s = d :: t) :
    readYear? s = (readDigits? 1 4 (d :: t)).map fun (n, rest) => ((n : Int), rest) := by
  rw [readYear?, h]
  split
  · next heq =>
    cases heq
    exact absurd hd (by decide)
  · next heq =>
    cases heq
    exact absurd hd (by decide)
  · rfl

section Reading

variable {s rest : List Char}

theorem SpellsYear.read {year : Int} (h : SpellsYear s year)
    (hrest : ∀ c ∈ rest.head?, ¬c.isDigit) : readYear? (s ++ rest) = some (year, rest) := by
  cases h with
  | @unsigned blanks ds n hblanks hds hlength =>
    obtain ⟨d, t, hcons, hd⟩ := hds.exists_eq_cons
    have hskip : skipBlanks (blanks ++ (ds ++ rest)) = d :: (t ++ rest) := by
      rw [skipBlanks_append hblanks hds.head_notBlank, hcons, List.cons_append]
    have hread := readDigits?_numeral hds hrest hlength
    rw [hcons, List.cons_append] at hread
    rw [List.append_assoc, readYear?_of_isDigit hd hskip, hread, Option.map_some]
  | @positive blanks ds n hblanks hds =>
    have hskip : skipBlanks (blanks ++ ('+' :: ds ++ rest)) = '+' :: (ds ++ rest) :=
      skipBlanks_append hblanks (by simp [show isBlank '+' = false by decide])
    rw [List.append_assoc, readYear?, hskip]
    simp only [readNumber?_numeral hds hrest, Option.map_some]
  | @negative blanks ds n hblanks hds =>
    have hskip : skipBlanks (blanks ++ ('-' :: ds ++ rest)) = '-' :: (ds ++ rest) :=
      skipBlanks_append hblanks (by simp [show isBlank '-' = false by decide])
    rw [List.append_assoc, readYear?, hskip]
    simp only [readNumber?_numeral hds hrest, Option.map_some]

theorem SpellsPair.read {n : Nat} (h : SpellsPair s n) (hrest : ∀ c ∈ rest.head?, ¬c.isDigit) :
    readPair? (s ++ rest) = some (n, rest) := by
  cases h with
  | digits hblanks hds hlength =>
    rw [List.append_assoc, readPair?, skipBlanks_append hblanks hds.head_notBlank]
    exact readDigits?_numeral hds hrest hlength

private theorem exists_spellsYear {year : Int} (h : readYear? s = some (year, rest)) :
    ∃ t, s = t ++ rest ∧ SpellsYear t year := by
  obtain ⟨blanks, hs, hblanks⟩ := exists_blanks s
  rw [readYear?] at h
  split at h
  · next t hskip =>
    obtain ⟨ds, n, rfl, hds, -, rfl⟩ := exists_numeral_of_map (f := fun n => -(n : Int)) h
    refine ⟨blanks ++ '-' :: ds, ?_, .negative hblanks hds⟩
    rw [hs, hskip, List.append_assoc, List.cons_append]
  · next t hskip =>
    obtain ⟨ds, n, rfl, hds, -, rfl⟩ := exists_numeral_of_map (f := fun n => (n : Int)) h
    refine ⟨blanks ++ '+' :: ds, ?_, .positive hblanks hds⟩
    rw [hs, hskip, List.append_assoc, List.cons_append]
  · obtain ⟨ds, n, hskip, hds, hlength, rfl⟩ :=
      exists_numeral_of_map (f := fun n => (n : Int)) h
    refine ⟨blanks ++ ds, ?_, .unsigned hblanks hds hlength⟩
    rw [hs, hskip, List.append_assoc]

private theorem exists_spellsPair {n : Nat} (h : readPair? s = some (n, rest)) :
    ∃ t, s = t ++ rest ∧ SpellsPair t n := by
  obtain ⟨blanks, hs, hblanks⟩ := exists_blanks s
  obtain ⟨ds, hskip, hds, hlength⟩ := exists_numeral h
  refine ⟨blanks ++ ds, ?_, .digits hblanks hds hlength⟩
  rw [hs, hskip, List.append_assoc]

variable {year : Int} {month day : Nat}

/-- The parts of a spelling end where the hyphens are, so the reader finds them. -/
private theorem Spells.readParts (h : Spells s year month day) :
    readParts? false s = some ((year, month, day), []) := by
  obtain ⟨hyear, hmonth, hday⟩ := h
  have hhyphen : ∀ t : List Char, ∀ c ∈ ('-' :: t).head?, ¬c.isDigit := by
    intro t c hc
    cases hc
    decide
  have hlast : readPair? (_ ++ []) = some (day, []) := hday.read (by simp)
  rw [List.append_nil] at hlast
  simp only [readParts?, List.append_assoc, List.cons_append, hyear.read (hhyphen _),
    hmonth.read (hhyphen _), hlast, expect?, if_true, Bool.false_eq_true, if_false,
    Option.bind_eq_bind, Option.bind_some, Option.pure_def]

private theorem spells_of_readParts (h : readParts? false s = some ((year, month, day), [])) :
    Spells s year month day := by
  simp only [readParts?, Bool.false_eq_true, if_false, Option.bind_eq_bind,
    Option.bind_eq_some_iff, Option.pure_def, expect?_eq_some] at h
  obtain ⟨⟨_, _⟩, hyear, _, rfl, ⟨_, _⟩, hmonth, _, rfl, ⟨_, _⟩, hday, heq⟩ := h
  cases heq
  obtain ⟨y, rfl, hy⟩ := exists_spellsYear hyear
  obtain ⟨m, rfl, hm⟩ := exists_spellsPair hmonth
  obtain ⟨d, rfl, hd⟩ := exists_spellsPair hday
  have hparts := Spells.parts hy hm hd
  rwa [List.append_assoc, List.cons_append, ← List.append_nil d] at hparts

theorem Spells.read (h : Spells s year month day) : read? s = of? year month day := by
  simp [read?, readWith?, h.readParts]

theorem spells_of_read {d : Date} (h : read? s = some d) : Spells s d.year d.month d.day := by
  simp only [read?, readWith?, Option.bind_eq_bind, Option.bind_eq_some_iff] at h
  obtain ⟨⟨⟨year, month, day⟩, rest⟩, hparts, hdate⟩ := h
  simp only [Bool.false_eq_true, if_false] at hdate
  split at hdate
  · next hempty =>
    rw [List.isEmpty_iff.mp hempty] at hparts
    rw [of?] at hdate
    split at hdate
    · cases hdate
      exact spells_of_readParts hparts
    · cases hdate
  · cases hdate

end Reading

end RecordTables.Date
