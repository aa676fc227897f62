import RecordTables.Serializer.Builtin
import RecordTables.Proofs.Date.Calendar
import RecordTables.Proofs.Text.Digits

/-!
# Stored moments

A moment is stored as text with as many decimals as it needs. It is read back exactly if its year
has four digits; the reader refuses the text of any other moment.
-/

namespace RecordTables.Timestamp

open RecordTables.Text
open RecordTables.Date (expect? partsChars yearChars)

private theorem readFraction?_decimals {width n : Nat} (hpos : 0 < width) (hle : width ≤ 9)
    (h : n < 10 ^ width) (rest : List Char) :
    readFraction? ('.' :: (padded width n ++ 'Z' :: rest)) =
      some (n * 10 ^ (9 - width), 'Z' :: rest) := by
  have hlength := length_padded hpos h
  have hrun : (padded width n ++ 'Z' :: rest).takeWhile Char.isDigit = padded width n := by
    rw [List.takeWhile_append_of_pos fun _ => isDigit_of_mem_padded,
      List.takeWhile_cons_of_neg (by decide), List.append_nil]
  have hsome : (padded width n).isEmpty = false := by
    cases hpadded : padded width n with
    | nil =>
      rw [hpadded, List.length_nil] at hlength
      omega
    | cons => rfl
  have hkept : (padded width n).take 9 = padded width n := List.take_of_length_le (by omega)
  simp only [readFraction?, hrun, hsome, hkept, hlength, ofDigits_padded, Bool.false_eq_true,
    if_false, List.drop_left' hlength]

private theorem readFraction?_fractionChars {nanos : Nat} (h : nanos < Clock.secondNanos)
    (rest : List Char) :
    readFraction? (fractionChars nanos ++ 'Z' :: rest) = some (nanos, 'Z' :: rest) := by
  rw [Clock.secondNanos] at h
  rw [fractionChars]
  split
  · next hzero =>
    rw [hzero]
    rfl
  · split
    · rw [List.cons_append, readFraction?_decimals (by decide) (by decide) (by omega)]
      congr 2
      omega
    · split
      · rw [List.cons_append, readFraction?_decimals (by decide) (by decide) (by omega)]
        congr 2
        omega
      · rw [List.cons_append, readFraction?_decimals (by decide) (by decide) (by omega)]
        congr 2
        omega

private theorem read?_parts (year month day hour minute second nanos : Nat) (hyear : year < 10 ^ 4)
    (hmonth : month < 10 ^ 2) (hday : day < 10 ^ 2) (hhour : hour < 10 ^ 2)
    (hminute : minute < 10 ^ 2) (hsecond : second < 10 ^ 2) (hnanos : nanos < Clock.secondNanos) :
    read? (padded 4 year ++ '-' :: padded 2 month ++ '-' :: padded 2 day ++ 'T' ::
      (padded 2 hour ++ ':' :: padded 2 minute ++ ':' :: padded 2 second ++ fractionChars nanos) ++
        ['Z']) =
      Reading.moment? ⟨year, month, day, hour, minute, second, nanos⟩ 0 := by
  have hpair : ∀ {n}, n < 10 ^ 2 → ∀ rest, readDigits? 2 2 (padded 2 n ++ rest) = some (n, rest) :=
    readDigits?_padded (Nat.le_refl 2) (by decide)
  have hfour := readDigits?_padded (Nat.le_refl 4) (by decide) hyear
  simp only [List.append_assoc, List.cons_append, read?, hfour, hpair hmonth,
    hpair hday, hpair hhour, hpair hminute, hpair hsecond, readFraction?_fractionChars hnanos,
    expect?, readSeparator?, readZone?, if_true, Option.bind_eq_bind, Option.bind_some,
    List.isEmpty_nil]

private theorem moment?_eq_some {t : Timestamp} {day : Date} {hour minute second nanos : Nat}
    (hday : Calendar.dayNumber day.year day.month day.day = t.seconds / Clock.daySeconds)
    (hhour : hour < 24) (hminute : minute < 60) (hsecond : second ≤ 60)
    (hclock : t.seconds % Clock.daySeconds = hour * 3600 + minute * 60 + min second 59)
    (hnanos : t.nanos = nanos + if second = 60 then Clock.secondNanos else 0) :
    Reading.moment? ⟨day.year, day.month, day.day, hour, minute, second, nanos⟩ 0 = some t := by
  have hdate : Date.of? day.year day.month day.day = some day := dif_pos day.is_day
  have hseconds : Calendar.dayNumber day.year day.month day.day * Clock.daySeconds +
      ((hour : Int) * 3600 + minute * 60 + min second 59) - 0 = t.seconds := by
    rw [hday, ← hclock, Int.sub_zero, Int.mul_comm, Int.mul_ediv_add_emod]
  have hof : of? t.seconds t.nanos = some t := dif_pos t.is_moment
  simp only [Reading.moment?, hdate, bind, Option.bind, hseconds, ← hnanos, hof]
  rw [if_pos ⟨hhour, hminute, hsecond⟩]

theorem exists_day (t : Timestamp) :
    ∃ day : Date, ∀ e : Date,
      Calendar.dayNumber e.year e.month e.day = t.seconds / Clock.daySeconds ↔ e = day := by
  obtain ⟨hlow, hhigh, -, -⟩ := t.is_moment
  apply Calendar.exists_date
  · rw [Clock.leastSecond] at hlow
    exact Int.le_ediv_of_mul_le (by decide) hlow
  · rw [Clock.greatestSecond] at hhigh
    apply Int.le_of_lt_add_one
    apply Int.ediv_lt_of_lt_mul (by decide)
    omega

section Written

variable {t : Timestamp} {day : Date}
  (hday : Calendar.dayNumber day.year day.month day.day = t.seconds / Clock.daySeconds)

include hday

private theorem chars_eq :
    t.chars = partsChars day.year day.month day.day ++
      'T' :: clockChars (t.seconds % Clock.daySeconds).toNat t.nanos ++ ['Z'] := by
  have hcivil := Calendar.civil_dayNumber day.is_day.2.2.1 day.is_day.2.2.2
  rw [chars, charsWith, ← hday, hcivil]

theorem read?_chars (hyear : 0 ≤ day.year ∧ day.year ≤ 9999) : read? t.chars = some t := by
  obtain ⟨-, -, hnanos, hleap⟩ := t.is_moment
  have hmonth := day.is_day.month_le
  have hdays := day.is_day.day_le
  have hsecond : ((t.seconds % Clock.daySeconds).toNat : Int) = t.seconds % Clock.daySeconds :=
    Int.toNat_of_nonneg (Int.emod_nonneg _ (by decide))
  rw [chars_eq hday]
  generalize (t.seconds % Clock.daySeconds).toNat = second at hsecond
  rw [Clock.daySeconds] at hsecond
  have hnatAbs : (day.year.natAbs : Int) = day.year := Int.natAbs_of_nonneg hyear.1
  have hread := read?_parts day.year.natAbs day.month day.day (second / 3600) (second / 60 % 60)
    (second % 60 + if Clock.secondNanos ≤ t.nanos then 1 else 0)
    (if Clock.secondNanos ≤ t.nanos then t.nanos - Clock.secondNanos else t.nanos)
    (by omega) (by omega) (by omega) (by omega) (by omega) (by split <;> omega)
    (by split <;> omega)
  rw [partsChars, yearChars, if_pos hyear, clockChars]
  simp only [List.append_assoc, List.cons_append] at hread ⊢
  rw [hread, hnatAbs]
  apply moment?_eq_some hday
  · omega
  · omega
  · split <;> omega
  · rw [Clock.daySeconds]
    split <;> omega
  · split <;> split <;> omega

theorem read?_chars_eq_none (hyear : ¬(0 ≤ day.year ∧ day.year ≤ 9999)) :
    read? t.chars = none := by
  have hsign : ∀ s, readDigits? 4 4 (yearChars day.year ++ s) = none := by
    intro s
    apply readDigits?_eq_none (by decide)
    rw [yearChars, if_neg hyear]
    intro c hc
    split at hc <;> (cases hc; decide)
  rw [chars_eq hday]
  simp only [partsChars, List.append_assoc, read?, hsign]
  rfl

end Written

/-- A moment is stored as its text. It is read back exactly if the year of its date has four digits,
and the text of any other moment cannot be decoded. -/
theorem stored_moments_read_back :
    ∃ s, Serializer.builtin? .timestamp .sqlite = some s ∧ ∀ t : Timestamp,
      s.encode (.timestamp t) = .ok (.text t.text) ∧
      ∃ day : Date,
        (∀ e : Date, Calendar.dayNumber e.year e.month e.day = t.seconds / Clock.daySeconds ↔
          e = day) ∧
        s.decode (.text t.text) =
          if 0 ≤ day.year ∧ day.year ≤ 9999 then .ok (.timestamp t)
          else .error (.cannotDecode (.text t.text) "Timestamp") := by
  refine ⟨_, rfl, fun t => ⟨rfl, ?_⟩⟩
  obtain ⟨day, hday⟩ := t.exists_day
  refine ⟨day, hday, ?_⟩
  have hdate := (hday day).mpr rfl
  split
  · next hyear =>
    apply Codec.Sqlite.decodeText_eq_ok
    rw [text, String.toList_ofList, read?_chars hdate hyear, Option.map_some]
  · next hyear =>
    apply Codec.Sqlite.decodeText_eq_error
    rw [text, String.toList_ofList, read?_chars_eq_none hdate hyear, Option.map_none]

end RecordTables.Timestamp
