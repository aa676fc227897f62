import RecordTables.Proofs.Timestamp.RoundTrip

/-!
# Moments that are read

A text states a date in a year of four digits, but its zone can move the moment to the day before or
after. So a moment that is read can lie outside these years, though not by more than a day.
-/

namespace RecordTables.Timestamp

open RecordTables.Text

/-- Whether a moment is on the last day before year 0 or on the first day after year 9999. -/
def IsJustOutside (t : Timestamp) : Prop :=
  t.seconds / Clock.daySeconds = Calendar.dayNumber (-1) 12 31 ∨
    t.seconds / Clock.daySeconds = Calendar.dayNumber 10000 1 1

private theorem seconds_of_of? {seconds : Int} {nanos : Nat} {t : Timestamp}
    (h : of? seconds nanos = some t) : t.seconds = seconds := by
  rw [of?] at h
  split at h
  · cases h
    rfl
  · cases h

private theorem readHoursMinutes?_lt {separation : List Char → Option (List Char)} {negative : Bool}
    {s rest : List Char} {offset : Int}
    (h : readHoursMinutes? separation negative s = some (offset, rest)) :
    offset.natAbs < 86400 := by
  simp only [readHoursMinutes?, Option.bind_eq_bind, Option.bind_eq_some_iff] at h
  obtain ⟨⟨hours, s₁⟩, -, s₂, -, ⟨minutes, s₃⟩, -, hoffset⟩ := h
  split at hoffset
  · cases hoffset
    split <;> omega
  · cases hoffset

private theorem readZone?_lt {separation : List Char → Option (List Char)} {s rest : List Char}
    {offset : Int} (h : readZone? separation s = some (offset, rest)) : offset.natAbs < 86400 := by
  rw [readZone?.eq_def] at h
  split at h
  · cases h
    decide
  · cases h
    decide
  · exact readHoursMinutes?_lt h
  · exact readHoursMinutes?_lt h
  · exact readHoursMinutes?_lt h
  · cases h

private theorem exists_reading {s : List Char} {t : Timestamp} (h : read? s = some t) :
    ∃ (r : Reading) (offset : Int), r.moment? offset = some t ∧ (0 ≤ r.year ∧ r.year ≤ 9999) ∧
      offset.natAbs < 86400 := by
  simp only [read?, Option.bind_eq_bind, Option.bind_eq_some_iff] at h
  obtain ⟨⟨year, s₁⟩, hyear, ⟨month, s₂⟩, -, ⟨day, s₃⟩, -, ⟨hour, s₄⟩, -, ⟨minute, s₅⟩, -,
    ⟨second, s₆⟩, -, ⟨nanos, s₇⟩, -, ⟨offset, s₈⟩, hoffset, hmoment⟩ := h
  have hfour := readDigits?_lt hyear
  have hbounds : 0 ≤ (year : Int) ∧ (year : Int) ≤ 9999 := by omega
  split at hmoment
  · exact ⟨_, offset, hmoment, hbounds, readZone?_lt hoffset⟩
  · cases hmoment

/-- A moment is on the day that its text states, or on the day before or after it. -/
private theorem exists_stated_day {r : Reading} {offset : Int} {t : Timestamp}
    (h : r.moment? offset = some t) (hoffset : offset.natAbs < 86400) :
    ∃ day : Date, day.year = r.year ∧
      (t.seconds / Clock.daySeconds -
        Calendar.dayNumber day.year day.month day.day).natAbs ≤ 1 := by
  simp only [Reading.moment?, Option.bind_eq_bind, Option.bind_eq_some_iff] at h
  obtain ⟨day, hday, hmoment⟩ := h
  obtain ⟨hyear, hmonth, hdate⟩ := Date.parts_of_of? hday
  refine ⟨day, hyear, ?_⟩
  rw [hyear, hmonth, hdate]
  split at hmoment
  · rw [seconds_of_of? hmoment, Clock.daySeconds]
    omega
  · cases hmoment

theorem isJustOutside_iff {s : List Char} {t : Timestamp} {day : Date} (h : read? s = some t)
    (hday : Calendar.dayNumber day.year day.month day.day = t.seconds / Clock.daySeconds) :
    t.IsJustOutside ↔ ¬(0 ≤ day.year ∧ day.year ≤ 9999) := by
  obtain ⟨r, offset, hmoment, hyear, hoffset⟩ := exists_reading h
  obtain ⟨stated, hstated, hnear⟩ := exists_stated_day hmoment hoffset
  rw [← hstated] at hyear
  rw [IsJustOutside, ← hday]
  rw [← hday] at hnear
  have hbefore : Calendar.dayNumber (-1) 12 31 + Calendar.epoch = Calendar.daysBeforeYear 0 - 1 :=
    by decide
  have hafter : Calendar.dayNumber 10000 1 1 + Calendar.epoch = Calendar.daysBeforeYear 10000 := by
    decide
  have hstated₀ := stated.year_lt_iff 0
  have hstated₁ := stated.year_lt_iff 10000
  have hday₀ := day.year_lt_iff 0
  have hday₁ := day.year_lt_iff 10000
  constructor <;> intro hout <;> omega

end RecordTables.Timestamp
