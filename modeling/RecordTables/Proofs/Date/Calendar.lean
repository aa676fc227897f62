import RecordTables.Date

/-!
# Numbered days

Every number stands for exactly one day of the calendar: the year, the month and the day that are
found for a number have that number, and they are found again for it.
-/

namespace RecordTables.Calendar

private theorem sum_monthLengths (leap : Bool) :
    (monthLengths leap).sum = if leap then 366 else 365 := by
  cases leap <;> rfl

private theorem daysBeforeYear_succ (year : Int) :
    daysBeforeYear (year + 1) = daysBeforeYear year + (monthLengths (isLeap year)).sum := by
  rw [sum_monthLengths]
  cases h : isLeap year with
  | false =>
    simp only [isLeap, decide_eq_false_iff_not] at h
    simp only [daysBeforeYear, Bool.false_eq_true, if_false]
    omega
  | true =>
    simp only [isLeap, decide_eq_true_eq] at h
    simp only [daysBeforeYear, if_true]
    omega

private theorem daysBeforeYear_mono {year later : Int} (h : year ≤ later) :
    daysBeforeYear year ≤ daysBeforeYear later := by
  simp only [daysBeforeYear]
  omega

/-- The year that is found for a day holds it. -/
private theorem yearOf_holds (days : Int) :
    daysBeforeYear (yearOf days) ≤ days ∧ days < daysBeforeYear (yearOf days + 1) := by
  -- 400 years have 146097 days, so the guess misses the year by one at most.
  simp only [yearOf]
  split
  · simp only [daysBeforeYear] at *
    omega
  · split
    · simp only [daysBeforeYear] at *
      omega
    · omega

private theorem yearOf_eq {year days : Int} (hlow : daysBeforeYear year ≤ days)
    (hhigh : days < daysBeforeYear (year + 1)) : yearOf days = year := by
  obtain ⟨hlow', hhigh'⟩ := yearOf_holds days
  rcases Int.lt_trichotomy (yearOf days) year with hlt | heq | hgt
  · have hle : daysBeforeYear (yearOf days + 1) ≤ daysBeforeYear year :=
      daysBeforeYear_mono (by omega)
    omega
  · exact heq
  · have hle : daysBeforeYear (year + 1) ≤ daysBeforeYear (yearOf days) :=
      daysBeforeYear_mono (by omega)
    omega

private theorem monthAndDay_eq {lengths : List Nat} {i day : Nat} (hpos : 1 ≤ day)
    (hle : day ≤ lengths.getD i 0) (first : Nat) :
    monthAndDay first lengths ((lengths.take i).sum + (day - 1)) = (first + i, day) := by
  induction lengths generalizing first i with
  | nil =>
    rw [List.getD_nil] at hle
    omega
  | cons length lengths ih =>
    cases i with
    | zero =>
      have hlt : day - 1 < length := by
        rw [List.getD_cons_zero] at hle
        omega
      simp only [List.take_zero, List.sum_nil, Nat.zero_add, monthAndDay, if_pos hlt]
      rw [Nat.sub_add_cancel hpos, Nat.add_zero]
    | succ i =>
      rw [List.getD_cons_succ] at hle
      have hge : ¬(length + (lengths.take i).sum + (day - 1) < length) := by omega
      have hrest : length + (lengths.take i).sum + (day - 1) - length =
          (lengths.take i).sum + (day - 1) := by omega
      rw [List.take_succ_cons, List.sum_cons, monthAndDay, if_neg hge, hrest, ih hle,
        Nat.add_right_comm, Nat.add_assoc]

private theorem exists_month {lengths : List Nat} {rest : Nat} (h : rest < lengths.sum) :
    ∃ i day, 1 ≤ day ∧ day ≤ lengths.getD i 0 ∧ rest = (lengths.take i).sum + (day - 1) := by
  induction lengths generalizing rest with
  | nil => simp at h
  | cons length lengths ih =>
    by_cases hlt : rest < length
    · exact ⟨0, rest + 1, by omega, by rwa [List.getD_cons_zero], by simp⟩
    · rw [List.sum_cons] at h
      have hless : rest - length < lengths.sum := by omega
      obtain ⟨i, day, hpos, hle, hrest⟩ := ih hless
      refine ⟨i + 1, day, hpos, by simpa using hle, ?_⟩
      rw [List.take_succ_cons, List.sum_cons]
      omega

theorem IsDay.month_le {year : Int} {month day : Nat} (h : IsDay year month day) : month ≤ 12 := by
  obtain ⟨-, -, hpos, hle⟩ := h
  by_cases hmonth : month ≤ 12
  · exact hmonth
  · have hlength : (0 :: monthLengths (isLeap year)).length = 13 := rfl
    rw [daysInMonth, List.getD_eq_getElem?_getD, List.getElem?_eq_none (by omega),
      Option.getD_none] at hle
    omega

theorem IsDay.day_le {year : Int} {month day : Nat} (h : IsDay year month day) : day ≤ 31 := by
  have hlengths : ∀ leap : Bool, ∀ month < 13, (0 :: monthLengths leap).getD month 0 ≤ 31 := by
    decide
  exact Nat.le_trans h.2.2.2 (hlengths _ month (Nat.lt_succ_of_le h.month_le))

private theorem sum_take_add_lt {lengths : List Nat} {i day : Nat} (hpos : 1 ≤ day)
    (hle : day ≤ lengths.getD i 0) : (lengths.take i).sum + (day - 1) < lengths.sum := by
  induction lengths generalizing i with
  | nil =>
    rw [List.getD_nil] at hle
    omega
  | cons length lengths ih =>
    cases i with
    | zero =>
      rw [List.getD_cons_zero] at hle
      simp only [List.take_zero, List.sum_nil, List.sum_cons]
      omega
    | succ i =>
      have hlt := ih (i := i) (by rwa [List.getD_cons_succ] at hle)
      simp only [List.take_succ_cons, List.sum_cons]
      omega

theorem civil_dayNumber {year : Int} {month day : Nat} (hpos : 1 ≤ day)
    (hle : day ≤ daysInMonth year month) :
    civil (dayNumber year month day) = (year, month, day) := by
  cases month with
  | zero =>
    rw [daysInMonth, List.getD_cons_zero] at hle
    omega
  | succ i =>
    rw [daysInMonth, List.getD_cons_succ] at hle
    have hlt := sum_take_add_lt hpos hle
    have hnext := daysBeforeYear_succ year
    have hdays : dayNumber year (i + 1) day + epoch = daysBeforeYear year +
        (((monthLengths (isLeap year)).take i).sum + (day - 1) : Nat) := by
      simp only [dayNumber, daysBeforeMonth, Nat.add_sub_cancel]
      omega
    have hyear : yearOf (dayNumber year (i + 1) day + epoch) = year := by
      apply yearOf_eq <;> omega
    have hrest : (dayNumber year (i + 1) day + epoch - daysBeforeYear year).toNat =
        ((monthLengths (isLeap year)).take i).sum + (day - 1) := by omega
    rw [civil, hyear, hrest, monthAndDay_eq hpos hle, Nat.add_comm]

private theorem exists_civil (number : Int) :
    ∃ year month day, civil number = (year, month, day) ∧ 1 ≤ day ∧ day ≤ daysInMonth year month ∧
      dayNumber year month day = number := by
  obtain ⟨hlow, hhigh⟩ := yearOf_holds (number + epoch)
  generalize hyear : yearOf (number + epoch) = year at hlow hhigh
  rw [daysBeforeYear_succ] at hhigh
  have hlt : (number + epoch - daysBeforeYear year).toNat < (monthLengths (isLeap year)).sum := by
    omega
  obtain ⟨i, day, hpos, hle, hrest⟩ := exists_month hlt
  refine ⟨year, i + 1, day, ?_, hpos, hle, ?_⟩
  · rw [civil, hyear, hrest, monthAndDay_eq hpos hle, Nat.add_comm]
  · simp only [dayNumber, daysBeforeMonth, Nat.add_sub_cancel]
    omega

theorem exists_date {number : Int} (hlow : dayNumber leastYear 1 1 ≤ number)
    (hhigh : number ≤ dayNumber greatestYear 12 31) :
    ∃ d : Date, ∀ e : Date, dayNumber e.year e.month e.day = number ↔ e = d := by
  obtain ⟨year, month, day, hcivil, hpos, hle, hnumber⟩ := exists_civil number
  have hyear : leastYear ≤ year ∧ year ≤ greatestYear := by
    obtain ⟨hafter, hbefore⟩ := yearOf_holds (number + epoch)
    have hfound : yearOf (number + epoch) = year := congrArg Prod.fst hcivil
    rw [hfound] at hafter hbefore
    constructor
    · refine Int.not_lt.mp fun hlt => ?_
      have hmono : daysBeforeYear (year + 1) ≤ daysBeforeYear leastYear :=
        daysBeforeYear_mono (by omega)
      have hfirst : dayNumber leastYear 1 1 = daysBeforeYear leastYear - epoch := by decide
      omega
    · refine Int.not_lt.mp fun hgt => ?_
      have hmono : daysBeforeYear (greatestYear + 1) ≤ daysBeforeYear year :=
        daysBeforeYear_mono (by omega)
      have hlast :
          dayNumber greatestYear 12 31 = daysBeforeYear (greatestYear + 1) - 1 - epoch := by decide
      omega
  refine ⟨⟨year, month, day, hyear.1, hyear.2, hpos, hle⟩, fun e => ⟨fun he => ?_, ?_⟩⟩
  · have hagain := civil_dayNumber e.is_day.2.2.1 e.is_day.2.2.2
    rw [he, hcivil] at hagain
    cases e
    cases hagain
    rfl
  · rintro rfl
    exact hnumber

end RecordTables.Calendar

namespace RecordTables.Date

open RecordTables.Calendar

theorem parts_of_of? {year : Int} {month day : Nat} {d : Date}
    (h : of? year month day = some d) : d.year = year ∧ d.month = month ∧ d.day = day := by
  rw [of?] at h
  split at h
  · cases h
    exact ⟨rfl, rfl, rfl⟩
  · cases h

theorem year_lt_iff (d : Date) (year : Int) :
    d.year < year ↔ dayNumber d.year d.month d.day + epoch < daysBeforeYear year := by
  have hyear : yearOf (dayNumber d.year d.month d.day + epoch) = d.year :=
    congrArg Prod.fst (civil_dayNumber d.is_day.2.2.1 d.is_day.2.2.2)
  have hholds := yearOf_holds (dayNumber d.year d.month d.day + epoch)
  rw [hyear] at hholds
  by_cases h : d.year < year
  · have hmono : daysBeforeYear (d.year + 1) ≤ daysBeforeYear year :=
      daysBeforeYear_mono h
    omega
  · have hmono : daysBeforeYear year ≤ daysBeforeYear d.year :=
      daysBeforeYear_mono (Int.not_lt.mp h)
    omega

end RecordTables.Date
