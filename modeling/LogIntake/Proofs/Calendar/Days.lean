import LogIntake.Calendar.Date
import Mathlib.Order.Monotone.Basic
import Mathlib.Tactic.SplitIfs

/-!
# Dates and the numbers of their days

* `daysBeforeYear_succ`, `daysBeforeMonth_succ`: the lengths of years and months add up.
* `Date.Exists`: a date of the calendar, whatever its year.
* `Date.bounds`: a date lies inside its year.
* `yearOfDay_eq`, `monthOfDay_spec`: the year and the month of a day.
* `Date.dayNumber_ofDayNumber`, **`Date.ofDayNumber_dayNumber`**: dates and their numbers are told
  from each other.
* `DateTime.IsCivil`: a date-time that clocks show; `DateTime.ofSeconds_seconds`,
  `DateTime.seconds_ofSeconds`: date-times and their seconds.
-/

namespace LogIntake.Calendar

/-! ## Years and months -/

/-- The number of days of a year. -/
def daysInYear (year : Int) : Nat :=
  if isLeapYear year then 366 else 365

theorem isLeapYear_iff {year : Int} :
    isLeapYear year = true ↔ year % 4 = 0 ∧ (year % 100 ≠ 0 ∨ year % 400 = 0) := by
  simp [isLeapYear]

theorem daysBeforeYear_succ (year : Int) :
    daysBeforeYear (year + 1) = daysBeforeYear year + daysInYear year := by
  unfold daysInYear
  by_cases h : isLeapYear year = true
  · rw [if_pos h]
    rw [isLeapYear_iff] at h
    simp only [daysBeforeYear]
    omega
  · rw [if_neg h]
    rw [isLeapYear_iff] at h
    simp only [daysBeforeYear]
    omega

theorem le_daysInYear (year : Int) : 365 ≤ daysInYear year := by
  unfold daysInYear
  split_ifs <;> decide

theorem daysBeforeYear_mono {a b : Int} (h : a ≤ b) : daysBeforeYear a ≤ daysBeforeYear b := by
  simp only [daysBeforeYear]
  omega

theorem daysBeforeMonth_succ (year : Int) {month : Nat} (h : 1 ≤ month) :
    daysBeforeMonth year (month + 1) = daysBeforeMonth year month + daysInMonth year month := by
  obtain ⟨month, rfl⟩ := Nat.exists_eq_add_of_le' h
  simp [daysBeforeMonth, List.range_succ]

theorem daysBeforeMonth_mono (year : Int) {a b : Nat} (ha : 1 ≤ a) (h : a ≤ b) :
    daysBeforeMonth year a ≤ daysBeforeMonth year b := by
  induction b, h using Nat.le_induction with
  | base => exact Nat.le_refl _
  | succ b hab ih =>
    rw [daysBeforeMonth_succ year (Nat.le_trans ha hab)]
    exact Nat.le_add_right_of_le ih

/-- Twelve months make a year. -/
theorem daysBeforeMonth_thirteen (year : Int) : daysBeforeMonth year 13 = daysInYear year := by
  have hfebruary : daysInMonth year 2 = if isLeapYear year then 29 else 28 := rfl
  have hfrom : daysBeforeMonth year 13 = daysBeforeMonth year 1 + 31 + daysInMonth year 2 + 306 := by
    simp [daysBeforeMonth, List.range_succ, daysInMonth]
  rw [hfrom, hfebruary, daysInYear]
  split_ifs <;> rfl

/-! ## Dates -/

/-- A date of the calendar, whatever its year. -/
structure Date.Exists (d : Date) : Prop where
  month_pos : 1 ≤ d.month
  month_le : d.month ≤ 12
  day_pos : 1 ≤ d.day
  day_le : d.day ≤ daysInMonth d.year d.month

variable {d e : Date} {n : Int}

theorem Date.isValid_iff :
    d.isValid = true ↔ firstYear ≤ d.year ∧ d.year ≤ lastYear ∧ d.Exists := by
  simp only [Date.isValid, Bool.and_eq_true, decide_eq_true_eq]
  constructor
  · rintro ⟨⟨⟨⟨⟨hfirst, hlast⟩, h₁⟩, h₂⟩, h₃⟩, h₄⟩
    exact ⟨hfirst, hlast, h₁, h₂, h₃, h₄⟩
  · rintro ⟨hfirst, hlast, h₁, h₂, h₃, h₄⟩
    exact ⟨⟨⟨⟨⟨hfirst, hlast⟩, h₁⟩, h₂⟩, h₃⟩, h₄⟩

theorem Date.Exists.dayOfYear_lt (h : d.Exists) : d.dayOfYear < daysInYear d.year := by
  have hmonth := daysBeforeMonth_succ d.year h.month_pos
  have hyear := daysBeforeMonth_mono d.year (Nat.le_add_left 1 d.month)
    (Nat.add_le_add_right h.month_le 1)
  rw [daysBeforeMonth_thirteen] at hyear
  have := h.day_pos
  have := h.day_le
  unfold Date.dayOfYear
  omega

/-- A date lies inside its year. -/
theorem Date.Exists.bounds (h : d.Exists) : daysBeforeYear d.year ≤ d.dayNumber + epochDay ∧
    d.dayNumber + epochDay < daysBeforeYear (d.year + 1) := by
  have := h.dayOfYear_lt
  rw [daysBeforeYear_succ]
  unfold Date.dayNumber
  omega

/-- The year that is found for a day holds it. -/
theorem yearOfDay_bounds (n : Int) :
    daysBeforeYear (yearOfDay n) ≤ n ∧ n < daysBeforeYear (yearOfDay n + 1) := by
  have hnear : daysBeforeYear (400 * n / 146097 + 1 - 1) ≤ n ∧
      n < daysBeforeYear (400 * n / 146097 + 1 + 1 + 1) := by
    simp only [daysBeforeYear]
    omega
  unfold yearOfDay
  generalize 400 * n / 146097 + 1 = year at hnear ⊢
  dsimp only
  by_cases hbefore : n < daysBeforeYear year
  · rw [if_pos hbefore, Int.sub_add_cancel]
    exact ⟨hnear.1, hbefore⟩
  · rw [if_neg hbefore]
    by_cases hafter : daysBeforeYear (year + 1) ≤ n
    · rw [if_pos hafter]
      exact ⟨hafter, hnear.2⟩
    · rw [if_neg hafter]
      exact ⟨Int.not_lt.mp hbefore, Int.not_le.mp hafter⟩

/-- A day lies in one year only. -/
theorem yearOfDay_eq {year : Int} (h : daysBeforeYear year ≤ n)
    (h' : n < daysBeforeYear (year + 1)) : yearOfDay n = year := by
  obtain ⟨hfirst, hlast⟩ := yearOfDay_bounds n
  rcases lt_trichotomy (yearOfDay n) year with hlt | heq | hlt
  · have := daysBeforeYear_mono (Int.add_one_le_iff.mpr hlt)
    omega
  · exact heq
  · have := daysBeforeYear_mono (Int.add_one_le_iff.mpr hlt)
    omega

/-- The month and the day that are found have so many days of the year before them. -/
theorem monthOfDay_spec (year : Int) (more : Nat) {month k : Nat} (hmonth : 1 ≤ month)
    (hk : daysBeforeMonth year month + k < daysBeforeMonth year (month + more + 1)) :
    ∃ found day, monthOfDay year more month k = (found, day) ∧ month ≤ found ∧
      found ≤ month + more ∧ 1 ≤ day ∧ day ≤ daysInMonth year found ∧
      daysBeforeMonth year found + (day - 1) = daysBeforeMonth year month + k := by
  induction more generalizing month k with
  | zero =>
    rw [Nat.add_zero, daysBeforeMonth_succ year hmonth] at hk
    exact ⟨month, k + 1, rfl, Nat.le_refl _, Nat.le_refl _, by omega, by omega, by omega⟩
  | succ more ih =>
    rw [monthOfDay]
    by_cases hlt : k < daysInMonth year month
    · rw [if_pos hlt]
      exact ⟨month, k + 1, rfl, Nat.le_refl _, by omega, by omega, by omega, by omega⟩
    · rw [if_neg hlt]
      have hnext := daysBeforeMonth_succ year hmonth
      rw [show month + (more + 1) + 1 = month + 1 + more + 1 by omega] at hk
      obtain ⟨found, day, hfound, h₁, h₂, h₃, h₄, h₅⟩ :=
        ih (k := k - daysInMonth year month) (Nat.le_add_left 1 month) (by omega)
      exact ⟨found, day, hfound, by omega, by omega, h₃, h₄, by omega⟩

/-- What is found for a day is a date with this number. -/
theorem Date.ofDayNumber_spec (n : Int) :
    (Date.ofDayNumber n).Exists ∧ (Date.ofDayNumber n).dayNumber = n := by
  obtain ⟨hfirst, hlast⟩ := yearOfDay_bounds (n + epochDay)
  generalize hyear : yearOfDay (n + epochDay) = year at hfirst hlast
  generalize hk : (n + epochDay - daysBeforeYear year).toNat = k
  rw [daysBeforeYear_succ] at hlast
  have hone : daysBeforeMonth year 1 = 0 := rfl
  obtain ⟨month, day, hfound, h₁, h₂, h₃, h₄, h₅⟩ :=
    monthOfDay_spec year 11 (k := k) (Nat.le_refl 1) (by
      rw [hone, daysBeforeMonth_thirteen]
      omega)
  have hdate : Date.ofDayNumber n = ⟨year, month, day⟩ := by
    simp only [Date.ofDayNumber, hyear, hk, hfound]
  rw [hdate]
  refine ⟨⟨h₁, h₂, h₃, h₄⟩, ?_⟩
  simp only [Date.dayNumber, Date.dayOfYear]
  omega

theorem Date.dayNumber_ofDayNumber (n : Int) : (Date.ofDayNumber n).dayNumber = n :=
  (Date.ofDayNumber_spec n).2

/-- Dates of one number are the same. -/
theorem Date.Exists.eq_of_dayNumber_eq (hd : d.Exists) (he : e.Exists)
    (h : d.dayNumber = e.dayNumber) : d = e := by
  have hyear : d.year = e.year := by
    have hde := hd.bounds
    rw [h] at hde
    rw [← yearOfDay_eq hde.1 hde.2, ← yearOfDay_eq he.bounds.1 he.bounds.2]
  obtain ⟨year, month, day⟩ := d
  obtain ⟨_, month', day'⟩ := e
  subst hyear
  simp only [Date.dayNumber, Date.dayOfYear] at h
  obtain ⟨h₁, _, h₃, h₄⟩ := hd
  obtain ⟨h₁', _, h₃', h₄'⟩ := he
  simp only at *
  have hnext := daysBeforeMonth_succ year h₁
  have hnext' := daysBeforeMonth_succ year h₁'
  have hmonth : month = month' := by
    rcases Nat.lt_trichotomy month month' with hlt | heq | hlt
    · have := daysBeforeMonth_mono year (Nat.le_add_left 1 month) hlt
      omega
    · exact heq
    · have := daysBeforeMonth_mono year (Nat.le_add_left 1 month') hlt
      omega
  subst hmonth
  rw [show day = day' by omega]

/-- **A date is found again from its number.** -/
theorem Date.Exists.ofDayNumber_dayNumber (h : d.Exists) : Date.ofDayNumber d.dayNumber = d :=
  (Date.ofDayNumber_spec d.dayNumber).1.eq_of_dayNumber_eq h (Date.dayNumber_ofDayNumber _)

/-! ## Date-times -/

/-- A date-time that calendar and clock show, without leap seconds. -/
structure DateTime.IsCivil (t : DateTime) : Prop where
  date : t.date.isValid = true
  hour : t.hour < 24
  minute : t.minute < 60
  second : t.second < 60
  nanosecond : t.nanosecond < 1000000000

instance (t : DateTime) : Decidable t.IsCivil :=
  decidable_of_iff (t.date.isValid = true ∧ t.hour < 24 ∧ t.minute < 60 ∧ t.second < 60 ∧
    t.nanosecond < 1000000000)
    ⟨fun ⟨h₁, h₂, h₃, h₄, h₅⟩ => ⟨h₁, h₂, h₃, h₄, h₅⟩,
      fun ⟨h₁, h₂, h₃, h₄, h₅⟩ => ⟨h₁, h₂, h₃, h₄, h₅⟩⟩

variable {t : DateTime}

theorem DateTime.IsCivil.exists_date (h : t.IsCivil) : t.date.Exists :=
  (Date.isValid_iff.mp h.date).2.2

/-- The clock that shows the seconds of a date-time shows the date-time. -/
theorem DateTime.IsCivil.ofSeconds_seconds (h : t.IsCivil) :
    DateTime.ofSeconds t.seconds t.nanosecond = t := by
  have hhour := h.hour
  have hminute := h.minute
  have hsecond := h.second
  have hday : t.seconds / 86400 = t.date.dayNumber := by
    unfold DateTime.seconds
    omega
  have hrest : (t.seconds % 86400).toNat = t.hour * 3600 + t.minute * 60 + t.second := by
    unfold DateTime.seconds
    omega
  simp only [DateTime.ofSeconds, hday, hrest, h.exists_date.ofDayNumber_dayNumber]
  congr 1 <;> omega

theorem DateTime.seconds_ofSeconds (seconds : Int) (nanosecond : Nat) :
    (DateTime.ofSeconds seconds nanosecond).seconds = seconds := by
  simp only [DateTime.ofSeconds, DateTime.seconds, Date.dayNumber_ofDayNumber]
  omega

end LogIntake.Calendar
