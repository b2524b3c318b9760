import Mathlib.Data.Int.Init
import RoadWeather.Timestamp

/-!
# Timestamps are determined by their instants

An instant counts nanoseconds, and every part of a date and a time of day has its own range in the
count: a year begins where the one before ends, a month likewise, and so on down to the nanosecond.
So two timestamps with one offset that denote the same instant are the same
(`Timestamp.eq_of_instant_eq`). With different offsets they may differ in every part.
-/

namespace RoadWeather

/-- The number of days of a year. -/
def daysInYear (year : Int) : Nat := if isLeapYear year then 366 else 365

namespace Timestamp

/-! ## Years -/

theorem daysBeforeYear_succ (year : Int) :
    daysBeforeYear (year + 1) = daysBeforeYear year + daysInYear year := by
  have hfour : (year + 1 + 3) / 4 = (year + 3) / 4 + if year % 4 = 0 then 1 else 0 := by
    split <;> omega
  have hhundred : (year + 1 + 99) / 100 = (year + 99) / 100 + if year % 100 = 0 then 1 else 0 := by
    split <;> omega
  have hfourHundred :
      (year + 1 + 399) / 400 = (year + 399) / 400 + if year % 400 = 0 then 1 else 0 := by
    split <;> omega
  -- Of the years that begin a leap period, a century is none unless four of them are over.
  have hleap : (daysInYear year : Int) + (if year % 100 = 0 then 1 else 0)
      = 365 + (if year % 4 = 0 then 1 else 0) + if year % 400 = 0 then 1 else 0 := by
    rw [daysInYear, isLeapYear]
    by_cases h400 : year % 400 = 0
    · have h100 : year % 100 = 0 := by omega
      have h4 : year % 4 = 0 := by omega
      simp [h4, h100, h400]
    · by_cases h100 : year % 100 = 0
      · have h4 : year % 4 = 0 := by omega
        simp [h4, h100, h400]
      · by_cases h4 : year % 4 = 0 <;> simp [h4, h100, h400]
  rw [daysBeforeYear, daysBeforeYear, hfour, hhundred, hfourHundred]
  omega

/-- A year begins when all years before it are over. -/
theorem daysBeforeYear_add_le {year later : Int} (h : year < later) :
    daysBeforeYear year + daysInYear year ≤ daysBeforeYear later := by
  induction later, (show year + 1 ≤ later from h) using Int.leInduction with
  | base => exact Int.le_of_eq (daysBeforeYear_succ year).symm
  | succ later _ ih =>
    rw [daysBeforeYear_succ later]
    exact Int.le_trans (ih (by omega)) (Int.le_add_of_nonneg_right (Int.natCast_nonneg _))

/-! ## Months -/

theorem daysBeforeMonth_succ (year : Int) {month : Nat} (h : 1 ≤ month) :
    daysBeforeMonth year (month + 1) = daysBeforeMonth year month + daysInMonth year month := by
  obtain ⟨m, rfl⟩ := Nat.exists_eq_add_of_le' h
  simp only [daysBeforeMonth, Nat.add_sub_cancel, List.range_succ, List.foldl_append,
    List.foldl_cons, List.foldl_nil]

theorem daysBeforeMonth_add_le (year : Int) {month later : Nat} (hmonth : 1 ≤ month)
    (h : month < later) :
    daysBeforeMonth year month + daysInMonth year month ≤ daysBeforeMonth year later := by
  induction later with
  | zero => omega
  | succ later ih =>
    rw [daysBeforeMonth_succ year (by omega)]
    rcases Nat.lt_or_eq_of_le (Nat.le_of_lt_succ h) with hlt | rfl
    · exact Nat.le_trans (ih hlt) (Nat.le_add_right _ _)
    · exact Nat.le_refl _

theorem daysBeforeMonth_thirteen (year : Int) : daysBeforeMonth year 13 = daysInYear year := by
  rw [daysInYear]
  cases h : isLeapYear year <;> simp [daysBeforeMonth, List.range_succ, daysInMonth, h]

/-! ## Days -/

/-- The number of the days before a date, from the first of January of the year 0. -/
def dayNumber (t : Timestamp) : Int :=
  daysBeforeYear t.year + daysBeforeMonth t.year t.month + (t.day - 1)

theorem dayOfYear_lt (t : Timestamp) :
    daysBeforeMonth t.year t.month + (t.day - 1 : Int)
      < daysBeforeMonth t.year t.month + daysInMonth t.year t.month := by
  obtain ⟨hpos, hle⟩ := t.valid.day_mem
  omega

theorem dayNumber_lt (t : Timestamp) : t.dayNumber < daysBeforeYear t.year + daysInYear t.year := by
  have hmonth := daysBeforeMonth_add_le t.year t.valid.month_mem.1
    (Nat.lt_succ_of_le t.valid.month_mem.2)
  rw [daysBeforeMonth_thirteen] at hmonth
  have hday := t.dayOfYear_lt
  rw [dayNumber]
  omega

variable {t u : Timestamp}

theorem year_le_of_dayNumber_eq (h : t.dayNumber = u.dayNumber) : t.year ≤ u.year := by
  refine Int.not_lt.mp fun hlt ↦ ?_
  have hyears := daysBeforeYear_add_le hlt
  have hday := u.dayNumber_lt
  have hpos := t.valid.day_mem.1
  rw [← h, dayNumber] at hday
  omega

theorem month_le_of_dayNumber_eq (hyear : t.year = u.year) (h : t.dayNumber = u.dayNumber) :
    t.month ≤ u.month := by
  refine Nat.le_of_not_lt fun hlt ↦ ?_
  have hmonths := daysBeforeMonth_add_le u.year u.valid.month_mem.1 hlt
  have hday := u.dayOfYear_lt
  have hpos := t.valid.day_mem.1
  rw [dayNumber, dayNumber, hyear] at h
  omega

/-- Days are counted apart. -/
theorem date_eq_of_dayNumber_eq (h : t.dayNumber = u.dayNumber) :
    t.year = u.year ∧ t.month = u.month ∧ t.day = u.day := by
  have hyear : t.year = u.year :=
    Int.le_antisymm (year_le_of_dayNumber_eq h) (year_le_of_dayNumber_eq h.symm)
  have hmonth : t.month = u.month :=
    Nat.le_antisymm (month_le_of_dayNumber_eq hyear h) (month_le_of_dayNumber_eq hyear.symm h.symm)
  rw [dayNumber, dayNumber, hyear, hmonth] at h
  exact ⟨hyear, hmonth, by omega⟩

/-! ## Instants -/

theorem instant_eq (t : Timestamp) :
    t.instant = (t.dayNumber * 86400 + ((t.hour * 60 + t.minute) * 60 + t.second - t.offset))
      * 1000000000 + t.nanosecond := rfl

/-- **A timestamp is determined by its instant and its offset.** -/
theorem eq_of_instant_eq (hinstant : t.instant = u.instant) (hoffset : t.offset = u.offset) :
    t = u := by
  rw [instant_eq, instant_eq, hoffset] at hinstant
  have hnanosecond := t.valid.nanosecond_lt
  have hnanosecond' := u.valid.nanosecond_lt
  have hsecond := t.valid.second_lt
  have hsecond' := u.valid.second_lt
  have hminute := t.valid.minute_lt
  have hminute' := u.valid.minute_lt
  have hhour := t.valid.hour_lt
  have hhour' := u.valid.hour_lt
  have hdays : t.dayNumber = u.dayNumber := by omega
  obtain ⟨hyear, hmonth, hday⟩ := date_eq_of_dayNumber_eq hdays
  have htime : t.hour = u.hour ∧ t.minute = u.minute ∧ t.second = u.second ∧
      t.nanosecond = u.nanosecond := by omega
  obtain ⟨hhours, hminutes, hseconds, hnanoseconds⟩ := htime
  obtain ⟨⟨year, month, day, hour, minute, second, nanosecond, offset⟩, valid⟩ := t
  obtain rfl : year = u.year := hyear
  obtain rfl : month = u.month := hmonth
  obtain rfl : day = u.day := hday
  obtain rfl : hour = u.hour := hhours
  obtain rfl : minute = u.minute := hminutes
  obtain rfl : second = u.second := hseconds
  obtain rfl : nanosecond = u.nanosecond := hnanoseconds
  obtain rfl : offset = u.offset := hoffset
  rfl

end Timestamp

end RoadWeather
