import Mathlib.Tactic

/-!
# Dates of the Gregorian calendar and ages

The number of a day is counted in years that begin in March, so that the leap
day is the last day of its year.  Whoever has completed a number of calendar
years has lived through at least 365 days for each of them.
-/

namespace CalendarDates

/-! ## Dates -/

structure Date where
  year : ℕ
  month : ℕ
  day : ℕ
  deriving DecidableEq, Repr

def isLeapYear (year : ℕ) : Bool :=
  year % 4 = 0 && (year % 100 ≠ 0 || year % 400 = 0)

def daysInMonth (year month : ℕ) : ℕ :=
  if month = 2 then if isLeapYear year then 29 else 28
  else if month = 4 ∨ month = 6 ∨ month = 9 ∨ month = 11 then 30
  else 31

structure Date.Valid (date : Date) : Prop where
  month_pos : 1 ≤ date.month
  month_le : date.month ≤ 12
  day_pos : 1 ≤ date.day
  day_le : date.day ≤ daysInMonth date.year date.month

/-- The birthday has not come in the year of the date yet. -/
def Date.birthdayAhead (birth date : Date) : Bool :=
  date.month < birth.month ||
    (date.month = birth.month && date.day < birth.day)

/-- The age in completed calendar years. -/
def Date.age (birth date : Date) : ℕ :=
  date.year - birth.year - if birth.birthdayAhead date then 1 else 0

/-! ## Years that begin in March -/

def fromMarch (month : ℤ) : ℤ :=
  if month ≤ 2 then month + 9 else month - 3

def marchYear (year month : ℤ) : ℤ :=
  if month ≤ 2 then year - 1 else year

def daysBeforeMarchYear (year : ℤ) : ℤ :=
  365 * year + year / 4 - year / 100 + year / 400

def daysBeforeMonth (month : ℤ) : ℤ :=
  (153 * month + 2) / 5

/-- Days before the first of March of year zero up to the date. -/
def Date.dayNumber (date : Date) : ℤ :=
  daysBeforeMarchYear (marchYear date.year date.month) +
    daysBeforeMonth (fromMarch date.month) + date.day - 1

theorem leapDays_mono {first later : ℤ} (hle : first ≤ later) :
    first / 4 - first / 100 + first / 400 ≤
      later / 4 - later / 100 + later / 400 := by
  have hcenturies : first / 4 - first / 4 / 25 ≤
      later / 4 - later / 4 / 25 := by
    omega
  have hfirst : first / 4 / 25 = first / 100 := by omega
  have hlater : later / 4 / 25 = later / 100 := by omega
  omega

theorem daysBeforeMarchYear_add_le {first later count : ℤ}
    (hcount : 0 ≤ count) (hle : first + count ≤ later) :
    daysBeforeMarchYear first + 365 * count ≤
      daysBeforeMarchYear later := by
  have hleap := leapDays_mono (show first ≤ later by omega)
  unfold daysBeforeMarchYear
  omega

theorem daysBeforeMonth_mono {first later : ℤ} (hle : first ≤ later) :
    daysBeforeMonth first ≤ daysBeforeMonth later := by
  unfold daysBeforeMonth
  omega

theorem marchMonths (year month : ℤ) :
    12 * marchYear year month + fromMarch month =
      12 * year + month - 3 := by
  unfold marchYear fromMarch
  split_ifs <;> omega

theorem Date.Valid.fromMarch_range {date : Date} (hvalid : date.Valid) :
    0 ≤ fromMarch date.month ∧ fromMarch date.month ≤ 11 := by
  have hpos := hvalid.month_pos
  have hle := hvalid.month_le
  unfold fromMarch
  split_ifs <;> omega

/-! ## Lengths of months -/

theorem daysInMonth_le (year : ℕ) {month : ℕ} (hpos : 1 ≤ month)
    (hle : month ≤ 12) :
    (fromMarch month < 11 →
        (daysInMonth year month : ℤ) ≤
          daysBeforeMonth (fromMarch month + 1) -
            daysBeforeMonth (fromMarch month)) ∧
      daysBeforeMonth (fromMarch month) + daysInMonth year month ≤ 366 := by
  by_cases hfebruary : month = 2
  · subst hfebruary
    have hdays : daysInMonth year 2 ≤ 29 := by
      unfold daysInMonth
      split_ifs <;> omega
    simp only [fromMarch, daysBeforeMonth]
    omega
  · unfold daysInMonth
    rw [if_neg hfebruary]
    interval_cases month <;> simp [fromMarch, daysBeforeMonth] at hfebruary ⊢

/-- A day of a month comes before the next month, and any day before the
next March. -/
theorem Date.Valid.day_bound {date : Date} (hvalid : date.Valid) :
    (fromMarch date.month < 11 →
        daysBeforeMonth (fromMarch date.month) + date.day ≤
          daysBeforeMonth (fromMarch date.month + 1)) ∧
      daysBeforeMonth (fromMarch date.month) + date.day ≤ 366 := by
  obtain ⟨hnext, hyear⟩ :=
    daysInMonth_le date.year hvalid.month_pos hvalid.month_le
  have hday := hvalid.day_le
  constructor
  · intro hmonth
    have hlength := hnext hmonth
    omega
  · omega

/-! ## Ages and days -/

section Ages

variable {birth date : Date} {years : ℕ}

/-- Years after the birth, counted in years that begin in March: a year more
has passed, or the month and day have come. -/
theorem marchDate_of_age (hbirth : birth.Valid) (hdate : date.Valid)
    (hpos : 0 < years) (hage : years ≤ birth.age date) :
    marchYear birth.year birth.month + (years + 1) ≤
        marchYear date.year date.month ∨
      (marchYear birth.year birth.month + years ≤
          marchYear date.year date.month ∧
        (fromMarch birth.month < fromMarch date.month ∨
          (fromMarch birth.month = fromMarch date.month ∧
            birth.day ≤ date.day))) := by
  have hbirthMonths := marchMonths birth.year birth.month
  have hdateMonths := marchMonths date.year date.month
  obtain ⟨hbirthLow, hbirthHigh⟩ := hbirth.fromMarch_range
  obtain ⟨hdateLow, hdateHigh⟩ := hdate.fromMarch_range
  have hbirthMonth := hbirth.month_le
  have hdateMonth := hdate.month_pos
  unfold Date.age Date.birthdayAhead at hage
  simp only [Bool.or_eq_true, Bool.and_eq_true, decide_eq_true_eq] at hage
  split_ifs at hage <;> omega

/-- Completed years have at least 365 days each. -/
theorem dayNumber_of_age (hbirth : birth.Valid) (hdate : date.Valid)
    (hpos : 0 < years) (hage : years ≤ birth.age date) :
    birth.dayNumber + 365 * years ≤ date.dayNumber := by
  obtain ⟨hnext, hbound⟩ := hbirth.day_bound
  obtain ⟨hlow, hhigh⟩ := hdate.fromMarch_range
  have hday := hdate.day_pos
  unfold Date.dayNumber
  rcases marchDate_of_age hbirth hdate hpos hage with
    hyear | ⟨hyear, hmonth | ⟨hmonth, hdays⟩⟩
  · have hyears := daysBeforeMarchYear_add_le (by omega) hyear
    have hmonths := daysBeforeMonth_mono hlow
    have hzero : daysBeforeMonth 0 = 0 := rfl
    omega
  · have hyears := daysBeforeMarchYear_add_le (by omega) hyear
    have hmonths := daysBeforeMonth_mono
      (show fromMarch birth.month + 1 ≤ fromMarch date.month by omega)
    have hwithin := hnext (by omega)
    omega
  · have hyears := daysBeforeMarchYear_add_le (by omega) hyear
    rw [hmonth]
    omega

end Ages

end CalendarDates
