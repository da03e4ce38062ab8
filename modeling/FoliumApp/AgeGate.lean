import FoliumApp.CalendarDates
import FoliumApp.Screens

/-!
# The age guard and the calendar

The guard of the registration form takes a year for 365 days.  Seen from the
calendar this errs on one side only: whoever is eighteen has lived through
6570 days, but 6570 days have passed a few days before the eighteenth
birthday, one for every leap day in between.  Its second bound is taken from
the difference in the other direction and never refuses anyone.
-/

namespace FoliumApp

open AsyncProgram CalendarDates

/-! ## Times and dates -/

def DateTime.toDate (time : DateTime) : Date :=
  ⟨time.year, time.month, time.day⟩

structure DateTime.Valid (time : DateTime) : Prop where
  calendar : time.toDate.Valid
  hour_lt : time.hour < 24
  minute_lt : time.minute < 60
  second_lt : time.second < 60
  millisecond_lt : time.millisecond < 1000
  microsecond_lt : time.microsecond < 1000

/-- The age in completed calendar years. -/
def DateTime.age (birth time : DateTime) : ℕ :=
  birth.toDate.age time.toDate

/-- The dates the picker of the form can return. -/
structure DateTime.Picked (date : DateTime) : Prop where
  valid : date.Valid
  midnight : date.hour = 0 ∧ date.minute = 0 ∧ date.second = 0 ∧
    date.millisecond = 0 ∧ date.microsecond = 0
  first : 1968 ≤ date.year
  last : date.year ≤ 2000 ∨
    (date.year = 2001 ∧ date.month = 1 ∧ date.day = 1)

theorem civilDays_eq (time : DateTime) :
    civilDays time.year time.month time.day = time.toDate.dayNumber := rfl

/-! ## The guard -/

/-- From a midnight on, the days since are the days of the calendar. -/
theorem differenceInDays_of_midnight {date time : DateTime}
    (hdate : date.Picked) (htime : time.Valid)
    (hafter : date.microseconds ≤ time.microseconds) :
    time.differenceInDays date =
      time.toDate.dayNumber - date.toDate.dayNumber := by
  obtain ⟨hhour, hminute, hsecond, hmillisecond, hmicrosecond⟩ :=
    hdate.midnight
  have hhourLt := htime.hour_lt
  have hminuteLt := htime.minute_lt
  have hsecondLt := htime.second_lt
  have hmillisecondLt := htime.millisecond_lt
  have hmicrosecondLt := htime.microsecond_lt
  unfold DateTime.differenceInDays
  rw [Int.tdiv_eq_ediv_of_nonneg (by omega)]
  unfold DateTime.microseconds
  rw [civilDays_eq, civilDays_eq, hhour, hminute, hsecond, hmillisecond,
    hmicrosecond]
  omega

theorem differenceInDays_nonpos {date time : DateTime}
    (hafter : date.microseconds ≤ time.microseconds) :
    date.differenceInDays time ≤ 0 := by
  have hneg : date.microseconds - time.microseconds =
      -(time.microseconds - date.microseconds) := by
    omega
  have hdays : 0 ≤ (time.microseconds - date.microseconds) /
      (24 * 3600 * 1000000) := by
    omega
  unfold DateTime.differenceInDays
  rw [hneg, Int.neg_tdiv, Int.tdiv_eq_ediv_of_nonneg (by omega)]
  omega

/-- The guard lets go on whoever has lived through 6570 days; its second
bound is never met. -/
theorem ageRefused_run {date : DateTime} {oracle : ℕ → Oracle}
    (hsecond : date.microseconds ≤ (oracle 1).time.microseconds)
    (backend : Backend) (device : Device) :
    App.run (SimpleRegister.ageRefused date) oracle backend device =
      (.ok (decide ((oracle 0).time.differenceInDays date < 6570)),
        backend, device) := by
  have hupper := differenceInDays_nonpos hsecond
  unfold SimpleRegister.ageRefused DateTime.now
  by_cases hyoung : (oracle 0).time.differenceInDays date < 6570
  · have hlower : (oracle 0).time.differenceInDays date / 365 < 18 := by
      omega
    simp [Request.exec, Async.ofExcept, hlower, hyoung]
  · have hlower : ¬ (oracle 0).time.differenceInDays date / 365 < 18 := by
      omega
    have hnever : ¬ date.differenceInDays (oracle 1).time / 365 > 70 := by
      omega
    simp [Request.exec, Async.ofExcept, hlower, hnever, hyoung]

/-- For every date the picker can return and every time not before it, the
guard is exact if and only if the person is not older than seventy and, once
6570 days have passed, the eighteenth birthday has passed too.  The clock is
read once more for the second bound. -/
theorem age_guard_exact_iff {date : DateTime} (hdate : date.Picked)
    (oracle : ℕ → Oracle) (hvalid : (oracle 0).time.Valid)
    (hfirst : date.microseconds ≤ (oracle 0).time.microseconds)
    (hsecond : date.microseconds ≤ (oracle 1).time.microseconds)
    (backend : Backend) (device : Device) :
    ((App.run (SimpleRegister.ageRefused date) oracle backend device).1 =
          .ok false ↔
        18 ≤ date.age (oracle 0).time ∧ date.age (oracle 0).time ≤ 70) ↔
      date.age (oracle 0).time ≤ 70 ∧
        (6570 ≤ (oracle 0).time.differenceInDays date →
          18 ≤ date.age (oracle 0).time) := by
  have hadult : 18 ≤ date.age (oracle 0).time →
      6570 ≤ (oracle 0).time.differenceInDays date := by
    intro hage
    have hdays := dayNumber_of_age hdate.valid.calendar hvalid.calendar
      (by omega) hage
    rw [differenceInDays_of_midnight hdate hvalid hfirst]
    omega
  rw [ageRefused_run hsecond]
  simp only [Except.ok.injEq, decide_eq_false_iff_not, not_lt]
  constructor
  · intro hexact
    constructor
    · by_contra hold
      have hage : 18 ≤ date.age (oracle 0).time := by omega
      exact hold (hexact.mp (hadult hage)).2
    · intro hdays
      exact (hexact.mp hdays).1
  · rintro ⟨hyoung, hdays⟩
    constructor
    · intro hpassed
      exact ⟨hdays hpassed, hyoung⟩
    · intro hage
      exact hadult hage.1

/-! ## Two people the guard misjudges -/

def midnight (year month day : ℕ) : DateTime :=
  ⟨year, month, day, 0, 0, 0, 0, 0⟩

def clockAt (time : DateTime) (_index : ℕ) : Oracle :=
  { ok := true, uid := firstUid, url := "url", key := firstKey, time }

/-- Four days before the eighteenth birthday, and at seventy-two, the guard
lets the registration go on. -/
theorem age_guard_errs_both_ways :
    (DateTime.age (midnight 2001 1 1) (midnight 2018 12 28) = 17 ∧
        (App.run (SimpleRegister.ageRefused (midnight 2001 1 1))
            (clockAt (midnight 2018 12 28)) Backend.empty
            Device.fresh).1 = .ok false) ∧
      (DateTime.age (midnight 1968 1 1) (midnight 2040 1 1) = 72 ∧
        (App.run (SimpleRegister.ageRefused (midnight 1968 1 1))
            (clockAt (midnight 2040 1 1)) Backend.empty
            Device.fresh).1 = .ok false) := by
  refine ⟨⟨by decide, ?_⟩, by decide, ?_⟩
  · rw [ageRefused_run (by decide)]
    decide
  · rw [ageRefused_run (by decide)]
    decide

theorem valid_midnight {year month day : ℕ}
    (hdate : Date.Valid ⟨year, month, day⟩) :
    (midnight year month day).Valid := by
  refine ⟨hdate, ?_, ?_, ?_, ?_, ?_⟩ <;> simp [midnight]

theorem picked_lastDate : (midnight 2001 1 1).Picked :=
  ⟨valid_midnight ⟨by decide, by decide, by decide, by decide⟩,
    ⟨rfl, rfl, rfl, rfl, rfl⟩, by decide, by decide⟩

theorem valid_newYear : (midnight 2019 1 1).Valid :=
  valid_midnight ⟨by decide, by decide, by decide, by decide⟩

/-- On the eighteenth birthday the guard is exact: the registration goes
on. -/
theorem age_guard_exact_birthday :
    (App.run (SimpleRegister.ageRefused (midnight 2001 1 1))
        (clockAt (midnight 2019 1 1)) Backend.empty Device.fresh).1 =
        .ok false ↔
      18 ≤ (midnight 2001 1 1).age (midnight 2019 1 1) ∧
        (midnight 2001 1 1).age (midnight 2019 1 1) ≤ 70 :=
  (age_guard_exact_iff picked_lastDate (clockAt (midnight 2019 1 1))
    valid_newYear (by decide) (by decide) Backend.empty Device.fresh).mpr
    ⟨by decide, fun _ => by decide⟩

end FoliumApp
