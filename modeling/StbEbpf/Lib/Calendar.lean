import Mathlib.Tactic.IntervalCases
import Mathlib.Tactic.Linarith
import Mathlib.Tactic.Ring

/-!
Dates of the Gregorian calendar and their day numbers. Years are counted from March, so that the day that leap years
have more is the last of the year; day 0 is the first of March of the year 0.
-/

namespace StbEbpf.Calendar

structure Date where
  year : Int
  month : Int
  day : Int
  deriving DecidableEq, Repr

def isLeap (year : Int) : Bool := year % 4 = 0 ∧ (year % 100 ≠ 0 ∨ year % 400 = 0)

def daysIn (month year : Int) : Int :=
  if month = 2 then if isLeap year then 29 else 28 else 30 + (month + month / 8) % 2

/-- The day in a century of March years, as four times the day and three. -/
def centuryDay (days : Int) : Int := (4 * days + 3) % 146097 / 4 * 4 + 3

def marchYear (days : Int) : Int := (4 * days + 3) / 146097 * 100 + centuryDay days / 1461

def yearDay (days : Int) : Int := centuryDay days % 1461 / 4

/-- January and February are the months 13 and 14 of a March year. -/
def marchMonth (days : Int) : Int := (5 * yearDay days + 461) / 153

def date (days : Int) : Date :=
  { year := if 12 < marchMonth days then marchYear days + 1 else marchYear days,
    month := if 12 < marchMonth days then marchMonth days - 12 else marchMonth days,
    day := (5 * yearDay days + 461) % 153 / 5 + 1 }

def Date.days (date : Date) : Int :=
  let year := if date.month < 3 then date.year - 1 else date.year
  let month := if date.month < 3 then date.month + 12 else date.month
  146097 * (year / 100) / 4 + 1461 * (year % 100) / 4 + (153 * month - 457) / 5 + date.day - 1

theorem centuryDay_range (days : Int) : 0 ≤ centuryDay days ∧ centuryDay days / 1461 < 100 := by
  unfold centuryDay
  omega

theorem yearDay_range (days : Int) : 0 ≤ yearDay days ∧ yearDay days ≤ 365 := by
  unfold yearDay
  omega

theorem marchMonth_range (days : Int) : 3 ≤ marchMonth days ∧ marchMonth days ≤ 14 := by
  have range := yearDay_range days
  unfold marchMonth
  omega

/-- Four times a day number and three, taken apart, leaves the quarters in order. -/
theorem quarters {q r k : Int} (whole : q + r = 4 * k + 3) : q / 4 + r / 4 = k := by omega

theorem days_split (days : Int) :
    days = 146097 * ((4 * days + 3) / 146097) / 4 + 1461 * (centuryDay days / 1461) / 4 + yearDay days := by
  have century : 146097 * ((4 * days + 3) / 146097) / 4 + (4 * days + 3) % 146097 / 4 = days :=
    quarters (Int.mul_ediv_add_emod ..)
  have year : 1461 * (centuryDay days / 1461) / 4 + yearDay days = (4 * days + 3) % 146097 / 4 := by
    apply quarters
    rw [Int.mul_ediv_add_emod, centuryDay, Int.mul_comm (_ / 4)]
  omega

theorem yearDay_split (days : Int) :
    yearDay days = (153 * marchMonth days - 457) / 5 + (5 * yearDay days + 461) % 153 / 5 := by
  have whole := Int.mul_ediv_add_emod (5 * yearDay days + 461) 153
  have fifths {q r k : Int} (whole : q + r = 5 * k + 4) : q / 5 + r / 5 = k := by omega
  exact (fifths (by unfold marchMonth; omega)).symm

theorem marchYear_split (days : Int) :
    marchYear days / 100 = (4 * days + 3) / 146097 ∧ marchYear days % 100 = centuryDay days / 1461 := by
  have range := centuryDay_range days
  unfold marchYear
  omega

/-- A century has the day 36524 only as the last of four. -/
theorem century_turn {days : Int} (last : centuryDay days = 146099) : ∃ k, (4 * days + 3) / 146097 = 4 * k + 3 := by
  unfold centuryDay at last
  have whole := Int.mul_ediv_add_emod (4 * days + 3) 146097
  have below := Int.emod_lt_of_pos (4 * days + 3) (show 0 < 146097 by decide)
  generalize (4 * days + 3) / 146097 = century at *
  generalize (4 * days + 3) % 146097 = rest at *
  have full : rest = 146096 := by
    clear whole
    omega
  exact ⟨days - 36524 * century - 36524, by linarith⟩

/-- A March year has a day 365 only if it ends in a leap year. -/
theorem leap_of_yearDay {days : Int} (last : yearDay days = 365) : isLeap (marchYear days + 1) = true := by
  have inside : marchYear days % 100 ≠ 99 → (marchYear days + 1) % 100 ≠ 0 := by omega
  obtain ⟨century, year⟩ := marchYear_split days
  have ends : centuryDay days = 1461 * (marchYear days % 100) + 1460 := by
    unfold yearDay at last
    omega
  have split := Int.mul_ediv_add_emod (marchYear days) 100
  have fourth : ∃ k, marchYear days % 100 = 4 * k + 3 := by
    unfold centuryDay at ends
    exact ⟨(4 * days + 3) % 146097 / 4 - 365 * (marchYear days % 100) - 365, by linarith⟩
  obtain ⟨k, fourth⟩ := fourth
  refine decide_eq_true ⟨?_, ?_⟩
  · exact Int.emod_eq_zero_of_dvd ⟨25 * (marchYear days / 100) + k + 1, by linarith⟩
  · by_cases turn : marchYear days % 100 = 99
    · obtain ⟨c, fourthCentury⟩ := century_turn (ends.trans (by rw [turn]; rfl))
      exact .inr (Int.emod_eq_zero_of_dvd ⟨c + 1, by linarith⟩)
    · exact .inl (inside turn)

theorem days_date (days : Int) : (date days).days = days := by
  have range := marchMonth_range days
  obtain ⟨century, year⟩ := marchYear_split days
  have whole : 146097 * ((4 * days + 3) / 146097) / 4 + 1461 * (centuryDay days / 1461) / 4 +
      (153 * marchMonth days - 457) / 5 + ((5 * yearDay days + 461) % 153 / 5 + 1) - 1 = days := by
    conv => rhs; rw [days_split days, yearDay_split days]
    ring
  by_cases early : 12 < marchMonth days
  · simp only [date, Date.days, if_pos early, if_pos (show marchMonth days - 12 < 3 by omega), Int.add_sub_cancel,
      Int.sub_add_cancel, century, year]
    exact whole
  · simp only [date, Date.days, if_neg early, if_neg (show ¬ marchMonth days < 3 by omega), century, year]
    exact whole

theorem date_month (days : Int) : 1 ≤ (date days).month ∧ (date days).month ≤ 12 := by
  have range := marchMonth_range days
  unfold date
  dsimp only
  split <;> omega

theorem date_day (days : Int) :
    1 ≤ (date days).day ∧ (date days).day ≤ daysIn (date days).month (date days).year := by
  have range := yearDay_range days
  have months := marchMonth_range days
  have month : marchMonth days = (5 * yearDay days + 461) / 153 := rfl
  refine ⟨by unfold date; dsimp only; omega, ?_⟩
  by_cases last : yearDay days = 365
  · have february : marchMonth days = 14 := by omega
    simp [date, daysIn, february, leap_of_yearDay last, last]
  · unfold date daysIn
    dsimp only
    generalize marchMonth days = m at *
    obtain ⟨low, high⟩ := months
    interval_cases m <;> simp <;> (try split) <;> omega

example : date 719468 = { year := 1970, month := 1, day := 1 } := by decide

end StbEbpf.Calendar
