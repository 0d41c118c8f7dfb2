import Mathlib.Tactic.IntervalCases
import QuantumJobs.Instant

/-!
# Calendar — days and dates

Every day has a date of the Gregorian calendar, and the date leads back to the day.  The calendar
repeats itself after an era of four hundred years, which begin with the first of March, so that a
leap day is the last day of its year.
-/

namespace QuantumJobs
namespace Instant

/-! ## Years of an era -/

/-- The last day of an era. -/
def lastDayOfEra : Nat := 146096

/-- The year in which a day of an era lies. -/
def yearOfEra (doe : Nat) : Nat := (doe - doe / 1460 + doe / 36524 - doe / 146096) / 365

/-- The days of an era before a year. -/
def daysBefore (y : Nat) : Nat := 365 * y + y / 4 - y / 100

theorem yearOfEra_le {doe : Nat} (inEra : doe ≤ lastDayOfEra) : yearOfEra doe ≤ 399 := by
  unfold lastDayOfEra at inEra
  unfold yearOfEra
  omega

/-- A year of an era lies in the century in which its days lie; the last day of an era alone is
counted to a fifth one. -/
theorem century_eq {doe : Nat} (inEra : doe < lastDayOfEra) :
    yearOfEra doe / 100 = doe / 36524 := by
  have le : yearOfEra doe ≤ 399 := yearOfEra_le (Nat.le_of_lt inEra)
  have year : yearOfEra doe = (doe - doe / 1460 + doe / 36524 - doe / 146096) / 365 := rfl
  unfold lastDayOfEra at inEra
  have notLast : doe / 146096 = 0 := by omega
  rw [notLast] at year
  generalize yearOfEra doe = y at *
  obtain ⟨c, century⟩ : ∃ c, c = doe / 36524 := ⟨_, rfl⟩
  obtain ⟨b, hundreds⟩ : ∃ b, b = y / 100 := ⟨_, rfl⟩
  have : c ≤ 3 := by omega
  have : b ≤ 3 := by omega
  rw [← century, ← hundreds]
  interval_cases c <;> interval_cases b <;> omega

/-- A day of an era lies in its year, and only leap years have a day beyond the first 365. -/
theorem yearOfEra_spec {doe : Nat} (inEra : doe ≤ lastDayOfEra) :
    daysBefore (yearOfEra doe) ≤ doe ∧ doe ≤ daysBefore (yearOfEra doe) + 365 ∧
      (doe = daysBefore (yearOfEra doe) + 365 →
        yearOfEra doe % 4 = 3 ∧ (yearOfEra doe % 100 = 99 → yearOfEra doe = 399)) := by
  by_cases last : doe = lastDayOfEra
  · subst last
    decide
  · have before : doe < lastDayOfEra := by omega
    have le : yearOfEra doe ≤ 399 := yearOfEra_le inEra
    have hundreds : yearOfEra doe / 100 = doe / 36524 := century_eq before
    have year : yearOfEra doe = (doe - doe / 1460 + doe / 36524 - doe / 146096) / 365 := rfl
    unfold lastDayOfEra at before
    unfold daysBefore
    have notLast : doe / 146096 = 0 := by omega
    rw [notLast] at year
    generalize yearOfEra doe = y at *
    obtain ⟨c, century⟩ : ∃ c, c = doe / 36524 := ⟨_, rfl⟩
    have : c ≤ 3 := by omega
    -- In each of the four centuries all divisions but two are by known quotients.
    interval_cases c <;> omega

/-! ## Months of a year -/

/-- The month in which a day of a year lies, counted from March. -/
def monthOfYear (doy : Nat) : Nat := (5 * doy + 2) / 153

/-- The days of a year before a month. -/
def daysBeforeMonth (shifted : Nat) : Nat := (153 * shifted + 2) / 5

theorem monthOfYear_spec {doy : Nat} (inYear : doy ≤ 365) :
    monthOfYear doy ≤ 11 ∧ daysBeforeMonth (monthOfYear doy) ≤ doy ∧
      doy ≤ daysBeforeMonth (monthOfYear doy) + 30 := by
  unfold monthOfYear daysBeforeMonth
  omega

/-- The months after March are written as they are, January and February as the first two. -/
def monthNumber (shifted : Nat) : Nat := if shifted < 10 then shifted + 3 else shifted - 9

theorem monthNumber_spec {shifted : Nat} (inYear : shifted ≤ 11) :
    1 ≤ monthNumber shifted ∧ monthNumber shifted ≤ 12 ∧
      (if monthNumber shifted ≤ 2 then monthNumber shifted + 9 else monthNumber shifted - 3)
        = shifted := by
  unfold monthNumber
  interval_cases shifted <;> decide

/-- The day of a month is at most the length of the month. -/
theorem dayOfMonth_le {doy : Nat} {year : Int} (inYear : doy ≤ 365)
    (leap : doy = 365 → isLeapYear year = true) :
    doy - daysBeforeMonth (monthOfYear doy) + 1
      ≤ daysInMonth year (monthNumber (monthOfYear doy)) := by
  obtain ⟨le, starts, ends⟩ := monthOfYear_spec inYear
  have month : monthOfYear doy = (5 * doy + 2) / 153 := rfl
  generalize monthOfYear doy = shifted at *
  unfold daysBeforeMonth at *
  interval_cases shifted
  case «11» =>
    -- February has its leap day only at the very end of the year.
    by_cases last : doy = 365
    · simp [daysInMonth, monthNumber, leap last, last]
    · have short : (28 : Nat) ≤ daysInMonth year (monthNumber 11) := by
        simp only [daysInMonth, monthNumber]
        cases isLeapYear year <;> decide
      omega
  all_goals
    simp only [daysInMonth, monthNumber]
    simp
    omega

/-! ## Days and dates -/

/-- The day of its era that a day is, and the era. -/
def dayOfEra (day : Int) : Nat := (day + 719468 - (day + 719468) / 146097 * 146097).toNat

def eraOf (day : Int) : Int := (day + 719468) / 146097

theorem dayOfEra_le (day : Int) : dayOfEra day ≤ lastDayOfEra := by
  unfold dayOfEra lastDayOfEra
  omega

theorem day_eq (day : Int) : eraOf day * 146097 + dayOfEra day - 719468 = day := by
  unfold eraOf dayOfEra
  omega

/-- The day of its year that a day is. -/
def dayOfYear (day : Int) : Nat := dayOfEra day - daysBefore (yearOfEra (dayOfEra day))

/-- The month of a day, counted from March. -/
def monthOf (day : Int) : Nat := monthOfYear (dayOfYear day)

theorem dateOf_eq (day : Int) :
    dateOf day =
      ((yearOfEra (dayOfEra day) : Int) + eraOf day * 400
          + (if monthNumber (monthOf day) ≤ 2 then 1 else 0),
        monthNumber (monthOf day),
        dayOfYear day - daysBeforeMonth (monthOf day) + 1) := rfl

theorem dayOfYear_le (day : Int) : dayOfYear day ≤ 365 := by
  obtain ⟨_, upper, _⟩ := yearOfEra_spec (dayOfEra_le day)
  unfold dayOfYear
  omega

/-- A year that starts in March is as long as a leap year only if the next one is a leap year. -/
theorem isLeapYear_of_dayOfYear {day : Int} (last : dayOfYear day = 365) :
    isLeapYear ((yearOfEra (dayOfEra day) : Int) + eraOf day * 400 + 1) = true := by
  obtain ⟨lower, _, leap⟩ := yearOfEra_spec (dayOfEra_le day)
  have le := yearOfEra_le (dayOfEra_le day)
  obtain ⟨four, hundred⟩ := leap (by unfold dayOfYear at last; omega)
  generalize yearOfEra (dayOfEra day) = y at *
  unfold isLeapYear
  simp only [Bool.and_eq_true, Bool.or_eq_true, decide_eq_true_eq]
  omega

/-- The date of a day is a date of the calendar. -/
theorem dateOf_spec (day : Int) :
    1 ≤ (dateOf day).2.1 ∧ (dateOf day).2.1 ≤ 12 ∧ 1 ≤ (dateOf day).2.2 ∧
      (dateOf day).2.2 ≤ daysInMonth (dateOf day).1 (dateOf day).2.1 := by
  have inYear := dayOfYear_le day
  obtain ⟨inMonths, _, _⟩ := monthOfYear_spec inYear
  obtain ⟨low, high, _⟩ := monthNumber_spec inMonths
  rw [dateOf_eq]
  refine ⟨low, high, by simp, ?_⟩
  apply dayOfMonth_le inYear
  intro last
  have february : monthNumber (monthOf day) = 2 := by
    unfold monthOf
    rw [last]
    decide
  rw [if_pos (by omega)]
  exact isLeapYear_of_dayOfYear last

/-- The date of a day leads back to the day. -/
theorem dayOf_dateOf (day : Int) :
    dayOf (dateOf day).1 (dateOf day).2.1 (dateOf day).2.2 = day := by
  have inYear := dayOfYear_le day
  obtain ⟨inMonths, starts, _⟩ := monthOfYear_spec inYear
  obtain ⟨_, _, shifted⟩ := monthNumber_spec inMonths
  have inEra := yearOfEra_le (dayOfEra_le day)
  obtain ⟨lower, _, _⟩ := yearOfEra_spec (dayOfEra_le day)
  have whole := day_eq day
  rw [dateOf_eq]
  unfold dayOf
  simp only []
  rw [show monthOfYear (dayOfYear day) = monthOf day from rfl] at shifted starts
  -- The year that starts in March is the one before the date's year in January and February.
  have year : (if monthNumber (monthOf day) ≤ 2 then
      (yearOfEra (dayOfEra day) : Int) + eraOf day * 400
        + (if monthNumber (monthOf day) ≤ 2 then 1 else 0) - 1
    else (yearOfEra (dayOfEra day) : Int) + eraOf day * 400
        + (if monthNumber (monthOf day) ≤ 2 then 1 else 0))
      = yearOfEra (dayOfEra day) + eraOf day * 400 := by
    split <;> omega
  rw [year, shifted]
  have years : daysBefore (yearOfEra (dayOfEra day)) + dayOfYear day = dayOfEra day := by
    unfold dayOfYear
    omega
  have months : daysBeforeMonth (monthOf day) = (153 * monthOf day + 2) / 5 := rfl
  unfold daysBefore at years
  generalize yearOfEra (dayOfEra day) = y at *
  generalize daysBeforeMonth (monthOf day) = before at *
  have era : ((y : Int) + eraOf day * 400) / 400 = eraOf day := by omega
  rw [era, ← months]
  omega

theorem monthNumber_le_two {shifted : Nat} (inYear : shifted ≤ 11) :
    monthNumber shifted ≤ 2 ↔ 10 ≤ shifted := by
  unfold monthNumber
  split <;> omega

/-- The days that an instant can lie in have years that it can lie in. -/
theorem year_inRange {day : Int} (ranged : inRange day = true) :
    yearRange.1 ≤ (dateOf day).1 ∧ (dateOf day).1 ≤ yearRange.2 := by
  have first : dayOf yearRange.1 1 1 = -96465292 := by decide
  have last : dayOf yearRange.2 12 31 = 95026236 := by decide
  unfold inRange at ranged
  rw [first, last] at ranged
  simp only [Bool.and_eq_true, decide_eq_true_eq] at ranged
  obtain ⟨low, high⟩ := ranged
  have inYear := dayOfYear_le day
  obtain ⟨inMonths, _, _⟩ := monthOfYear_spec inYear
  have inEra := yearOfEra_le (dayOfEra_le day)
  obtain ⟨lower, _, _⟩ := yearOfEra_spec (dayOfEra_le day)
  have ofYear : dayOfEra day = daysBefore (yearOfEra (dayOfEra day)) + dayOfYear day := by
    unfold dayOfYear
    omega
  have whole := day_eq day
  have winter := monthNumber_le_two inMonths
  rw [show monthOfYear (dayOfYear day) = monthOf day from rfl] at winter
  have month : monthOf day = (5 * dayOfYear day + 2) / 153 := rfl
  rw [dateOf_eq]
  unfold daysBefore at ofYear
  generalize yearOfEra (dayOfEra day) = y at *
  simp only [winter]
  show -262143 ≤ _ ∧ _ ≤ (262142 : Int)
  constructor
  · by_cases era : eraOf day = -656
    · split <;> omega
    · split <;> omega
  · by_cases era : eraOf day = 655
    · split <;> omega
    · split <;> omega

end Instant
end QuantumJobs
