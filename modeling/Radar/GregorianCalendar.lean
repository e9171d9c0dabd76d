import Mathlib.Logic.Function.Iterate
import Mathlib.Tactic.IntervalCases

/-!
# The Gregorian calendar

Dates of the proleptic Gregorian calendar and the day after a date.  Dates are
numbered without gaps, so that every date is reached day by day from every
earlier one.
-/

namespace Gregorian

/-- Every fourth year is a leap year, of the centuries every fourth one. -/
def IsLeap (year : Int) : Prop :=
  year % 4 = 0 ∧ (year % 100 ≠ 0 ∨ year % 400 = 0)

instance (year : Int) : Decidable (IsLeap year) :=
  inferInstanceAs (Decidable (_ ∧ _))

/-- Days of a month. -/
def monthDays (year : Int) (month : Nat) : Nat :=
  if month = 2 then
    if IsLeap year then 29 else 28
  else if month = 4 ∨ month = 6 ∨ month = 9 ∨ month = 11 then
    30
  else
    31

/-- Days of a year. -/
def yearDays (year : Int) : Nat :=
  if IsLeap year then 366 else 365

/-- A date; its month and its day exist. -/
@[ext] structure Date where
  year : Int
  month : Nat
  day : Nat
  isMonth : 1 ≤ month ∧ month ≤ 12
  isDay : 1 ≤ day ∧ day ≤ monthDays year month
  deriving DecidableEq

/-- Every month has a first day. -/
theorem one_le_monthDays (year : Int) (month : Nat) :
    1 ≤ monthDays year month := by
  unfold monthDays
  split_ifs <;> omega

namespace Date

/-- The first day of a month. -/
def first
    (year : Int)
    (month : Nat)
    (isMonth : 1 ≤ month ∧ month ≤ 12) :
    Date where
  year := year
  month := month
  day := 1
  isMonth := isMonth
  isDay := ⟨Nat.le_refl 1, one_le_monthDays year month⟩

/-- The first day of a year. -/
def newYear (year : Int) : Date :=
  first year 1 (by decide)

/-- The next day. -/
def next (date : Date) : Date :=
  if inMonth : date.day < monthDays date.year date.month then
    { date with
      day := date.day + 1
      isDay := ⟨Nat.le_add_left .., inMonth⟩ }
  else if inYear : date.month < 12 then
    first date.year (date.month + 1) ⟨Nat.le_add_left .., inYear⟩
  else
    newYear (date.year + 1)

end Date

/-! ## Numbers of days -/

/-- Days before a year, counted from the first day of year 1. -/
def daysBeforeYear (year : Int) : Int :=
  365 * (year - 1) + (year - 1) / 4 - (year - 1) / 100 + (year - 1) / 400

/-- Days of a year before a month. -/
def daysBeforeMonth (year : Int) (month : Nat) : Nat :=
  ((List.range' 1 (month - 1)).map (monthDays year)).sum

/-- The number of a date; the first day of year 1 has number 1. -/
def Date.dayNumber (date : Date) : Int :=
  daysBeforeYear date.year + daysBeforeMonth date.year date.month + date.day

/-- The next year starts after the days of a year. -/
theorem daysBeforeYear_succ (year : Int) :
    daysBeforeYear (year + 1) = daysBeforeYear year + yearDays year := by
  unfold daysBeforeYear yearDays
  split_ifs with leap
  · unfold IsLeap at leap
    omega
  · unfold IsLeap at leap
    omega

@[simp] theorem daysBeforeMonth_one (year : Int) :
    daysBeforeMonth year 1 = 0 := rfl

/-- The next month starts after the days of a month. -/
theorem daysBeforeMonth_succ
    (year : Int)
    {month : Nat}
    (isMonth : 1 ≤ month) :
    daysBeforeMonth year (month + 1) =
      daysBeforeMonth year month + monthDays year month := by
  obtain ⟨earlier, rfl⟩ := Nat.exists_eq_add_of_le' isMonth
  simp [daysBeforeMonth, List.range'_concat, Nat.add_comm]

/-- Twelve months make a year. -/
theorem daysBeforeMonth_thirteen (year : Int) :
    daysBeforeMonth year 13 = yearDays year := by
  unfold daysBeforeMonth yearDays
  by_cases leap : IsLeap year <;> simp [List.range', monthDays, leap]

/-- The days before a month do not get fewer. -/
theorem daysBeforeMonth_mono
    (year : Int)
    {month later : Nat}
    (isMonth : 1 ≤ month)
    (notBefore : month ≤ later) :
    daysBeforeMonth year month ≤ daysBeforeMonth year later := by
  induction later, notBefore using Nat.le_induction with
  | base =>
      exact Nat.le_refl _
  | succ later notBefore inductionHypothesis =>
      rw [daysBeforeMonth_succ year (isMonth.trans notBefore)]
      exact inductionHypothesis.trans (Nat.le_add_right ..)

/-- A later year starts after all days of an earlier one. -/
theorem daysBeforeYear_le
    {year later : Int}
    (before : year < later) :
    daysBeforeYear year + yearDays year ≤ daysBeforeYear later := by
  rw [← daysBeforeYear_succ]
  unfold daysBeforeYear
  omega

namespace Date

/-- A day of a year has one of the numbers of the year. -/
theorem bounds_dayOfYear (date : Date) :
    1 ≤ daysBeforeMonth date.year date.month + date.day ∧
      daysBeforeMonth date.year date.month + date.day ≤
        yearDays date.year := by
  have ends := daysBeforeMonth_mono date.year (Nat.le_add_left 1 date.month)
    (Nat.succ_le_succ date.isMonth.2)
  rw [daysBeforeMonth_thirteen, daysBeforeMonth_succ _ date.isMonth.1] at ends
  have isDay := date.isDay
  omega

/-- The next day has the next number. -/
theorem dayNumber_next (date : Date) :
    date.next.dayNumber = date.dayNumber + 1 := by
  have isDay := date.isDay
  unfold next
  split_ifs with inMonth inYear
  · unfold dayNumber
    push_cast
    omega
  · simp only [dayNumber, first,
      daysBeforeMonth_succ _ date.isMonth.1]
    omega
  · have december : date.month = 12 := by
      have := date.isMonth
      omega
    have days := daysBeforeMonth_thirteen date.year
    rw [daysBeforeMonth_succ _ (by decide)] at days
    rw [december] at inMonth isDay
    simp only [dayNumber, newYear, first, daysBeforeMonth_one, december,
      daysBeforeYear_succ]
    omega

/-- After a number of days the number has grown by it. -/
theorem dayNumber_iterate (days : Nat) (date : Date) :
    (next^[days] date).dayNumber = date.dayNumber + days := by
  induction days with
  | zero =>
      simp
  | succ days inductionHypothesis =>
      rw [Function.iterate_succ_apply', dayNumber_next, inductionHypothesis]
      push_cast
      omega

/-- A date is determined by its number. -/
theorem dayNumber_injective : Function.Injective dayNumber := by
  intro date other same
  have sameYear : date.year = other.year := by
    have bounds := date.bounds_dayOfYear
    have otherBounds := other.bounds_dayOfYear
    unfold dayNumber at same
    rcases lt_trichotomy date.year other.year with before | same | after
    · have := daysBeforeYear_le before
      omega
    · exact same
    · have := daysBeforeYear_le after
      omega
  unfold dayNumber at same
  rw [sameYear] at same
  have isDay := date.isDay
  have otherDay := other.isDay
  rw [sameYear] at isDay
  have sameMonth : date.month = other.month := by
    rcases lt_trichotomy date.month other.month with before | same | after
    · have ends := daysBeforeMonth_mono other.year
        (Nat.le_add_left 1 date.month) before
      rw [daysBeforeMonth_succ _ date.isMonth.1] at ends
      omega
    · exact same
    · have ends := daysBeforeMonth_mono other.year
        (Nat.le_add_left 1 other.month) after
      rw [daysBeforeMonth_succ _ other.isMonth.1] at ends
      omega
  rw [sameMonth] at same
  exact Date.ext sameYear sameMonth (by omega)

/-- Every date is reached day by day from every date that is not later. -/
theorem exists_iterate_next
    {date later : Date}
    (notBefore : date.dayNumber ≤ later.dayNumber) :
    ∃ days : Nat, next^[days] date = later := by
  obtain ⟨days, isDays⟩ := Int.le.dest notBefore
  exact ⟨days, dayNumber_injective ((dayNumber_iterate days date).trans isDays)⟩

/-- The year does not decrease from day to day. -/
theorem year_le_next (date : Date) : date.year ≤ date.next.year := by
  unfold next
  split_ifs
  · exact le_refl _
  · exact le_refl _
  · exact (Int.lt_succ date.year).le

/-- The year does not decrease over a number of days. -/
theorem year_le_iterate (days : Nat) (date : Date) :
    date.year ≤ (next^[days] date).year := by
  induction days with
  | zero =>
      exact le_refl _
  | succ days inductionHypothesis =>
      rw [Function.iterate_succ_apply']
      exact inductionHypothesis.trans (year_le_next _)

/--
A quantity that grows by one from day to day, from some year on, counts the
days: it differs from the numbers of the dates by a constant.
-/
theorem eq_add_of_next
    {Count : Type}
    [AddCommGroupWithOne Count]
    {count : Date → Count}
    {start : Int}
    (grows : ∀ date, start ≤ date.year → count date.next = count date + 1)
    {date later : Date}
    (inRange : start ≤ date.year)
    (notBefore : date.dayNumber ≤ later.dayNumber) :
    count later =
      count date + ((later.dayNumber - date.dayNumber : Int) : Count) := by
  obtain ⟨days, rfl⟩ := exists_iterate_next notBefore
  rw [dayNumber_iterate, add_sub_cancel_left, Int.cast_natCast]
  induction days with
  | zero =>
      simp
  | succ days inductionHypothesis =>
      have reached := inRange.trans (year_le_iterate days date)
      rw [Function.iterate_succ_apply', grows _ reached,
        inductionHypothesis (by rw [dayNumber_iterate]; omega), Nat.cast_succ,
        add_assoc]

end Date

end Gregorian
