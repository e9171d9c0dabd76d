import Mathlib.Tactic.Ring
import Radar.BinaryRounding
import Radar.GregorianCalendar
import Radar.TleElements

namespace Radar.CatalogTle

/-!
# Julian dates

The divisions of `Julian_date` truncate, but from the year -4799 on none of
them has a negative numerator.  The function numbers the days of the Gregorian
calendar: its integer part is the number of a date and a constant.  The part of
a day is a `double`, and so is its sum with the number, which is rounded.
-/

open Gregorian

/-- The terms of a year count the days up to its end. -/
theorem yearTerms
    {year j : Int}
    (notNegative : 0 ≤ year + 4800 + j) :
    (1461 * (year + 4800 + j)).tdiv 4 -
        (3 * (year + 4900 + j).tdiv 100).tdiv 4 =
      daysBeforeYear (year + j + 1) + 1753164 := by
  have century : (year + 4900 + j).tdiv 100 = (year + j) / 100 + 49 := by
    rw [Int.tdiv_eq_ediv_of_nonneg (by omega)]
    omega
  have fourth : (year + j) / 400 = (year + j) / 100 / 4 := by
    omega
  rw [century, Int.tdiv_eq_ediv_of_nonneg (by omega),
    Int.tdiv_eq_ediv_of_nonneg (by omega)]
  unfold daysBeforeYear
  rw [Int.add_sub_cancel, fourth]
  omega

/-- The Julian day of a day of a month, which need not exist. -/
theorem julianDay_eq
    {year : Int}
    {month : Nat}
    (day : Int)
    (inRange : -4799 ≤ year)
    (isMonth : 1 ≤ month ∧ month ≤ 12) :
    julianDay year month day =
      daysBeforeYear year + daysBeforeMonth year month + day + 1721425 := by
  obtain ⟨firstMonth, lastMonth⟩ := isMonth
  have winter : (1461 * (year + 4800 + -1)).tdiv 4 -
        (3 * (year + 4900 + -1).tdiv 100).tdiv 4 =
      daysBeforeYear (year + -1 + 1) + 1753164 :=
    yearTerms (by omega)
  have summer : (1461 * (year + 4800 + 0)).tdiv 4 -
        (3 * (year + 4900 + 0).tdiv 100).tdiv 4 =
      daysBeforeYear (year + 0 + 1) + 1753164 :=
    yearTerms (by omega)
  have later := daysBeforeYear_succ year
  rw [Int.add_assoc, Int.add_zero] at summer
  rw [Int.neg_add_cancel_right] at winter
  unfold julianDay
  interval_cases month <;>
    · simp [daysBeforeMonth, List.range', monthDays, yearDays] at *
      split_ifs at * <;> omega

/-- `Julian_date` of a date numbers its day. -/
theorem julianDate_date
    (date : Date)
    (hour : Rat)
    (inRange : -4799 ≤ date.year) :
    julianDate date.year date.month date.day hour =
      date.dayNumber + 1721425 - 1 / 2 + hour / 24 := by
  rw [julianDate, julianDay_eq date.day inRange date.isMonth, Date.dayNumber]
  push_cast
  ring

/-- `Utils::Julian_date` with the rounding of its operations. -/
def julianDateDouble (year month day : Int) (hour : Rat) : Rat :=
  Binary64.round
    (Binary64.round (julianDay year month day - 1 / 2) +
      Binary64.round (hour / 24))

/-- The largest product of `Julian_date` is an `int`. -/
def InIntRange (date : Date) : Prop :=
  1461 * (date.year + 4800 + ((date.month : Int) - 14).tdiv 12) < 2 ^ 31

instance (date : Date) : Decidable (InIntRange date) :=
  inferInstanceAs (Decidable (_ < _))

/-- The numbers of days are far from the bounds of `int`. -/
theorem abs_dayNumber_lt
    {date : Date}
    (inRange : -4799 ≤ date.year)
    (fits : InIntRange date) :
    |2 * (date.dayNumber + 1721425) - 1| < 2 ^ 31 := by
  have ofYear := date.bounds_dayOfYear
  have isMonth := date.isMonth
  have winter :
      ((date.month : Int) - 14).tdiv 12 =
        -((14 - (date.month : Int)) / 12) := by
    rw [← Int.neg_sub, Int.neg_tdiv, Int.tdiv_eq_ediv_of_nonneg (by omega)]
  unfold InIntRange at fits
  rw [winter] at fits
  unfold Date.dayNumber daysBeforeYear yearDays at *
  rw [abs_lt]
  constructor <;> split_ifs at * <;> omega

/-- The Julian date of a date at its beginning is exact. -/
theorem julianDateDouble_eq
    {date : Date}
    (inRange : -4799 ≤ date.year)
    (fits : InIntRange date)
    (hour : Rat) :
    julianDateDouble date.year date.month date.day hour =
      Binary64.round
        (julianDate date.year date.month date.day 0 +
          Binary64.round (hour / 24)) := by
  have start :
      julianDate date.year date.month date.day 0 =
        (2 * (date.dayNumber + 1721425) - 1 : Int) * 2 ^ (-1 : Int) := by
    rw [julianDate_date date 0 inRange]
    push_cast
    ring
  have exact : Binary64.round (julianDate date.year date.month date.day 0) =
      julianDate date.year date.month date.day 0 := by
    rw [start]
    exact Binary64.round_eq_self
      ((abs_dayNumber_lt inRange fits).trans (by norm_num)) (by norm_num)
  rw [julianDate, zero_div, add_zero] at exact ⊢
  rw [julianDateDouble, exact]

/-- With a part of a day that has few binary digits nothing is rounded. -/
theorem julianDateDouble_of_multiple
    {date : Date}
    (inRange : -4799 ≤ date.year)
    (fits : InIntRange date)
    {parts : Int}
    (short : |parts| < 2 ^ 52) :
    julianDateDouble date.year date.month date.day (24 * parts / 2 ^ 21) =
      julianDate date.year date.month date.day (24 * parts / 2 ^ 21) := by
  have part : (24 * parts / 2 ^ 21 : Rat) / 24 = parts * 2 ^ (-21 : Int) := by
    norm_num
    ring
  have small := abs_dayNumber_lt inRange fits
  have sum :
      julianDate date.year date.month date.day 0 + parts * 2 ^ (-21 : Int) =
        ((2 * (date.dayNumber + 1721425) - 1) * 2 ^ 20 + parts : Int) *
          2 ^ (-21 : Int) := by
    rw [julianDate_date date 0 inRange]
    push_cast
    norm_num
    ring
  rw [julianDateDouble_eq inRange fits, part,
    Binary64.round_eq_self (short.trans (by norm_num)) (by norm_num), sum,
    Binary64.round_eq_self _ (by norm_num), ← sum,
    julianDate_date date _ inRange, julianDate_date date _ inRange, part]
  · ring
  · rw [abs_lt] at *
    constructor <;> omega

/-- The part of a day is off by a part of a second at most. -/
theorem abs_julianDateDouble_sub_le
    {date : Date}
    (inRange : -4799 ≤ date.year)
    (fits : InIntRange date)
    {hour : Rat}
    (ofDay : |hour| ≤ 24) :
    |julianDateDouble date.year date.month date.day hour -
        (julianDate date.year date.month date.day 0 +
          Binary64.round (hour / 24))| ≤
      1 / 2 ^ 23 := by
  have part : |Binary64.round (hour / 24)| ≤ 2 := by
    have atMostOne : |hour / 24| ≤ 1 := by
      rw [abs_div, div_le_one (by norm_num)]
      simpa using ofDay
    have near := Binary64.abs_round_sub_le
      (show |hour / 24| < 2 ^ (1 : Int) from
        atMostOne.trans_lt (by norm_num)) (by norm_num)
    norm_num at near
    rw [abs_le] at *
    constructor <;> linarith
  have number : |julianDate date.year date.month date.day 0| < 2 ^ 30 := by
    have small := abs_dayNumber_lt inRange fits
    rw [julianDate_date date 0 inRange]
    rw [abs_lt] at *
    have lower : (-2 ^ 31 : Rat) < 2 * (date.dayNumber + 1721425) - 1 := by
      exact_mod_cast small.1
    have upper : (2 * (date.dayNumber + 1721425) - 1 : Rat) < 2 ^ 31 := by
      exact_mod_cast small.2
    constructor <;> linarith
  have bound :
      |julianDate date.year date.month date.day 0 +
          Binary64.round (hour / 24)| < 2 ^ (31 : Int) := by
    refine (abs_add_le _ _).trans_lt ?_
    norm_num at number ⊢
    linarith
  rw [julianDateDouble_eq inRange fits]
  exact (Binary64.abs_round_sub_le bound (by norm_num)).trans (by norm_num)

/-- The next date has the next number. -/
theorem julianDate_date_next
    (date : Date)
    (hour : Rat)
    (inRange : -4799 ≤ date.year) :
    julianDate date.next.year date.next.month date.next.day hour =
      julianDate date.year date.month date.day hour + 1 := by
  rw [julianDate_date date hour inRange,
    julianDate_date date.next hour (inRange.trans date.year_le_next),
    date.dayNumber_next]
  push_cast
  ring

/-- `Julian_date` at noon is every count of days that starts as it does. -/
theorem julianDate_noon
    {count : Date → Rat}
    (start : count (.newYear 2000) = 2451545)
    (grows : ∀ date, -4799 ≤ date.year → count date.next = count date + 1)
    (date : Date)
    (inRange : -4799 ≤ date.year) :
    julianDate date.year date.month date.day 12 = count date := by
  have startNumber : (Date.newYear 2000).dayNumber = 730120 := by
    decide +kernel
  rw [julianDate_date date 12 inRange]
  rcases le_total date.dayNumber (Date.newYear 2000).dayNumber with
    before | after
  · have counted := Date.eq_add_of_next grows inRange before
    rw [start, startNumber] at counted
    push_cast at counted
    linarith
  · have counted := Date.eq_add_of_next grows
      (by decide : -4799 ≤ (Date.newYear 2000).year) after
    rw [start, startNumber] at counted
    rw [counted]
    push_cast
    ring

/--
The exact Julian dates of the next date and of a date differ by 1 at every
hour, and the doubles are their sums rounded.  Where the sums have few digits
they differ by 1 too, and within a day by nearly 1.  At noon `Julian_date` is
the count of days that is 2451545 at noon of January 1, 2000.
-/
theorem julianDate_next :
    (∀ (date : Date) (hour : Rat), -4799 ≤ date.year →
      julianDate date.next.year date.next.month date.next.day hour =
          julianDate date.year date.month date.day hour + 1 ∧
        (InIntRange date → InIntRange date.next →
          let sum :=
            julianDate date.year date.month date.day 0 +
              Binary64.round (hour / 24)
          let double := julianDateDouble date.year date.month date.day hour
          let nextDouble :=
            julianDateDouble date.next.year date.next.month date.next.day hour
          double = Binary64.round sum ∧
            nextDouble = Binary64.round (sum + 1) ∧
            ((∃ parts : Int, |parts| < 2 ^ 52 ∧ hour = 24 * parts / 2 ^ 21) →
              nextDouble = double + 1) ∧
            (|hour| ≤ 24 → |nextDouble - double - 1| ≤ 1 / 2 ^ 22))) ∧
      julianDateDouble 2000 1 1 12 = 2451545 ∧
      ∀ count : Date → Rat, count (.newYear 2000) = 2451545 →
        (∀ date, -4799 ≤ date.year → count date.next = count date + 1) →
        ∀ date, -4799 ≤ date.year → InIntRange date →
          julianDateDouble date.year date.month date.day 12 = count date := by
  refine ⟨?_, by decide +kernel, ?_⟩
  · intro date hour inRange
    refine ⟨julianDate_date_next date hour inRange, ?_⟩
    intro fits nextFits
    have nextInRange := inRange.trans date.year_le_next
    have startNext := julianDate_date_next date 0 inRange
    refine ⟨julianDateDouble_eq inRange fits hour, ?_, ?_, ?_⟩
    · rw [julianDateDouble_eq nextInRange nextFits, startNext,
        add_right_comm]
    · rintro ⟨parts, short, rfl⟩
      rw [julianDateDouble_of_multiple inRange fits short,
        julianDateDouble_of_multiple nextInRange nextFits short]
      exact julianDate_date_next date _ inRange
    · intro ofDay
      have near := abs_julianDateDouble_sub_le inRange fits ofDay
      have nearNext :=
        abs_julianDateDouble_sub_le nextInRange nextFits ofDay
      rw [startNext] at nearNext
      rw [abs_le] at *
      constructor <;> linarith
  · intro count start grows date inRange fits
    have noon : (12 : Rat) = 24 * (2 ^ 20 : Int) / 2 ^ 21 := by norm_num
    rw [← julianDate_noon start grows date inRange, noon]
    exact julianDateDouble_of_multiple inRange fits (by norm_num)

/-- September 14, 1029. -/
def beforePower : Date where
  year := 1029
  month := 9
  day := 14
  isMonth := by decide
  isDay := by decide

/--
From 13 hours of this day to the next the Julian date passes 2^21, where the
last place of a `double` gets larger.
-/
theorem beforePower_not_next :
    ¬ ∀ (date : Date) (hour : Rat),
      -4799 ≤ date.year → InIntRange date → InIntRange date.next →
        Binary64.round hour = hour →
          julianDateDouble date.next.year date.next.month date.next.day
              hour =
            julianDateDouble date.year date.month date.day hour + 1 := by
  intro claim
  have passes :=
    claim beforePower 13 (by decide) (by decide) (by decide)
      (by decide +kernel)
  revert passes
  decide +kernel

/-- February 28, 2000, which has a next day in the month. -/
def leapEve : Date where
  year := 2000
  month := 2
  day := 28
  isMonth := by decide
  isDay := by decide

/--
The leap day of 2000 has the next Julian date at noon, and noon of January 1,
1970 has the one of its day number.
-/
theorem julianDate_next_leapEve :
    julianDateDouble 2000 2 29 12 = julianDateDouble 2000 2 28 12 + 1 ∧
      julianDateDouble 1970 1 1 12 =
        ((Date.newYear 1970).dayNumber + 1721425 : Rat) := by
  constructor
  · have rounded :=
      (julianDate_next.1 leapEve 12 (by decide)).2 (by decide) (by decide)
    refine rounded.2.2.1 ⟨2 ^ 20, by norm_num, by norm_num⟩
  · refine julianDate_next.2.2 (fun date => date.dayNumber + 1721425)
      (by decide +kernel) ?_ (.newYear 1970) (by decide) (by decide)
    intro date _
    rw [date.dayNumber_next]
    push_cast
    ring

end Radar.CatalogTle
