import Mathlib.Tactic.FieldSimp
import Radar.DayOfYear

namespace Radar

/-!
# Epochs of two-line records

`DurData` turns a year and the number of a day into a date, and `Julian_date`
turns the date into a day again.  For the years of a catalogue the two give
back the day that was counted, except for March to December 2000: `WychKd`
takes 2000 for a common year.
-/

namespace CatalogTle

open Gregorian (IsLeap yearDays daysBeforeYear daysBeforeMonth_thirteen)

/-! ## The days of a year -/

/-- Julian day number of January 1 of a year, which starts at noon. -/
def newYear (year : Int) : Int :=
  1721426 + 365 * (year - 1) + (year - 1) / 4 - (year - 1) / 100 +
    (year - 1) / 400

/-- A year of a catalogue fits into `int16_t`. -/
theorem toInt16_of_range
    {number : Int}
    (notNegative : 0 ≤ number)
    (fits : number < 32768) :
    toInt16 number = number := by
  unfold toInt16
  exact Int.bmod_eq_of_le (by omega) (by omega)

/-- From 1957 to 2060 every fourth year is a leap year. -/
theorem newYear_succ
    {year : Int}
    (from1957 : 1957 ≤ year)
    (to2060 : year ≤ 2060) :
    newYear (year + 1) = newYear year + yearLength year := by
  unfold newYear yearLength
  split <;> omega

/-- The year 2000 has a leap day. -/
theorem newYear_2001 : newYear 2001 = newYear 2000 + 366 := rfl

/-- A later year does not start earlier. -/
theorem newYear_le
    {year later : Int}
    (notBefore : year ≤ later) :
    newYear year ≤ newYear later := by
  unfold newYear
  omega

/-! ## The first loop of `DurData` -/

/-- What the first loop of `DurData` finds for a day counted from a year. -/
structure IsDayOfYear (ng ns year day : Int) : Prop where
  from1957 : 1957 ≤ year
  to2060 : year ≤ 2060
  within : day ≤ yearLength year
  sameDay : newYear year + day = newYear ng + ns
  positive : 0 < day ↔ 0 < ns

/-- The first loop of `DurData` keeps the day and ends within its year. -/
theorem isDayOfYear_durYear
    {fuel : Nat}
    {ng ns : Int}
    (from1957 : 1957 ≤ ng)
    (to2060 : 365 * ng + ns ≤ 365 * 2060)
    (notNegative : 0 ≤ ns)
    (enough : ns ≤ fuel) :
    IsDayOfYear ng ns (durYear fuel ng ns).1 (durYear fuel ng ns).2 := by
  have length : 365 ≤ yearLength ng := by
    unfold yearLength
    split <;> omega
  induction fuel generalizing ng ns with
  | zero =>
      exact {
        from1957 := from1957
        to2060 := show ng ≤ 2060 by omega
        within := show ns ≤ yearLength ng by omega
        sameDay := rfl
        positive := Iff.rfl }
  | succ fuel inductionHypothesis =>
      unfold durYear
      split
      · next longer =>
          rw [toInt16_of_range (by omega) (by omega)]
          have nextLength : 365 ≤ yearLength (ng + 1) := by
            unfold yearLength
            split <;> omega
          have rest : ns - yearLength ng ≤ fuel := by
            omega
          have later := inductionHypothesis (by omega) (by omega) (by omega)
            rest nextLength
          have next := newYear_succ from1957 (by omega)
          exact {
            from1957 := later.from1957
            to2060 := later.to2060
            within := later.within
            sameDay := later.sameDay.trans (by omega)
            positive := later.positive.trans (by omega) }
      · next fits =>
          exact {
            from1957 := from1957
            to2060 := show ng ≤ 2060 by omega
            within := show ns ≤ yearLength ng by omega
            sameDay := rfl
            positive := Iff.rfl }

/-- Is a day of a year, or of those after it, one of March to December 2000? -/
theorem IsDayOfYear.late2000_iff
    {ng ns year day : Int}
    (isDay : IsDayOfYear ng ns year day) :
    year = 2000 ∧ 60 ≤ day ↔
      0 < ns ∧ newYear 2000 + 59 ≤ newYear ng + ns - 1 ∧
        newYear ng + ns - 1 < newYear 2001 := by
  obtain ⟨from1957, to2060, within, sameDay, positive⟩ := isDay
  have lastDay := newYear_2001
  constructor
  · rintro ⟨rfl, late⟩
    have length : yearLength 2000 = 366 := rfl
    omega
  · rintro ⟨some, notBefore, notAfter⟩
    have next := newYear_succ from1957 to2060
    have notEarlier : ¬ year + 1 ≤ 2000 := by
      intro earlier
      have := newYear_le earlier
      omega
    have notLater : ¬ 2001 ≤ year := by
      intro later
      have := newYear_le later
      omega
    have same : year = 2000 := by omega
    subst same
    omega

/-! ## Months -/

/-- Julian day numbers are numbers of dates and a constant. -/
theorem newYear_eq (year : Int) :
    newYear year = daysBeforeYear year + 1721426 := by
  unfold newYear daysBeforeYear
  omega

/-- The table of months knows every leap year of the catalogue but 2000. -/
theorem tableError_eq
    {year : Int}
    (from1957 : 1957 ≤ year)
    (to2060 : year ≤ 2060) :
    tableError year = if year = 2000 then -1 else 0 := by
  by_cases special : year = 2000
  · subst special
    decide
  · rw [if_neg special, tableError_eq_zero_iff]
    omega

/-- In 2000 the table reaches March with the 60th day. -/
theorem FindsMonth.march2000_iff
    {day : Int}
    {month : Nat}
    (finds : FindsMonth 2000 day month) :
    2 < month ↔ 60 ≤ day := by
  constructor
  · intro inSpring
    by_contra early
    exact absurd (finds.month_le_two (by omega)) (by omega)
  · intro late
    by_contra winter
    have within := finds.within
    have isMonth := finds.isMonth
    obtain rfl | rfl : month = 1 ∨ month = 2 := by omega
    · rw [wychKd_one] at within
      omega
    · have february : wychKd 2000 2 = 59 := rfl
      omega

/-- The month found for a day, and the day in it, stand for that day. -/
theorem julianDay_durMonth
    {year day : Int}
    {month : Nat}
    (from1957 : 1957 ≤ year)
    (to2060 : year ≤ 2060)
    (found : durMonth year day = some month) :
    julianDay year month
        (if month = 1 then day else day - wychKd year (month - 1)) =
      newYear year + day - 1 +
        (if year = 2000 ∧ 60 ≤ day then 1 else 0) := by
  have finds := findsMonth_of_durMonth found
  have counted := finds.julianDay_eq (by omega)
  rw [dayOfMonth, tableError_eq from1957 to2060] at counted
  rw [counted, newYear_eq]
  by_cases special : year = 2000
  · subst special
    simp only [finds.march2000_iff, if_true, true_and]
    split <;> omega
  · simp only [special, if_false, ite_self, false_and]
    omega

/-- Every day of a year is in a month, except for the last day of 2000. -/
theorem durMonth_eq_none
    {year day : Int}
    (from1957 : 1957 ≤ year)
    (to2060 : year ≤ 2060)
    (within : day ≤ yearLength year) :
    durMonth year day = none ↔ year = 2000 ∧ day = 366 := by
  constructor
  · intro missing
    by_contra another
    have december : day ≤ wychKd year 12 := by
      rw [wychKd_eq year (by decide), daysBeforeMonth_thirteen,
        tableError_eq from1957 to2060]
      unfold yearLength at within
      unfold yearDays
      by_cases leap : IsLeap year
      · rw [if_pos leap]
        unfold IsLeap at leap
        split_ifs at * <;> omega
      · rw [if_neg leap]
        unfold IsLeap at leap
        split_ifs at * <;> omega
    obtain ⟨month, found⟩ :=
      exists_durMonth (by decide : 1 ≤ 12 ∧ 12 ≤ 12) december
    rw [missing] at found
    cases found
  · rintro ⟨rfl, rfl⟩
    rfl

/-! ## Dates and epochs -/

/--
The Julian day number that is found for a day counted from the start of a
year; the last day of 2000 has none.
-/
def foundDay (ng ns : Int) : Option Int :=
  let day := newYear ng + ns - 1
  if 0 < ns ∧ newYear 2000 + 59 ≤ day ∧ day < newYear 2001 then
    if day + 1 = newYear 2001 then none else some (day + 1)
  else
    some day

/-- The day found, by the year it is in and its number there. -/
theorem IsDayOfYear.foundDay_eq
    {ng ns year day : Int}
    (isDay : IsDayOfYear ng ns year day) :
    foundDay ng ns =
      if year = 2000 ∧ day = 366 then
        none
      else
        some (newYear year + day - 1 +
          if year = 2000 ∧ 60 ≤ day then 1 else 0) := by
  have late := isDay.late2000_iff
  have sameDay := isDay.sameDay
  unfold foundDay
  dsimp only
  rw [← sameDay] at late ⊢
  by_cases isLate : year = 2000 ∧ 60 ≤ day
  · have ends : newYear year + day - 1 + 1 = newYear 2001 ↔
        year = 2000 ∧ day = 366 := by
      rw [isLate.1, newYear_2001]
      omega
    rw [if_pos (late.mp isLate), if_pos isLate]
    exact if_congr ends rfl rfl
  · have notLast : ¬ (year = 2000 ∧ day = 366) := by
      omega
    rw [if_neg (mt late.mpr isLate), if_neg isLate, if_neg notLast,
      Int.add_zero]

/-- `DurData` and `Julian_date` together count days, but not in 2000. -/
theorem durData_jd
    {ng ns : Int}
    {ts : Rat}
    (from1957 : 1957 ≤ ng)
    (to2060 : 365 * ng + ns ≤ 365 * 2060)
    (notNegative : 0 ≤ ns) :
    (durData ng ns ts).map GregorianDate.jd =
      (foundDay ng ns).map fun day : Int => (day : Rat) - 1 / 2 + ts := by
  have isDay := isDayOfYear_durYear from1957 to2060 notNegative
    (Int.self_le_toNat ns)
  rw [isDay.foundDay_eq]
  unfold durData
  generalize durYear ns.toNat ng ns = year at isDay
  have noMonth :=
    durMonth_eq_none isDay.from1957 isDay.to2060 isDay.within
  cases found : durMonth year.1 year.2 with
  | none =>
      rw [if_pos (noMonth.mp found)]
      simp only [found, Option.bind_eq_bind, Option.bind_none, Option.map_none]
  | some month =>
      have notLast : ¬ (year.1 = 2000 ∧ year.2 = 366) := by
        rw [← noMonth, found]
        exact Option.some_ne_none month
      have day := julianDay_durMonth isDay.from1957 isDay.to2060 found
      rw [if_neg notLast]
      simp only [found, Option.bind_eq_bind, Option.bind_some,
        Option.pure_def, Option.map_some, jd_time, day]

/-- Year of the two digits of a catalogue epoch. -/
def catalogYear (years : Nat) : Int :=
  if years < 57 then 2000 + years else 1900 + years

/-- The integer part of a natural number and a part of one. -/
theorem floor_natCast_add
    (whole : Nat)
    {part : Rat}
    (notNegative : 0 ≤ part)
    (isPart : part < 1) :
    (whole + part : Rat).floor = whole := by
  have notBelow : (whole : Int) ≤ (whole + part : Rat).floor := by
    rw [Rat.le_floor_iff, Int.cast_natCast]
    linarith
  have notAbove : (whole + part : Rat).floor < (whole : Int) + 1 := by
    rw [Rat.floor_lt_iff]
    push_cast
    linarith
  omega

/-- A conversion to `uint16_t` leaves out the part that is not an integer. -/
theorem toUInt16_natCast_add
    (whole : Nat)
    {part : Rat}
    (fits : whole < 65536)
    (notNegative : 0 ≤ part)
    (isPart : part < 1) :
    toUInt16 (whole + part) = some whole := by
  have wholePositive : (0 : Rat) ≤ whole := Nat.cast_nonneg whole
  have wholeFits : (whole : Rat) + 1 ≤ 65536 := by
    exact_mod_cast fits
  unfold toUInt16
  rw [if_pos ⟨by linarith, by linarith⟩,
    floor_natCast_add whole notNegative isPart, Int.toNat_natCast]

/-- The Julian date of an epoch is that of the day found for it. -/
theorem epochJd_eq
    {years days : Nat}
    {part : Rat}
    (twoDigits : years < 100)
    (threeDigits : days < 1000)
    (notNegative : 0 ≤ part)
    (isPart : part < 1) :
    epochJd (years * 1000 + days + part) =
      (foundDay (catalogYear years) days).map fun day : Int =>
        (day : Rat) - 1 / 2 + part := by
  have yearNumber :
      toUInt16 ((years * 1000 + days + part : Rat) / 1000) = some years := by
    have daysFit : (days : Rat) + 1 ≤ 1000 := by
      exact_mod_cast threeDigits
    have daysPositive : (0 : Rat) ≤ days := Nat.cast_nonneg days
    have split : (years * 1000 + days + part : Rat) / 1000 =
        years + (days + part) / 1000 := by
      ring
    rw [split]
    exact toUInt16_natCast_add years (by omega) (by positivity)
      (by rw [div_lt_one (by norm_num)]; linarith)
  have eDay : (years * 1000 + days + part - years * 1000 : Rat) =
      days + part := by
    ring
  have dayNumber : toUInt16 ((days + part : Rat).floor : Rat) = some days := by
    rw [floor_natCast_add days notNegative isPart, Int.cast_natCast]
    simpa using toUInt16_natCast_add days (by omega) le_rfl one_pos
  have partOfDay : (days + part - days : Rat) = part := by
    ring
  have year :
      toInt16 ((years + if 57 ≤ years then 1900 else 2000) % 65536 : Nat) =
        catalogYear years := by
    have inRange :
        0 ≤ catalogYear years ∧ catalogYear years < 32768 := by
      unfold catalogYear
      split <;> omega
    rw [← toInt16_of_range inRange.1 inRange.2]
    unfold catalogYear
    congr 1
    split <;> split <;> omega
  have from1957 : 1957 ≤ catalogYear years := by
    unfold catalogYear
    split <;> omega
  have to2060 : 365 * catalogYear years + days ≤ 365 * 2060 := by
    unfold catalogYear
    split <;> omega
  unfold epochJd epochDate
  simp only [yearNumber, Option.bind_eq_bind, Option.bind_some, eDay,
    dayNumber, partOfDay]
  rw [year]
  exact durData_jd from1957 to2060 (Int.natCast_nonneg days)

end CatalogTle

end Radar
