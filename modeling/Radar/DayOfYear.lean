import Radar.JulianDate

namespace Radar.CatalogTle

/-!
# Days of a year

`DurData` finds the month of a day in the table of `WychKd`.  The table has
leap years of its own: it takes for one a century that is no multiple of 400
or 1000, and it does not take for one a multiple of 400.
-/

open Gregorian

/-- Days that the table gives February too many. -/
def tableError (year : Int) : Int :=
  (if year % 4 = 0 ∧ year % 1000 ≠ 0 ∧ year % 400 ≠ 0 then 1 else 0) -
    if IsLeap year then 1 else 0

/-- The table is right about the leap day of most years. -/
theorem tableError_eq_zero_iff (year : Int) :
    tableError year = 0 ↔
      year % 100 ≠ 0 ∨ year % 1000 = 0 ∧ year % 400 ≠ 0 := by
  unfold tableError
  split_ifs with inTable leap leap
  · unfold IsLeap at leap
    omega
  · unfold IsLeap at leap
    omega
  · unfold IsLeap at leap
    omega
  · unfold IsLeap at leap
    omega

/-- The table counts the days up to the end of a month. -/
theorem wychKd_eq
    (year : Int)
    {month : Nat}
    (isMonth : 1 ≤ month ∧ month ≤ 12) :
    wychKd year month =
      daysBeforeMonth year (month + 1) +
        if 1 < month then tableError year else 0 := by
  obtain ⟨firstMonth, lastMonth⟩ := isMonth
  unfold wychKd tableError
  interval_cases month <;>
    simp [dmounth, daysBeforeMonth, List.range', monthDays] <;>
    split_ifs <;>
    omega

/-- January has 31 days in the calendar and in the table. -/
theorem daysBeforeMonth_two (year : Int) : daysBeforeMonth year 2 = 31 := rfl

theorem wychKd_one (year : Int) : wychKd year 1 = 31 := by
  simp [wychKd, dmounth]

/-- Days before March. -/
theorem daysBeforeMonth_three (year : Int) :
    daysBeforeMonth year 3 = if IsLeap year then 60 else 59 := by
  by_cases leap : IsLeap year <;>
    simp [daysBeforeMonth, List.range', monthDays, leap]

/-- In the table January and February have 59 days or 60. -/
theorem wychKd_two (year : Int) :
    wychKd year 2 =
      59 + if year % 4 = 0 ∧ year % 1000 ≠ 0 ∧ year % 400 ≠ 0 then 1 else 0 :=
    by
  rw [wychKd_eq year (by decide), daysBeforeMonth_three, tableError]
  split_ifs <;> omega

/-- The table does not decrease from February on. -/
theorem wychKd_two_le
    (year : Int)
    {month : Nat}
    (notJanuary : 2 ≤ month)
    (last : month ≤ 12) :
    wychKd year 2 ≤ wychKd year month := by
  have mono : daysBeforeMonth year (2 + 1) ≤ daysBeforeMonth year (month + 1) :=
    daysBeforeMonth_mono year (by decide) (Nat.succ_le_succ notJanuary)
  rw [wychKd_eq year (by decide), wychKd_eq year ⟨by omega, last⟩,
    if_pos (by decide), if_pos (by omega)]
  omega

/-! ## The month search -/

/-- The month that the search finds, if it finds one. -/
structure FindsMonth (year ns : Int) (month : Nat) : Prop where
  isMonth : 1 ≤ month ∧ month ≤ 12
  within : ns ≤ wychKd year month
  later : month ≠ 1 → wychKd year (month - 1) < ns

/-- A month that is found is the first one whose end is not before the day. -/
theorem findsMonth_of_durMonth
    {year ns : Int}
    {month : Nat}
    (found : durMonth year ns = some month) :
    FindsMonth year ns month := by
  unfold durMonth at found
  rw [List.find?_range'_eq_some] at found
  obtain ⟨within, inTable, later⟩ := found
  obtain ⟨first, last⟩ := List.mem_range'_1.mp inTable
  refine ⟨by omega, by simpa using within, ?_⟩
  intro notFirst
  simpa using later (month - 1) (by omega) (by omega)

/-- A day up to the end of a month in the table has a month. -/
theorem exists_durMonth
    {year ns : Int}
    {month : Nat}
    (isMonth : 1 ≤ month ∧ month ≤ 12)
    (within : ns ≤ wychKd year month) :
    ∃ found, durMonth year ns = some found := by
  unfold durMonth
  rw [← Option.isSome_iff_exists, List.find?_isSome]
  exact ⟨month, List.mem_range'_1.mpr (by omega), by simpa using within⟩

/-- Day of the month for a day of the year. -/
def dayOfMonth (year ns : Int) (month : Nat) : Int :=
  if month = 1 then ns else ns - wychKd year (month - 1)

namespace FindsMonth

variable
  {year ns : Int}
  {month : Nat}

/-- The day of the month, by the days before the month. -/
theorem dayOfMonth_eq (finds : FindsMonth year ns month) :
    dayOfMonth year ns month =
      ns - daysBeforeMonth year month -
        if 2 < month then tableError year else 0 := by
  have isMonth := finds.isMonth
  unfold dayOfMonth
  split_ifs with isFirst inSpring inSpring
  · omega
  · rw [isFirst, daysBeforeMonth_one]
    omega
  · rw [wychKd_eq year (by omega), if_pos (by omega),
      Nat.sub_add_cancel isMonth.1]
    omega
  · have isSecond : month = 2 := by omega
    rw [isSecond, Nat.add_one_sub_one, wychKd_one, daysBeforeMonth_two]
    omega

/-- The Julian day that is found is off by the error of the table. -/
theorem julianDay_eq
    (finds : FindsMonth year ns month)
    (inRange : -4799 ≤ year) :
    julianDay year month (dayOfMonth year ns month) =
      daysBeforeYear year + ns + 1721425 -
        if 2 < month then tableError year else 0 := by
  rw [CatalogTle.julianDay_eq _ inRange finds.isMonth, finds.dayOfMonth_eq]
  omega

/-- Up to the 59th day of a year the month is January or February. -/
theorem month_le_two
    (finds : FindsMonth year ns month)
    (early : ns ≤ 59) :
    month ≤ 2 := by
  by_contra late
  have isMonth := finds.isMonth
  have after := finds.later (by omega)
  have notLess := wychKd_two_le year (by omega : 2 ≤ month - 1) (by omega)
  rw [wychKd_two] at notLess
  split_ifs at notLess <;> omega

/-- The day of the month exists if the table is right about it. -/
theorem dayOfMonth_bounds
    (finds : FindsMonth year ns month)
    (some : 1 ≤ ns)
    (right : tableError year = 0 ∨ ns ≤ 59) :
    1 ≤ dayOfMonth year ns month ∧
      dayOfMonth year ns month ≤ monthDays year month := by
  have isMonth := finds.isMonth
  have within := finds.within
  have days := daysBeforeMonth_succ year isMonth.1
  constructor
  · unfold dayOfMonth
    split_ifs with isFirst
    · exact some
    · have := finds.later isFirst
      omega
  · rw [finds.dayOfMonth_eq]
    rw [wychKd_eq year isMonth] at within
    rcases right with noError | early
    · rw [noError] at within ⊢
      split_ifs at within ⊢ <;> omega
    · have winter := finds.month_le_two early
      rw [if_neg (by omega)]
      have february : 28 ≤ monthDays year 2 := by
        unfold monthDays
        split_ifs <;> omega
      obtain rfl | rfl : month = 1 ∨ month = 2 := by omega
      · rw [if_neg (by decide)] at within
        omega
      · rw [daysBeforeMonth_two]
        omega

/-- If the table is wrong, a later day in February does not exist. -/
theorem not_february
    (finds : FindsMonth year ns month)
    (isWrong : tableError year ≠ 0)
    (late : 60 ≤ ns)
    (winter : month ≤ 2) :
    ¬ dayOfMonth year ns month ≤ monthDays year month := by
  have within := finds.within
  have isMonth := finds.isMonth
  obtain rfl | rfl : month = 1 ∨ month = 2 := by omega
  · rw [wychKd_one] at within
    omega
  · rw [wychKd_two] at within
    rw [finds.dayOfMonth_eq, if_neg (by decide), daysBeforeMonth_two]
    unfold tableError at isWrong
    unfold monthDays
    split_ifs at * <;> omega

end FindsMonth

/-! ## `DurData` -/

/-- The parts of a time add up to it. -/
theorem jd_time (year day hour minute : Int) (month : Nat) (ts : Rat) :
    GregorianDate.jd
        { year := year
          month := month
          day := day
          hour := hour
          minute := minute
          second := ts * 24 * 3600 - hour * 3600 - minute * 60 } =
      julianDay year month day - 1 / 2 + ts := by
  unfold GregorianDate.jd julianDate
  ring

/--
`DurData` finds a month for a day of a year, a day that this month has, and so
the date of that day.
-/
def CountsDay (year ns : Int) : Prop :=
  ∃ date, durData year ns 0 = some date ∧
    (1 ≤ date.month ∧ date.month ≤ 12) ∧
    (1 ≤ date.day ∧ date.day ≤ monthDays date.year date.month) ∧
    date.jd = julianDate year 1 1 0 + ns - 1

/-- The first loop ends at once for a day of its year. -/
theorem durYear_of_le
    {year ns : Int}
    (some : 1 ≤ ns)
    (last : ns ≤ yearDays year) :
    durYear ns.toNat year ns = (year, ns) := by
  have within : ¬ yearLength year < ns := by
    unfold yearDays at last
    unfold yearLength
    by_cases leap : IsLeap year
    · rw [if_pos leap] at last
      rw [if_pos leap.1]
      omega
    · rw [if_neg leap] at last
      split_ifs <;> omega
  obtain ⟨fuel, isFuel⟩ : ∃ fuel, ns.toNat = fuel + 1 :=
    ⟨ns.toNat - 1, by omega⟩
  rw [isFuel, durYear, if_neg within]

/-- What `DurData` finds for a day of a year, by the month it finds. -/
theorem durData_dayOfYear
    {year ns : Int}
    (some : 1 ≤ ns)
    (last : ns ≤ yearDays year) :
    durData year ns 0 =
      (durMonth year ns).map fun month =>
        { year := year
          month := month
          day := dayOfMonth year ns month
          hour := 0
          minute := 0
          second := 0 } := by
  have midnight : (0 : Rat).floor = 0 := rfl
  unfold durData
  rw [durYear_of_le some last]
  cases found : durMonth year ns with
  | none => simp [found]
  | some month => simp [found, dayOfMonth, midnight]

/-- The date found for a day is off by the error of the table. -/
theorem FindsMonth.jd_eq_iff
    {year ns : Int}
    {month : Nat}
    (finds : FindsMonth year ns month)
    (inRange : -4799 ≤ year) :
    GregorianDate.jd
          { year := year
            month := month
            day := dayOfMonth year ns month
            hour := 0
            minute := 0
            second := 0 } =
        julianDate year 1 1 0 + ns - 1 ↔
      (2 < month → tableError year = 0) := by
  have newYear :
      julianDay year 1 1 = daysBeforeYear year + 1 + 1721425 := by
    have january := CatalogTle.julianDay_eq 1 inRange
      (by decide : 1 ≤ 1 ∧ 1 ≤ 12)
    rwa [daysBeforeMonth_one, Nat.cast_zero, Int.add_zero] at january
  unfold GregorianDate.jd julianDate
  rw [newYear, finds.julianDay_eq inRange]
  constructor
  · intro same inSpring
    rw [if_pos inSpring] at same
    push_cast at same
    have noError : (tableError year : Rat) = 0 := by linarith
    exact_mod_cast noError
  · intro right
    have noError : (if 2 < month then tableError year else 0) = 0 := by
      split_ifs with inSpring
      · exact right inSpring
      · rfl
    rw [noError]
    push_cast
    ring

/--
For a day of a Gregorian year `DurData` finds a month and the date of that day
exactly if the table knows whether the year is a leap year, or the day is one
of the first 59.
-/
theorem countsDay_iff
    {year ns : Int}
    (from1583 : 1583 ≤ year)
    (first : 1 ≤ ns)
    (last : ns ≤ yearDays year) :
    CountsDay year ns ↔
      year % 100 ≠ 0 ∨ (year % 1000 = 0 ∧ year % 400 ≠ 0) ∨ ns ≤ 59 := by
  rw [← or_assoc, ← tableError_eq_zero_iff, CountsDay,
    durData_dayOfYear first last]
  constructor
  · rintro ⟨date, isDate, -, dayExists, jd⟩
    obtain ⟨month, found, rfl⟩ := Option.map_eq_some_iff.mp isDate
    have finds := findsMonth_of_durMonth found
    have noError := (finds.jd_eq_iff (by omega)).mp jd
    by_contra neither
    obtain ⟨isWrong, late⟩ := not_or.mp neither
    have winter : month ≤ 2 := not_lt.mp fun inSpring =>
      isWrong (noError inSpring)
    exact finds.not_february isWrong (by omega) winter dayExists.2
  · intro right
    have isMonth : ∃ month, durMonth year ns = some month := by
      rcases right with noError | early
      · refine exists_durMonth (by decide : 1 ≤ 12 ∧ 12 ≤ 12) ?_
        rw [wychKd_eq year (by decide), daysBeforeMonth_thirteen, noError]
        simpa using last
      · refine exists_durMonth (by decide : 1 ≤ 2 ∧ 2 ≤ 12) ?_
        rw [wychKd_two]
        split_ifs <;> omega
    obtain ⟨month, found⟩ := isMonth
    have finds := findsMonth_of_durMonth found
    rw [found]
    refine ⟨_, rfl, finds.isMonth, finds.dayOfMonth_bounds first right, ?_⟩
    refine (finds.jd_eq_iff (by omega)).mpr fun inSpring => ?_
    rcases right with noError | early
    · exact noError
    · exact absurd (finds.month_le_two early) (by omega)

/-- The last day of the leap year 2016. -/
theorem countsDay_iff_2016 : CountsDay 2016 366 :=
  (countsDay_iff (by decide) (by decide) (by decide)).mpr (.inl (by decide))

/-- The last day of 2000 is in no month of the table. -/
theorem leapCentury_not_countsDay :
    ¬ ∀ year ns : Int, 1583 ≤ year → year ≤ 32767 → 1 ≤ ns →
      ns ≤ yearDays year → CountsDay year ns := by
  intro claim
  obtain ⟨date, isDate, -⟩ :=
    claim 2000 366 (by decide) (by decide) (by decide) (by decide)
  have noDate : durData 2000 366 0 = none := by decide
  rw [noDate] at isDate
  cases isDate

end Radar.CatalogTle
