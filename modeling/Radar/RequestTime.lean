import Radar.JulianDate

namespace Radar.Server

/-!
# The time of a request

`Server::process_request` makes a Julian date from the fields of the request's
time, and the minutes between the epoch of a satellite and that date.  The
seconds are added to the hours as if they were minutes.
-/

open Gregorian
open CatalogTle (julianDate julianDate_date)

/-- A date and time of day: years from 1900, months from 0. -/
structure Tm where
  tmYear : Int
  tmMon : Nat
  tmMday : Nat
  tmHour : Nat
  tmMin : Nat
  tmSec : Nat
  deriving Repr, DecidableEq

/-- `gmtime`, for seconds since the start of 1970. -/
def gmtime (seconds : Nat) : Tm :=
  let date := Date.next^[seconds / 86400] (.newYear 1970)
  { tmYear := date.year - 1900
    tmMon := date.month - 1
    tmMday := date.day
    tmHour := seconds % 86400 / 3600
    tmMin := seconds % 3600 / 60
    tmSec := seconds % 60 }

/-- The reference time of a request, in days. -/
def refTime (time : Nat) : Rat :=
  let satDate := gmtime time
  julianDate (satDate.tmYear + 1900) ((satDate.tmMon : Int) + 1)
    satDate.tmMday
    (satDate.tmHour + satDate.tmMin / 60 + satDate.tmSec / 60)

/-- Minutes from the epoch of a satellite to the time of a request. -/
def elapcedTime (time : Nat) (jd : Rat) : Rat :=
  (refTime time - jd) * 24 * 60

/-- The start of 1970 has the Julian date 2440587.5. -/
theorem dayNumber_newYear1970 : (Date.newYear 1970).dayNumber = 719163 := by
  decide +kernel

/-- A time is made of days, hours, minutes and seconds. -/
theorem time_eq (time : Nat) :
    time = time / 86400 * 86400 + time % 86400 / 3600 * 3600 +
      time % 3600 / 60 * 60 + time % 60 := by
  omega

/-- Every second of the minute counts as a minute. -/
theorem refTime_eq (time : Nat) :
    refTime time = 2440587.5 + (time + 59 * (time % 60 : Nat)) / 86400 := by
  have later : -4799 ≤ (Date.next^[time / 86400] (.newYear 1970)).year :=
    (by decide : (-4799 : Int) ≤ (Date.newYear 1970).year).trans
      (Date.year_le_iterate _ _)
  have number :
      (Date.next^[time / 86400] (.newYear 1970)).dayNumber =
        719163 + (time / 86400 : Nat) := by
    rw [Date.dayNumber_iterate, dayNumber_newYear1970]
  unfold refTime gmtime
  dsimp only
  generalize Date.next^[time / 86400] (.newYear 1970) = date at later number
  have month : ((date.month - 1 : Nat) : Int) + 1 = date.month := by
    have := date.isMonth
    omega
  have parts : (time : Rat) =
      (time / 86400 : Nat) * 86400 + (time % 86400 / 3600 : Nat) * 3600 +
        (time % 3600 / 60 : Nat) * 60 + (time % 60 : Nat) := by
    exact_mod_cast time_eq time
  rw [Int.sub_add_cancel, month, julianDate_date date _ later, number, parts]
  generalize time / 86400 = days
  push_cast
  ring

/-- The reference time is right at whole minutes. -/
theorem refTime_eq_iff (time : Nat) :
    refTime time = 2440587.5 + (time : Rat) / 86400 ↔ time % 60 = 0 := by
  rw [refTime_eq, add_right_inj, div_left_inj' (by norm_num)]
  constructor
  · intro same
    have zero : ((time % 60 : Nat) : Rat) = 0 := by linarith
    exact_mod_cast zero
  · intro zero
    simp [zero]

/-- Differences of times are right at the same second of a minute. -/
theorem elapcedTime_sub_iff (time later : Nat) (jd : Rat) :
    elapcedTime later jd - elapcedTime time jd =
        ((later : Rat) - time) / 60 ↔
      later % 60 = time % 60 := by
  rw [elapcedTime, elapcedTime, refTime_eq, refTime_eq]
  constructor
  · intro same
    have sameSecond : ((later % 60 : Nat) : Rat) = (time % 60 : Nat) := by
      linarith
    exact_mod_cast sameSecond
  · intro sameSecond
    rw [sameSecond]
    ring

/-- Reference times in their order. -/
theorem refTime_lt_iff (time later : Nat) :
    refTime time < refTime later ↔
      time + 59 * (time % 60) < later + 59 * (later % 60) := by
  rw [refTime_eq, refTime_eq, add_lt_add_iff_left,
    div_lt_div_iff_of_pos_right (by norm_num)]
  exact_mod_cast Iff.rfl

/--
The reference time is the Julian date of the request exactly at whole minutes.
The minutes between two requests are right exactly if both have the same
second of the minute, and a later request has a later reference time exactly
if the seconds, counted as minutes, keep the order.
-/
theorem refTime_countsTime_iff (time later : Nat) (jd : Rat) :
    (refTime time = 2440587.5 + (time : Rat) / 86400 ↔ time % 60 = 0) ∧
      (elapcedTime later jd - elapcedTime time jd =
          ((later : Rat) - time) / 60 ↔
        later % 60 = time % 60) ∧
      (refTime time < refTime later ↔
        time + 59 * (time % 60) < later + 59 * (later % 60)) :=
  ⟨refTime_eq_iff time, elapcedTime_sub_iff time later jd,
    refTime_lt_iff time later⟩

/-- The last second of a minute counts as an hour less a minute. -/
theorem lastSecond_not_countsTime :
    ¬ ((∀ time : Nat,
        refTime time = 2440587.5 + (time : Rat) / 86400) ∧
      ∀ time later : Nat, time < later → refTime time < refTime later) := by
  rintro ⟨-, increases⟩
  have before := increases 59 60 (by decide)
  rw [refTime_lt_iff] at before
  exact absurd before (by decide)

end Radar.Server
