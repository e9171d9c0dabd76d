import Mathlib.Analysis.SpecialFunctions.Pow.Real
import Radar.SphericalCoordinates

namespace Radar

/-!
# Positions and velocities from orbital elements

The class `NoradBase`: from the elements of a moment to coordinates in the
inertial system, and from there to the system that turns with the Earth.  The
numbers are real numbers.
-/

open Real

/-! ## Constants -/

namespace TleConst

noncomputable def pi : ℝ := 3.141592653589793

noncomputable def twopi : ℝ := 2.0 * pi

noncomputable def eccAll : ℝ := 1.0e-4

noncomputable def eccEps : ℝ := 1.0e-6

noncomputable def eccLimitLow : ℝ := -1.0e-3

noncomputable def eccLimitHigh : ℝ := 1 - eccEps

noncomputable def epsCosio : ℝ := 1.5e-12

noncomputable def nrEps : ℝ := 1.0e-12

noncomputable def tothrd : ℝ := 2.0 / 3.0

noncomputable def ae : ℝ := 1

noncomputable def xkmperWgs72 : ℝ := 6378.135

noncomputable def j2 : ℝ := 1.0826158e-3

noncomputable def j3 : ℝ := -2.53881e-6

noncomputable def j4 : ℝ := -1.65597e-6

noncomputable def ck2 : ℝ := j2 / 2.0

noncomputable def ck4 : ℝ := -3.0 * j4 / 8.0

noncomputable def xj3 : ℝ := j3

noncomputable def s : ℝ := ae + 78.0 / xkmperWgs72

noncomputable def minPerDay : ℝ := 1440.0

noncomputable def secPerDay : ℝ := 86400.0

noncomputable def omegaE : ℝ := 1.00273790934

noncomputable def xke : ℝ := 7.43669161331734132e-2

noncomputable def qoms2t : ℝ := 1.880279159015270643865e-9

/-- Radii of the Earth in metres. -/
noncomputable def radiusAe : ℝ := 1000.0 * xkmperWgs72 / ae

/-- Radii of the Earth a minute in metres a second. -/
noncomputable def speedAe : ℝ := radiusAe * minPerDay / secPerDay

/-- The rotation of the Earth in radians a second. -/
noncomputable def rotSpeed : ℝ := twopi * omegaE / secPerDay

end TleConst

/-! ## Vectors -/

/-- `tVECT3` -/
structure TVect3 (K : Type) where
  x : K
  y : K
  z : K

namespace TVect3

variable {K : Type} [CommRing K]

/-- Turn a vector around an axis, given the cosine and the sine. -/
def turn (na : Nat) (ca sa : K) (vector : TVect3 K) : TVect3 K :=
  match na with
  | 1 =>
      { vector with
        y := ca * vector.y - sa * vector.z
        z := ca * vector.z + sa * vector.y }
  | 2 =>
      { vector with
        z := ca * vector.z - sa * vector.x
        x := ca * vector.x + sa * vector.z }
  | 3 =>
      { vector with
        x := ca * vector.x - sa * vector.y
        y := ca * vector.y + sa * vector.x }
  | _ => vector

def scal (first second : TVect3 K) : K :=
  first.x * second.x + first.y * second.y + first.z * second.z

/-- Turning around the third axis keeps products. -/
theorem scal_turn
    {ca sa : K}
    (unit : ca ^ 2 + sa ^ 2 = 1)
    (first second : TVect3 K) :
    (first.turn 3 ca sa).scal (second.turn 3 ca sa) = first.scal second := by
  simp only [turn, scal]
  linear_combination
    (first.x * second.x + first.y * second.y) * unit

end TVect3

/-! ## Remainders -/

/-- The whole part of a number, towards zero. -/
noncomputable def truncate (number : ℝ) : ℤ :=
  if 0 ≤ number then ⌊number⌋ else ⌈number⌉

/-- `fmod` -/
noncomputable def fmod (number divisor : ℝ) : ℝ :=
  number - divisor * truncate (number / divisor)

theorem abs_sub_truncate_lt (number : ℝ) :
    |number - truncate number| < 1 := by
  rw [truncate]
  split_ifs with notNegative
  · rw [Int.self_sub_floor, abs_of_nonneg (Int.fract_nonneg number)]
    exact Int.fract_lt_one number
  · have above := Int.le_ceil number
    have below := Int.ceil_lt_add_one number
    rw [abs_lt]
    constructor <;> linarith

/-- The remainder is smaller than the divisor. -/
theorem abs_fmod_lt {divisor : ℝ} (positive : 0 < divisor) (number : ℝ) :
    |fmod number divisor| < divisor := by
  have scaled :
      fmod number divisor =
        divisor * (number / divisor - truncate (number / divisor)) := by
    rw [fmod, mul_sub, mul_div_cancel₀ number positive.ne']
  rw [scaled, abs_mul, abs_of_pos positive]
  exact
    mul_lt_of_lt_one_right positive (abs_sub_truncate_lt (number / divisor))

/-! ## The class -/

namespace NoradBase

/-- The coordinate systems of results: inertial, or turning with the Earth. -/
inductive CSType where
  | eci
  | gsc
  deriving DecidableEq, Repr

/-- `kep_t` -/
structure Kep where
  theta : ℝ
  ascn : ℝ
  eqinc : ℝ
  radius : ℝ
  rdotk : ℝ
  rfdotk : ℝ
  tsinse : ℝ
  cs : CSType

/-- The angle of the rotation of the Earth at a Julian date. -/
noncomputable def thetaJD (jd : ℝ) : ℝ :=
  let ut := fmod (jd + 0.5) 1
  let tCen := (jd - ut - 2451545.0) / 36525.0
  let gmst :=
    24110.54841 +
      tCen * (8640184.812866 + tCen * (0.093104 - tCen * 6.2e-6))
  let gmst :=
    fmod (gmst + TleConst.secPerDay * TleConst.omegaE * ut)
      TleConst.secPerDay
  let gmst := if gmst < 0 then gmst + TleConst.secPerDay else gmst
  TleConst.twopi * gmst / TleConst.secPerDay

/-- The unit vector to a satellite. -/
noncomputable def upward (kep : Kep) : TVect3 ℝ where
  x :=
    -sin kep.ascn * cos kep.eqinc * sin kep.theta +
      cos kep.ascn * cos kep.theta
  y :=
    cos kep.ascn * cos kep.eqinc * sin kep.theta +
      sin kep.ascn * cos kep.theta
  z := sin kep.eqinc * sin kep.theta

/-- The unit vector across it, in the orbital plane. -/
noncomputable def forward (kep : Kep) : TVect3 ℝ where
  x :=
    -sin kep.ascn * cos kep.eqinc * cos kep.theta -
      cos kep.ascn * sin kep.theta
  y :=
    cos kep.ascn * cos kep.eqinc * cos kep.theta -
      sin kep.ascn * sin kep.theta
  z := sin kep.eqinc * cos kep.theta

/-- `_kep2xyz` -/
noncomputable def kep2xyz (jd : ℝ) (kep : Kep) : TVect3 ℝ × TVect3 ℝ :=
  let u := upward kep
  let v := forward kep
  let v0 : TVect3 ℝ :=
    { x := kep.radius * u.x
      y := kep.radius * u.y
      z := kep.radius * u.z }
  let v1 : TVect3 ℝ :=
    { x := kep.rfdotk * v.x + kep.rdotk * u.x
      y := kep.rfdotk * v.y + kep.rdotk * u.y
      z := kep.rfdotk * v.z + kep.rdotk * u.z }
  match kep.cs with
  | .eci => (v0, v1)
  | .gsc =>
      let rxUTy := √(v0.x * v0.x + v0.y * v0.y) * TleConst.rotSpeed
      let theta := Spherical.atan2 v0.y v0.x
      let v1 : TVect3 ℝ :=
        { v1 with
          x := v1.x + rxUTy * sin theta
          y := v1.y - rxUTy * cos theta }
      let rot := thetaJD (jd + kep.tsinse / TleConst.minPerDay)
      (v0.turn 3 (cos rot) (sin (-rot)), v1.turn 3 (cos rot) (sin (-rot)))

/-! ## Unit vectors -/

theorem scal_upward_self (kep : Kep) : (upward kep).scal (upward kep) = 1 := by
  simp only [upward, TVect3.scal]
  linear_combination
    (cos kep.eqinc ^ 2 * sin kep.theta ^ 2 + cos kep.theta ^ 2) *
        sin_sq_add_cos_sq kep.ascn +
      sin kep.theta ^ 2 * sin_sq_add_cos_sq kep.eqinc +
      sin_sq_add_cos_sq kep.theta

theorem scal_forward_self (kep : Kep) :
    (forward kep).scal (forward kep) = 1 := by
  simp only [forward, TVect3.scal]
  linear_combination
    (cos kep.eqinc ^ 2 * cos kep.theta ^ 2 + sin kep.theta ^ 2) *
        sin_sq_add_cos_sq kep.ascn +
      cos kep.theta ^ 2 * sin_sq_add_cos_sq kep.eqinc +
      sin_sq_add_cos_sq kep.theta

theorem scal_upward_forward (kep : Kep) :
    (upward kep).scal (forward kep) = 0 := by
  simp only [upward, forward, TVect3.scal]
  linear_combination
    (sin kep.theta * cos kep.theta) *
      ((cos kep.eqinc ^ 2 - 1) * sin_sq_add_cos_sq kep.ascn +
        sin_sq_add_cos_sq kep.eqinc)

/-! ## The state in the inertial system -/

/-- The position has the radius, and the velocity the radial part. -/
theorem kep2xyz_eci (jd : ℝ) (kep : Kep) :
    let state := kep2xyz jd { kep with cs := .eci }
    state.1.scal state.1 = kep.radius ^ 2 ∧
      state.1.scal state.2 = kep.radius * kep.rdotk ∧
      state.2.scal state.2 = kep.rdotk ^ 2 + kep.rfdotk ^ 2 := by
  have unit := scal_upward_self { kep with cs := .eci }
  have acrossUnit := scal_forward_self { kep with cs := .eci }
  have right := scal_upward_forward { kep with cs := .eci }
  simp only [TVect3.scal] at unit acrossUnit right
  simp only [kep2xyz, TVect3.scal]
  refine ⟨?_, ?_, ?_⟩
  · linear_combination kep.radius ^ 2 * unit
  · linear_combination
      kep.radius * kep.rdotk * unit + kep.radius * kep.rfdotk * right
  · linear_combination
      kep.rdotk ^ 2 * unit + kep.rfdotk ^ 2 * acrossUnit +
        2 * kep.rdotk * kep.rfdotk * right

/-! ## The rotation of the Earth -/

/-- The angle of rotation is less than a turn. -/
theorem thetaJD_mem (jd : ℝ) :
    0 ≤ thetaJD jd ∧ thetaJD jd < TleConst.twopi := by
  have dayPos : 0 < TleConst.secPerDay := by norm_num [TleConst.secPerDay]
  have turnPos : 0 < TleConst.twopi := by
    norm_num [TleConst.twopi, TleConst.pi]
  have wrapped :
      ∀ number,
        let gmst := fmod number TleConst.secPerDay
        let gmst := if gmst < 0 then gmst + TleConst.secPerDay else gmst
        0 ≤ gmst ∧ gmst < TleConst.secPerDay := by
    intro number gmst
    have small := abs_lt.mp (abs_fmod_lt dayPos number)
    by_cases negative : gmst < 0
    · simp only [negative, if_true]
      constructor <;> linarith [small.1]
    · simp only [negative, if_false]
      exact ⟨not_lt.mp negative, small.2⟩
  unfold thetaJD
  obtain ⟨notNegative, small⟩ := wrapped _
  refine ⟨div_nonneg (mul_nonneg turnPos.le notNegative) dayPos.le, ?_⟩
  rw [div_lt_iff₀ dayPos]
  exact mul_lt_mul_of_pos_left small turnPos

/-- Sidereal seconds at the midnight at the beginning of a Julian day. -/
noncomputable def gmstAt (day : ℝ) : ℝ :=
  let tCen := (day - 0.5 - 2451545.0) / 36525.0
  24110.54841 + tCen * (8640184.812866 + tCen * (0.093104 - tCen * 6.2e-6))

/-- Wrapping sidereal seconds leaves full turns out. -/
theorem wrap_eq (number : ℝ) :
    ∃ turns : ℤ,
      (let gmst := fmod number TleConst.secPerDay
        let gmst := if gmst < 0 then gmst + TleConst.secPerDay else gmst
        TleConst.twopi * gmst / TleConst.secPerDay) =
        TleConst.twopi / TleConst.secPerDay * number -
          TleConst.twopi * turns := by
  have dayPos : TleConst.secPerDay ≠ 0 := by norm_num [TleConst.secPerDay]
  dsimp only
  split_ifs with negative
  · refine ⟨truncate (number / TleConst.secPerDay) - 1, ?_⟩
    rw [fmod]
    generalize truncate (number / TleConst.secPerDay) = turns
    push_cast
    field_simp
    ring
  · refine ⟨truncate (number / TleConst.secPerDay), ?_⟩
    rw [fmod]
    generalize truncate (number / TleConst.secPerDay) = turns
    field_simp

/-- The angle of a moment of a day, less full turns. -/
theorem thetaJD_eq
    {jd : ℝ}
    (notNegative : 0 ≤ jd + 0.5) :
    ∃ turns : ℤ,
      thetaJD jd =
        TleConst.twopi / TleConst.secPerDay *
            (gmstAt ⌊jd + 0.5⌋ +
              TleConst.secPerDay * TleConst.omegaE *
                (jd + 0.5 - ⌊jd + 0.5⌋)) -
          TleConst.twopi * turns := by
  have ut : fmod (jd + 0.5) 1 = jd + 0.5 - ⌊jd + 0.5⌋ := by
    rw [fmod, truncate, div_one, if_pos notNegative, one_mul]
  have midnight :
      jd - (jd + 0.5 - (⌊jd + 0.5⌋ : ℝ)) = ⌊jd + 0.5⌋ - 0.5 := by
    ring
  unfold thetaJD
  dsimp only
  rw [ut, midnight]
  exact wrap_eq _

/-- In a century sidereal time gains nearly the same time every day. -/
theorem gmstAt_near
    {days : ℝ}
    (century : |days| ≤ 36526) :
    |gmstAt (2451545 + days) - gmstAt 2451545 -
        TleConst.secPerDay * (TleConst.omegaE - 1) * days| ≤
      0.13 := by
  obtain ⟨before, after⟩ := abs_le.mp century
  have moment :
      ((2451545 + days - 0.5 - 2451545.0) / 36525.0 : ℝ) =
        (days - 0.5) / 36525 := by
    norm_num
    ring
  have noon : ((2451545 - 0.5 - 2451545.0) / 36525.0 : ℝ) = -1 / 73050 := by
    norm_num
  unfold gmstAt TleConst.secPerDay TleConst.omegaE
  dsimp only
  rw [moment, noon]
  obtain ⟨tCen, isTCen⟩ : ∃ tCen, tCen = (days - 0.5) / 36525 := ⟨_, rfl⟩
  have daysEq : days = 36525 * tCen + 0.5 := by
    rw [isTCen]
    ring
  rw [← isTCen]
  have lower : -1.0001 ≤ tCen := by linarith
  have upper : tCen ≤ 1.0001 := by linarith
  have square : tCen ^ 2 ≤ 1.0003 := by nlinarith
  have cube : |tCen ^ 3| ≤ 1.001 := by
    have magnitude : |tCen| ≤ 1.0001 := abs_le.mpr ⟨by linarith, upper⟩
    rw [abs_pow]
    calc
      |tCen| ^ 3 ≤ 1.0001 ^ 3 := by gcongr
      _ ≤ 1.001 := by norm_num
  obtain ⟨cubeLower, cubeUpper⟩ := abs_le.mp cube
  have squareNonneg := sq_nonneg tCen
  rw [daysEq, abs_le]
  norm_num at *
  constructor <;> ring_nf <;> linarith

/--
For a century before and after noon of January 1, 2000 the Earth turns evenly,
up to a hundred-thousandth of a radian.
-/
theorem thetaJD_near
    {jd : ℝ}
    (century : |jd - 2451545| ≤ 36525) :
    ∃ turns : ℤ,
      |thetaJD jd -
          (thetaJD 2451545 +
            TleConst.rotSpeed * (TleConst.secPerDay * (jd - 2451545)) -
            TleConst.twopi * turns)| ≤
        1e-5 := by
  obtain ⟨before, after⟩ := abs_le.mp century
  obtain ⟨turns, angle⟩ := @thetaJD_eq jd (by linarith)
  obtain ⟨noonTurns, noonAngle⟩ := @thetaJD_eq 2451545 (by norm_num)
  have noon : ⌊(2451545 : ℝ) + 0.5⌋ = 2451545 := by
    rw [Int.floor_eq_iff]
    norm_num
  rw [noon] at noonAngle
  have below := Int.floor_le (jd + 0.5)
  have above := Int.lt_floor_add_one (jd + 0.5)
  obtain ⟨days, number⟩ : ∃ days : ℤ, ⌊jd + 0.5⌋ = 2451545 + days :=
    ⟨⌊jd + 0.5⌋ - 2451545, by ring⟩
  rw [number] at angle below above
  push_cast at angle below above noonAngle
  have inCentury : |(days : ℝ)| ≤ 36526 := by
    rw [abs_le]
    constructor <;> norm_num at * <;> linarith
  have gains := gmstAt_near inCentury
  refine ⟨turns - noonTurns + days, ?_⟩
  have error :
      thetaJD jd -
          (thetaJD 2451545 +
            TleConst.rotSpeed * (TleConst.secPerDay * (jd - 2451545)) -
            TleConst.twopi * ((turns - noonTurns + days : ℤ) : ℝ)) =
        TleConst.twopi / TleConst.secPerDay *
          (gmstAt (2451545 + days) - gmstAt 2451545 -
            TleConst.secPerDay * (TleConst.omegaE - 1) * days) := by
    have dayPos : TleConst.secPerDay ≠ 0 := by norm_num [TleConst.secPerDay]
    rw [angle, noonAngle, TleConst.rotSpeed]
    push_cast
    field_simp
    ring
  rw [error, abs_mul]
  calc
    |TleConst.twopi / TleConst.secPerDay| * _
      ≤ |TleConst.twopi / TleConst.secPerDay| * 0.13 :=
        mul_le_mul_of_nonneg_left gains (abs_nonneg _)
    _ ≤ 1e-5 := by
        norm_num [TleConst.twopi, TleConst.secPerDay, TleConst.pi, abs_of_pos]

/-! ## The state in the system of the Earth -/

/-- The velocity that the rotation of the Earth gives to a position. -/
noncomputable def drift (position : TVect3 ℝ) : TVect3 ℝ where
  x := -(TleConst.rotSpeed * position.y)
  y := TleConst.rotSpeed * position.x
  z := 0

/-- The vector seen from the Earth, which has turned by an angle. -/
noncomputable def seenAfter (rot : ℝ) (vector : TVect3 ℝ) : TVect3 ℝ :=
  vector.turn 3 (cos rot) (sin (-rot))

theorem scal_seenAfter (rot : ℝ) (first second : TVect3 ℝ) :
    (seenAfter rot first).scal (seenAfter rot second) =
      first.scal second := by
  refine TVect3.scal_turn ?_ first second
  rw [sin_neg, neg_sq]
  exact cos_sq_add_sin_sq rot

/-- The state in one system, from that in the other one. -/
theorem kep2xyz_gsc
    (jd : ℝ)
    (kep : Kep) :
    let inertial := kep2xyz jd { kep with cs := .eci }
    let rot := thetaJD (jd + kep.tsinse / TleConst.minPerDay)
    kep2xyz jd { kep with cs := .gsc } =
      (seenAfter rot inertial.1,
        seenAfter rot
          { x := inertial.2.x - (drift inertial.1).x
            y := inertial.2.y - (drift inertial.1).y
            z := inertial.2.z - (drift inertial.1).z }) := by
  intro inertial rot
  have west :
      √(inertial.1.x * inertial.1.x + inertial.1.y * inertial.1.y) *
          TleConst.rotSpeed *
          sin (Spherical.atan2 inertial.1.y inertial.1.x) =
        TleConst.rotSpeed * inertial.1.y := by
    rw [mul_right_comm, Spherical.sqrt_mul_sin_atan2, mul_comm]
  have east :
      √(inertial.1.x * inertial.1.x + inertial.1.y * inertial.1.y) *
          TleConst.rotSpeed *
          cos (Spherical.atan2 inertial.1.y inertial.1.x) =
        TleConst.rotSpeed * inertial.1.x := by
    rw [mul_right_comm, Spherical.sqrt_mul_cos_atan2, mul_comm]
  refine Prod.ext rfl (congrArg (seenAfter rot) ?_)
  rw [drift]
  dsimp only
  rw [← west, ← east, sub_neg_eq_add, sub_zero]
  rfl

/-- The distance from the centre of the Earth, in both systems. -/
theorem scal_kep2xyz_self (jd : ℝ) (kep : Kep) :
    (kep2xyz jd kep).1.scal (kep2xyz jd kep).1 = kep.radius ^ 2 := by
  have distance := (kep2xyz_eci jd kep).1
  cases system : kep.cs with
  | eci =>
      have same : { kep with cs := .eci } = kep := by rw [← system]
      rwa [same] at distance
  | gsc =>
      have same : { kep with cs := .gsc } = kep := by rw [← system]
      have turned := kep2xyz_gsc jd kep
      rw [same] at turned
      rw [turned, scal_seenAfter]
      exact distance

/--
The state in the system of the Earth is the inertial one, less the velocity of
the rotation, as it is seen after the Earth has turned by the angle of the
moment.  The Earth turns evenly at the speed that is taken off.  Distance and
radial velocity are those of the elements in both systems.
-/
theorem kep2xyz_turnsWithEarth (jd : ℝ) (kep : Kep) :
    let inertial := kep2xyz jd { kep with cs := .eci }
    let fixed := kep2xyz jd { kep with cs := .gsc }
    let moment := jd + kep.tsinse / TleConst.minPerDay
    (fixed.1 = seenAfter (thetaJD moment) inertial.1 ∧
        fixed.2 =
          seenAfter (thetaJD moment)
            { x := inertial.2.x - (drift inertial.1).x
              y := inertial.2.y - (drift inertial.1).y
              z := inertial.2.z - (drift inertial.1).z }) ∧
      (0 ≤ thetaJD moment ∧ thetaJD moment < TleConst.twopi) ∧
      (|moment - 2451545| ≤ 36525 →
        ∃ turns : ℤ,
          |thetaJD moment -
              (thetaJD 2451545 +
                TleConst.rotSpeed *
                  (TleConst.secPerDay * (moment - 2451545)) -
                TleConst.twopi * turns)| ≤
            1e-5) ∧
      fixed.1.scal fixed.1 = kep.radius ^ 2 ∧
      fixed.1.scal fixed.2 = kep.radius * kep.rdotk := by
  intro inertial fixed moment
  have radial := (kep2xyz_eci jd kep).2.1
  have isFixed : fixed = _ := kep2xyz_gsc jd kep
  refine ⟨⟨?_, ?_⟩, thetaJD_mem moment, thetaJD_near, ?_, ?_⟩
  · rw [isFixed]
  · rw [isFixed]
  · exact scal_kep2xyz_self jd { kep with cs := .gsc }
  · rw [isFixed, scal_seenAfter, ← radial]
    simp only [TVect3.scal, drift]
    ring

end NoradBase

end Radar
