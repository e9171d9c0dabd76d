import Radar.KeplerEquation
import Radar.NoradBase

namespace Radar

/-!
# Positions of near and of circular orbits

The classes `NoradSGDP4`, `NoradSGP4` and `NoradCircl`: what an object computes
once for its satellite, and the position at a time.  A position is found by
solving the equation of Kepler in at most ten passes of a loop.  The numbers
are real numbers.
-/

open Real

/-! ## Satellites -/

/-- The elements of an orbit that the models read, with those recovered. -/
structure KEO where
  jd : ℝ
  inclination : ℝ
  eccentricity : ℝ
  raan : ℝ
  argPerigee : ℝ
  bStar : ℝ
  meanAnomaly : ℝ
  meanMotionR : ℝ
  semiMajorR : ℝ
  perigeeR : ℝ

/-- Why there is no position, as the warnings say. -/
inductive PredictionWarning where
  | smallA
  | smallE
  | bigE
  deriving DecidableEq, Repr

/-- The models of near space. -/
inductive NearMode where
  | simp
  | norm
  deriving DecidableEq, Repr

noncomputable def pow4 (a : ℝ) : ℝ :=
  (a * a) * (a * a)

/-- What an object computes once, for all models. -/
structure NoradSGDP4 where
  keo : KEO
  betao2 : ℝ
  s4 : ℝ
  tsi : ℝ
  eta : ℝ
  eeta : ℝ
  coef : ℝ
  coef1 : ℝ
  c1 : ℝ
  c4 : ℝ
  a3ovk2 : ℝ
  xmdot : ℝ
  omgdot : ℝ
  xnodot : ℝ
  xnodcf : ℝ
  t2cof : ℝ
  cosio : ℝ
  sinio : ℝ
  xlcof : ℝ
  aycof : ℝ
  x3thm1 : ℝ
  x1mth2 : ℝ
  x7thm1 : ℝ

/-- The data from which a position is computed. -/
structure CalcData where
  tsince : ℝ
  xmp : ℝ
  xnode : ℝ
  omega : ℝ
  xinc : ℝ
  sinio : ℝ
  cosio : ℝ
  a : ℝ
  e : ℝ
  xl : ℝ
  cs : NoradBase.CSType

namespace NoradSGDP4

/-! ## The constructor -/

/-- Parameters of the atmosphere, which are changed for a low perigee. -/
noncomputable def atmosphere (perigeeR : ℝ) : ℝ × ℝ :=
  if perigeeR < 156.0 then
    let s4 := if perigeeR ≤ 98.0 then 20.0 else perigeeR - 78.0
    (s4 / TleConst.xkmperWgs72 + TleConst.ae,
      pow4 ((120.0 - s4) * (TleConst.ae / TleConst.xkmperWgs72)))
  else
    (TleConst.s, TleConst.qoms2t)

/-- A divisor that is kept away from zero. -/
noncomputable def awayFromZero (temp0 : ℝ) : ℝ :=
  if |temp0| < TleConst.epsCosio then
    if 0 ≤ temp0 then |TleConst.epsCosio| else -|TleConst.epsCosio|
  else
    temp0

noncomputable def new (keo : KEO) : NoradSGDP4 :=
  let sinio := sin keo.inclination
  let cosio := cos keo.inclination
  let theta2 := cosio * cosio
  let x3thm1 := 3.0 * theta2 - 1
  let eosq := keo.eccentricity * keo.eccentricity
  let betao2 := 1 - eosq
  let betao := √betao2
  let s4 := (atmosphere keo.perigeeR).1
  let qoms24 := (atmosphere keo.perigeeR).2
  let pinvsq := 1 / (keo.semiMajorR * keo.semiMajorR * betao2 * betao2)
  let tsi := 1 / (keo.semiMajorR - s4)
  let eta := keo.semiMajorR * keo.eccentricity * tsi
  let eeta := keo.eccentricity * eta
  let etasq := eta * eta
  let psisq := |1 - etasq|
  let coef := qoms24 * pow4 tsi
  let coef1 := coef / psisq ^ (3.5 : ℝ)
  let c2 :=
    coef1 * keo.meanMotionR *
      (keo.semiMajorR * (1 + 1.5 * etasq + eeta * (4.0 + etasq)) +
        0.75 * TleConst.ck2 * tsi / psisq * x3thm1 *
          (8.0 + 3.0 * etasq * (8.0 + etasq)))
  let c1 := keo.bStar * c2
  let a3ovk2 := -TleConst.xj3 / TleConst.ck2 * TleConst.ae ^ 3
  let x1mth2 := 1 - theta2
  let c4 :=
    2.0 * keo.meanMotionR * coef1 * keo.semiMajorR * betao2 *
      (eta * (2.0 + 0.5 * etasq) + keo.eccentricity * (0.5 + 2.0 * etasq) -
        2.0 * TleConst.ck2 * tsi / (keo.semiMajorR * psisq) *
          (-3.0 * x3thm1 * (1 - 2.0 * eeta + etasq * (1.5 - 0.5 * eeta)) +
            0.75 * x1mth2 * (2.0 * etasq - eeta * (1 + etasq)) *
              cos (2.0 * keo.argPerigee)))
  let theta4 := theta2 * theta2
  let temp1 := 3.0 * TleConst.ck2 * pinvsq * keo.meanMotionR
  let temp2 := temp1 * TleConst.ck2 * pinvsq
  let temp3 := 1.25 * TleConst.ck4 * pinvsq * pinvsq * keo.meanMotionR
  let x1m5th := 1 - 5.0 * theta2
  let xhdot1 := -temp1 * cosio
  { keo := keo
    betao2 := betao2
    s4 := s4
    tsi := tsi
    eta := eta
    eeta := eeta
    coef := coef
    coef1 := coef1
    c1 := c1
    c4 := c4
    a3ovk2 := a3ovk2
    xmdot :=
      keo.meanMotionR + 0.5 * temp1 * betao * x3thm1 +
        0.0625 * temp2 * betao * (13.0 - 78.0 * theta2 + 137.0 * theta4)
    omgdot :=
      -0.5 * temp1 * x1m5th +
        0.0625 * temp2 * (7.0 - 114.0 * theta2 + 395.0 * theta4) +
        temp3 * (3.0 - 36.0 * theta2 + 49.0 * theta4)
    xnodot :=
      xhdot1 +
        (0.5 * temp2 * (4.0 - 19.0 * theta2) + 2.0 * temp3 * (3.0 - 7.0 * theta2)) *
          cosio
    xnodcf := 3.5 * betao2 * xhdot1 * c1
    t2cof := 1.5 * c1
    cosio := cosio
    sinio := sinio
    xlcof :=
      0.125 * a3ovk2 * sinio * (3.0 + 5.0 * cosio) / awayFromZero (1 + cosio)
    aycof := 0.25 * a3ovk2 * sinio
    x3thm1 := x3thm1
    x1mth2 := x1mth2
    x7thm1 := 7.0 * theta2 - 1 }

/-! ## The equation of Kepler -/

/-- The correction of one pass of the loop. -/
noncomputable def correction
    (vector : EccentricityVector)
    (maxnr capu : ℝ)
    (isFirst : Bool)
    (epw : ℝ) : ℝ :=
  let f := vector.residual capu epw
  let df := 1 - vector.along epw
  let nr := f / df
  if isFirst = true ∧ 1.25 * maxnr < |nr| then
    if 0 ≤ nr then |maxnr| else -|maxnr|
  else
    f / (df + 0.5 * vector.across epw * nr)

/--
The last anomaly whose sine and cosine the loop computes, in a pass after which
so many are left.
-/
noncomputable def lastEpw
    (vector : EccentricityVector)
    (maxnr capu : ℝ) : Nat → Bool → ℝ → ℝ
  | 0, _, epw => epw
  | left + 1, isFirst, epw =>
      if |vector.residual capu epw| < TleConst.nrEps then
        epw
      else
        lastEpw vector maxnr capu left false
          (epw + correction vector maxnr capu isFirst epw)

/-- The eccentric anomaly, from the first of ten passes. -/
noncomputable def solveKepler (vector : EccentricityVector) (capu : ℝ) : ℝ :=
  lastEpw vector vector.magnitude capu 9 true capu

variable {vector : EccentricityVector} {capu : ℝ}

/-- On a nearly circular orbit every correction is one of second order. -/
theorem correction_eq
    (nearlyCircular : vector.magnitude ≤ 1 / 5)
    {isFirst : Bool}
    {epw : ℝ}
    (first :
      isFirst = true → |vector.residual capu epw| ≤ vector.magnitude) :
    correction vector vector.magnitude capu isFirst epw =
      vector.secondOrder capu epw := by
  rw [correction]
  refine if_neg ?_
  rintro ⟨isFirst, large⟩
  have small :=
    EccentricityVector.abs_firstOrder_le nearlyCircular capu epw
  rw [EccentricityVector.firstOrder] at small
  have limit := first isFirst
  linarith

/-- Every pass divides the residual by 125, until it is small enough. -/
theorem abs_residual_lastEpw_le
    (nearlyCircular : vector.magnitude ≤ 1 / 5)
    (left : Nat)
    (isFirst : Bool)
    {epw : ℝ}
    (small : |vector.residual capu epw| ≤ 1 / 5)
    (first :
      isFirst = true → |vector.residual capu epw| ≤ vector.magnitude) :
    let last := lastEpw vector vector.magnitude capu left isFirst epw
    |vector.residual capu last| < TleConst.nrEps ∨
      |vector.residual capu last| ≤
        |vector.residual capu epw| / 125 ^ left := by
  induction left generalizing isFirst epw with
  | zero =>
      right
      rw [pow_zero, div_one, lastEpw]
  | succ left inductionHypothesis =>
      rw [lastEpw]
      by_cases solved : |vector.residual capu epw| < TleConst.nrEps
      · rw [if_pos solved]
        exact .inl solved
      · rw [if_neg solved, correction_eq nearlyCircular first]
        have nonnegative := abs_nonneg (vector.residual capu epw)
        have cube :=
          EccentricityVector.abs_residual_add_secondOrder_le nearlyCircular
            small
        have smaller :
            |vector.residual capu (epw + vector.secondOrder capu epw)| ≤
              |vector.residual capu epw| / 125 := by
          have square : |vector.residual capu epw| ^ 2 ≤ (1 / 5) ^ 2 := by
            gcongr
          have product := mul_le_mul_of_nonneg_left square nonnegative
          linarith
        have stillSmall :
            |vector.residual capu (epw + vector.secondOrder capu epw)| ≤
              1 / 5 := by
          linarith
        rcases inductionHypothesis false stillSmall nofun with done | bound
        · exact .inl done
        · refine .inr (bound.trans ?_)
          rw [pow_succ', ← div_div]
          gcongr

/-- Ten passes solve the equation on a nearly circular orbit. -/
theorem abs_residual_solveKepler_lt
    (nearlyCircular : vector.magnitude ≤ 1 / 5)
    (capu : ℝ) :
    |vector.residual capu (solveKepler vector capu)| < TleConst.nrEps := by
  have start : vector.residual capu capu = vector.across capu := by
    rw [EccentricityVector.residual, sub_self, zero_add]
  have startSmall : |vector.residual capu capu| ≤ vector.magnitude := by
    rw [start]
    exact vector.abs_across_le capu
  have passes :=
    abs_residual_lastEpw_le nearlyCircular 9 true
      (startSmall.trans nearlyCircular) fun _ => startSmall
  rcases passes with done | bound
  · exact done
  · refine bound.trans_lt ?_
    have limit := startSmall.trans nearlyCircular
    rw [TleConst.nrEps]
    linarith

/--
The equation of Kepler has one solution.  When the loop stops before its tenth
pass, or the last residual is small, then the anomaly is off by the tolerance
over the distance of the eccentricity from one, and up to an eccentricity of
one fifth this is always so.
-/
theorem solveKepler_near
    (elliptic : vector.magnitude < 1)
    (capu : ℝ) :
    ∃ anomaly,
      (∀ other, vector.residual capu other = 0 ↔ other = anomaly) ∧
        (|vector.residual capu (solveKepler vector capu)| <
            TleConst.nrEps →
          |solveKepler vector capu - anomaly| ≤
            TleConst.nrEps / (1 - vector.magnitude)) ∧
        (vector.magnitude ≤ 1 / 5 →
          |solveKepler vector capu - anomaly| ≤ 5 / 4 * TleConst.nrEps) := by
  obtain ⟨anomaly, solves, unique⟩ :=
    EccentricityVector.existsUnique_residual_eq_zero elliptic capu
  have close :
      |vector.residual capu (solveKepler vector capu)| < TleConst.nrEps →
        |solveKepler vector capu - anomaly| ≤
          TleConst.nrEps / (1 - vector.magnitude) := by
    intro small
    refine
      (EccentricityVector.abs_sub_le_of_residual elliptic solves).trans ?_
    exact
      div_le_div_of_nonneg_right small.le (sub_nonneg.mpr elliptic.le)
  refine ⟨anomaly, ?_, close, ?_⟩
  · intro other
    constructor
    · exact unique other
    · rintro rfl
      exact solves
  · intro nearlyCircular
    refine
      (close (abs_residual_solveKepler_lt nearlyCircular capu)).trans ?_
    have tolerance : 0 < TleConst.nrEps := by norm_num [TleConst.nrEps]
    rw [div_le_iff₀ (sub_pos.mpr elliptic)]
    have product :=
      mul_le_mul_of_nonneg_left nearlyCircular tolerance.le
    linarith

/-- A satellite at a mean argument of 1 rad, on an eccentric orbit. -/
theorem solveKepler_near_oneTenth :
    ∃ anomaly,
      EccentricityVector.residual { x := 1 / 10, y := 0 } 1 anomaly = 0 ∧
        |solveKepler { x := 1 / 10, y := 0 } 1 - anomaly| ≤
          5 / 4 * TleConst.nrEps := by
  have magnitude :
      EccentricityVector.magnitude { x := 1 / 10, y := 0 } = 1 / 10 := by
    rw [EccentricityVector.magnitude, mul_zero, add_zero]
    exact sqrt_mul_self (by norm_num)
  obtain ⟨anomaly, solves, -, near⟩ :=
    solveKepler_near (magnitude.trans_lt (by norm_num)) 1
  exact
    ⟨anomaly, (solves anomaly).mpr rfl,
      near (magnitude.trans_le (by norm_num))⟩

/-! ## Positions -/

/-- The eccentricity within its limits. -/
noncomputable def limitedE (e : ℝ) : ℝ :=
  if e < TleConst.eccEps then
    TleConst.eccEps
  else if TleConst.eccLimitHigh < e then
    TleConst.eccLimitHigh
  else
    e

/-- `_get_position` -/
noncomputable def getPosition
    (object : NoradSGDP4)
    (cd : CalcData) :
    Except PredictionWarning (TVect3 ℝ × TVect3 ℝ) :=
  if cd.a < 1 then
    .error .smallA
  else if cd.e < TleConst.eccLimitLow then
    .error .smallE
  else
    let e := limitedE cd.e
    let beta2 := 1 - e * e
    let temp0 := 1 / (cd.a * beta2)
    let axn := e * cos cd.omega
    let ayn := e * sin cd.omega + temp0 * object.aycof
    let xlt := cd.xl + temp0 * object.xlcof * axn
    let elsq := axn * axn + ayn * ayn
    if 1 ≤ elsq then
      .error .bigE
    else
      let vector : EccentricityVector := { x := axn, y := ayn }
      let capu := fmod (xlt - cd.xnode) TleConst.twopi
      let epw := solveKepler vector capu
      let sinEPW := sin epw
      let cosEPW := cos epw
      let ecosE := axn * cosEPW + ayn * sinEPW
      let esinE := axn * sinEPW - ayn * cosEPW
      let temp0 := 1 - elsq
      let betal := √temp0
      let pl := cd.a * temp0
      let r := cd.a * (1 - ecosE)
      let invR := 1 / r
      let temp2 := cd.a * invR
      let temp3 := 1 / (1 + betal)
      let cosu := temp2 * (cosEPW - axn + ayn * esinE * temp3)
      let sinu := temp2 * (sinEPW - ayn - axn * esinE * temp3)
      let u := Spherical.atan2 sinu cosu
      let sin2u := 2.0 * sinu * cosu
      let cos2u := 2.0 * cosu * cosu - 1
      let temp0 := 1 / pl
      let temp1 := TleConst.ck2 * temp0
      let temp2 := temp1 * temp0
      let rk :=
        r * (1 - 1.5 * temp2 * betal * object.x3thm1) +
          0.5 * temp1 * object.x1mth2 * cos2u
      let uk := u - 0.25 * temp2 * object.x7thm1 * sin2u
      let xnodek := cd.xnode + 1.5 * temp2 * cd.cosio * sin2u
      let xinck := cd.xinc + 1.5 * temp2 * cd.cosio * cd.sinio * cos2u
      if rk < 1 then
        .error .smallA
      else
        let temp0 := √cd.a
        let temp2 := TleConst.xke / (cd.a * temp0)
        .ok
          (NoradBase.kep2xyz object.keo.jd
            { radius := rk * TleConst.radiusAe
              theta := uk
              eqinc := xinck
              ascn := xnodek
              rdotk :=
                (TleConst.xke * temp0 * esinE * invR -
                    temp2 * temp1 * object.x1mth2 * sin2u) *
                  TleConst.speedAe
              rfdotk :=
                (TleConst.xke * √pl * invR +
                    temp2 * temp1 *
                      (object.x1mth2 * cos2u + 1.5 * object.x3thm1)) *
                  TleConst.speedAe
              cs := cd.cs
              tsinse := cd.tsince })

/-- A position that is found is not closer than the radius of the Earth. -/
theorem radiusAe_le_of_getPosition
    {object : NoradSGDP4}
    {cd : CalcData}
    {state : TVect3 ℝ × TVect3 ℝ}
    (found : object.getPosition cd = .ok state) :
    ∃ kep : NoradBase.Kep,
      state = NoradBase.kep2xyz object.keo.jd kep ∧
        TleConst.radiusAe ≤ kep.radius := by
  have radiusPos : 0 ≤ TleConst.radiusAe := by
    norm_num [TleConst.radiusAe, TleConst.xkmperWgs72, TleConst.ae]
  unfold getPosition at found
  dsimp only at found
  split_ifs at found with smallA smallE bigE low
  cases found
  exact ⟨_, rfl, le_mul_of_one_le_left radiusPos (not_lt.mp low)⟩

end NoradSGDP4

/-! ## Near space -/

/-- What an object of near space computes once. -/
structure NoradSGP4 extends NoradSGDP4 where
  mode : NearMode
  c5 : ℝ
  omgcof : ℝ
  xmcof : ℝ
  sinmo : ℝ
  delmo : ℝ
  d2 : ℝ
  d3 : ℝ
  d4 : ℝ
  t3cof : ℝ
  t4cof : ℝ
  t5cof : ℝ

namespace NoradSGP4

noncomputable def new (keo : KEO) (mode : NearMode) : NoradSGP4 :=
  let object := NoradSGDP4.new keo
  let etasq := object.eta * object.eta
  let c3 :=
    if mode = .norm ∧ TleConst.eccAll < keo.eccentricity then
      object.coef * object.tsi * object.a3ovk2 * keo.meanMotionR *
        TleConst.ae * object.sinio / keo.eccentricity
    else
      0
  let c1sq := object.c1 * object.c1
  let d2 := 4.0 * keo.semiMajorR * object.tsi * c1sq
  let temp0 := d2 * object.tsi * object.c1 / 3.0
  let d3 := (17.0 * keo.semiMajorR + object.s4) * temp0
  let d4 :=
    0.5 * temp0 * keo.semiMajorR * object.tsi *
      (221.0 * keo.semiMajorR + 31.0 * object.s4) * object.c1
  { object with
    mode := mode
    c5 :=
      if mode = .norm then
        2.0 * object.coef1 * keo.semiMajorR * object.betao2 *
          (1 + 2.75 * (etasq + object.eeta) + object.eeta * etasq)
      else
        0
    omgcof :=
      if mode = .norm then
        keo.bStar * c3 * cos keo.argPerigee
      else
        0
    xmcof :=
      if TleConst.eccAll < keo.eccentricity then
        -TleConst.tothrd * object.coef * keo.bStar * TleConst.ae /
          object.eeta
      else
        0
    sinmo := sin keo.meanAnomaly
    delmo := (1 + object.eta * cos keo.meanAnomaly) ^ 3
    d2 := d2
    d3 := d3
    d4 := d4
    t3cof := d2 + 2.0 * c1sq
    t4cof := 0.25 * (3.0 * d3 + object.c1 * (12.0 * d2 + 10.0 * c1sq))
    t5cof :=
      0.2 *
        (3.0 * d4 + 12.0 * object.c1 * d3 + 6.0 * d2 * d2 +
          15.0 * c1sq * (2.0 * d2 + c1sq)) }

/-- The data for the position after so many minutes. -/
noncomputable def calcData
    (object : NoradSGP4)
    (tsince : ℝ)
    (cs : NoradBase.CSType) :
    CalcData :=
  let keo := object.keo
  let xmp := keo.meanAnomaly + object.xmdot * tsince
  let xnode := keo.raan + tsince * (object.xnodot + tsince * object.xnodcf)
  let omega := keo.argPerigee + object.omgdot * tsince
  let build (xmp omega tempa tempe templ : ℝ) : CalcData :=
    { tsince := tsince
      xmp := xmp
      xnode := xnode
      omega := omega
      xinc := keo.inclination
      sinio := object.sinio
      cosio := object.cosio
      a := keo.semiMajorR * tempa * tempa
      e := keo.eccentricity - tempe
      xl := xmp + omega + xnode + keo.meanMotionR * templ
      cs := cs }
  match object.mode with
  | .simp =>
      build xmp omega (1 - tsince * object.c1)
        (keo.bStar * tsince * object.c4) (tsince * tsince * object.t2cof)
  | .norm =>
      let delm :=
        object.xmcof * ((1 + object.eta * cos xmp) ^ 3 - object.delmo)
      let temp0 := tsince * object.omgcof + delm
      let xmp := xmp + temp0
      let omega := omega - temp0
      build xmp omega
        (1 -
          tsince *
            (object.c1 +
              tsince * (object.d2 + tsince * (object.d3 + tsince * object.d4))))
        (keo.bStar *
          (object.c4 * tsince + object.c5 * (sin xmp - object.sinmo)))
        (tsince * tsince *
          (object.t2cof +
            tsince *
              (object.t3cof +
                tsince * (object.t4cof + tsince * object.t5cof))))

/-- `getPosition` -/
noncomputable def getPosition
    (object : NoradSGP4)
    (tsince : ℝ)
    (cs : NoradBase.CSType) :
    Except PredictionWarning (TVect3 ℝ × TVect3 ℝ) :=
  object.toNoradSGDP4.getPosition (object.calcData tsince cs)

end NoradSGP4

/-! ## Circular orbits -/

namespace NoradCircl

/-- `getPosition`; what `rdotk` was before, the constructor does not say. -/
noncomputable def getPosition
    (keo : KEO)
    (rdotk tsince : ℝ)
    (cs : NoradBase.CSType) :
    TVect3 ℝ × TVect3 ℝ :=
  NoradBase.kep2xyz keo.jd
    { radius := keo.semiMajorR * TleConst.radiusAe
      theta :=
        fmod (TleConst.pi + keo.meanMotionR * tsince) TleConst.twopi -
          TleConst.pi
      eqinc := keo.inclination
      ascn := keo.raan
      rdotk := rdotk
      rfdotk := keo.semiMajorR * keo.meanMotionR * TleConst.speedAe
      cs := cs
      tsinse := tsince }

end NoradCircl

end Radar
