import Radar.FixedStep

namespace Radar

/-!
# Secular effects of deep space

The part of the class `NoradSDP4` that keeps a state between calls: the
integrator for resonant orbits and the function `_secular` that drives it.
The arithmetic is exact; the sine and the cosine are those of a library.
-/

/-- The trigonometric functions of the library. -/
structure Trigonometry (K : Type) where
  sin : K → K
  cos : K → K

/-- What an object computes once for its satellite. -/
structure DeepSpaceOrbit (K : Type) where
  meanMotionR : K
  argPerigee : K
  raan : K
  inclination : K
  eccentricity : K
  meanAnomaly : K
  bStar : K
  xmdot : K
  xnodot : K
  xnodcf : K
  omgdot : K
  c1 : K
  c4 : K
  t2cof : K
  ssl : K
  ssg : K
  ssh : K
  sse : K
  ssi : K
  thgr : K
  xfact : K
  xlamo : K
  del1 : K
  del2 : K
  del3 : K
  d2201 : K
  d2211 : K
  d3210 : K
  d3222 : K
  d4410 : K
  d4422 : K
  d5220 : K
  d5232 : K
  d5421 : K
  d5433 : K
  /-- Is the orbit resonant? -/
  iresfl : Bool
  /-- Is it a synchronous one? -/
  isynfl : Bool

/-- A node of the integrator: its time, longitude, mean motion and dot terms. -/
structure IntegratorNode (K : Type) where
  atime : K
  xli : K
  xni : K
  xnddt : K
  xndot : K
  xldot : K

/-- The data from which a position is computed. -/
structure DeepCalcData (K : Type) where
  tsince : K
  xmp : K
  xnode : K
  omega : K
  tempa : K
  tempe : K
  templ : K
  xinc : K
  xn : K
  ecc : K

/-- An object: its orbit, the saved dot terms and the node it has reached. -/
structure NoradSDP4 (K : Type) where
  orbit : DeepSpaceOrbit K
  xnddt0 : K
  xndot0 : K
  xldot0 : K
  node : IntegratorNode K
  /-- Has the warning about the limit of the integration been given? -/
  integrWarn : Bool

namespace NoradSDP4

variable {K : Type} [Field K]

/-- The rotation of the Earth in radians a minute. -/
def thdt : K :=
  4.37526908801129966e-3

/-! ## The integrator -/

/-- Compute the dot terms of a node. -/
def dotTermsCalculated
    (trig : Trigonometry K)
    (orbit : DeepSpaceOrbit K)
    (node : IntegratorNode K) : IntegratorNode K :=
  let xli := node.xli
  let xldot := node.xni + orbit.xfact
  if orbit.isynfl then
    let fasx2 : K := 0.13130908
    let fasx4 : K := 2.8843198
    let fasx6 : K := 0.37448087
    let xndot :=
      orbit.del1 * trig.sin (xli - fasx2) +
        orbit.del2 * trig.sin ((xli - fasx4) * 2) +
        orbit.del3 * trig.sin ((xli - fasx6) * 3)
    let xnddt :=
      orbit.del1 * trig.cos (xli - fasx2) +
        orbit.del2 * trig.cos ((xli - fasx4) * 2) * 2 +
        orbit.del3 * trig.cos ((xli - fasx6) * 3) * 3
    { node with xndot := xndot, xnddt := xnddt * xldot, xldot := xldot }
  else
    let g22 : K := 5.7686396
    let g32 : K := 0.95240898
    let g44 : K := 1.8014998
    let g52 : K := 1.0508330
    let g54 : K := 4.4108898
    let xomi := orbit.argPerigee + orbit.omgdot * node.atime
    let x2omi := xomi + xomi
    let x2li := xli + xli
    let xndot :=
      orbit.d2201 * trig.sin (x2omi + xli - g22) +
        orbit.d2211 * trig.sin (xli - g22) +
        orbit.d3210 * trig.sin (xomi + xli - g32) +
        orbit.d3222 * trig.sin (-xomi + xli - g32) +
        orbit.d5220 * trig.sin (xomi + xli - g52) +
        orbit.d5232 * trig.sin (-xomi + xli - g52) +
        orbit.d4410 * trig.sin (x2omi + x2li - g44) +
        orbit.d4422 * trig.sin (x2li - g44) +
        orbit.d5421 * trig.sin (xomi + x2li - g54) +
        orbit.d5433 * trig.sin (-xomi + x2li - g54)
    let xnddt :=
      orbit.d2201 * trig.cos (x2omi + xli - g22) +
        orbit.d2211 * trig.cos (xli - g22) +
        orbit.d3210 * trig.cos (xomi + xli - g32) +
        orbit.d3222 * trig.cos (-xomi + xli - g32) +
        orbit.d5220 * trig.cos (xomi + xli - g52) +
        orbit.d5232 * trig.cos (-xomi + xli - g52) +
        (orbit.d4410 * trig.cos (x2omi + x2li - g44) +
          orbit.d4422 * trig.cos (x2li - g44) +
          orbit.d5421 * trig.cos (xomi + x2li - g54) +
          orbit.d5433 * trig.cos (-xomi + x2li - g54)) * 2
    { node with xndot := xndot, xnddt := xnddt * xldot, xldot := xldot }

/-- One pass of the integrator, with the last dot terms. -/
def advance
    (trig : Trigonometry K)
    (orbit : DeepSpaceOrbit K)
    (delt : K)
    (node : IntegratorNode K) : IntegratorNode K :=
  dotTermsCalculated trig orbit
    { node with
      xli := node.xli + delt * (node.xldot + delt * 0.5 * node.xndot)
      xni := node.xni + delt * (node.xndot + delt * 0.5 * node.xnddt)
      atime := node.atime + delt }

/-- The node at the epoch, with its dot terms. -/
def epochNode (trig : Trigonometry K) (orbit : DeepSpaceOrbit K) :
    IntegratorNode K :=
  dotTermsCalculated trig orbit
    { atime := 0
      xli := orbit.xlamo
      xni := orbit.meanMotionR
      xnddt := 0
      xndot := 0
      xldot := 0 }

/-- A new object: a resonant one saves the dot terms of the epoch. -/
def new (trig : Trigonometry K) (orbit : DeepSpaceOrbit K) : NoradSDP4 K :=
  if orbit.iresfl then
    let node := epochNode trig orbit
    { orbit := orbit
      xnddt0 := node.xnddt
      xndot0 := node.xndot
      xldot0 := node.xldot
      node := node
      integrWarn := false }
  else
    { orbit := orbit
      xnddt0 := 0
      xndot0 := 0
      xldot0 := 0
      node := ⟨0, 0, 0, 0, 0, 0⟩
      integrWarn := false }

@[simp] theorem new_orbit
    (trig : Trigonometry K)
    (orbit : DeepSpaceOrbit K) :
    (new trig orbit).orbit = orbit := by
  unfold new
  split <;> rfl

/-- The node of an epoch restart, with the saved dot terms. -/
def restartNode (object : NoradSDP4 K) : IntegratorNode K where
  atime := 0
  xni := object.orbit.meanMotionR
  xli := object.orbit.xlamo
  xnddt := object.xnddt0
  xndot := object.xndot0
  xldot := object.xldot0

variable [LinearOrder K]

/-- The step of the integrator, in minutes. -/
def step : K :=
  720

/-- The longest time to integrate over. -/
def maxIntegrate : K :=
  step * 10000

/-- The loop of the integrator: it stops less than a step from the time. -/
def integrate
    (trig : Trigonometry K)
    (orbit : DeepSpaceOrbit K)
    (delt tsince : K) :
    Nat → IntegratorNode K → IntegratorNode K
  | 0, node => node
  | fuel + 1, node =>
      let next := advance trig orbit delt node
      if step ≤ |tsince - next.atime| then
        integrate trig orbit delt tsince fuel next
      else
        next

/-- The test for an epoch restart. -/
def Restarts (tsince : K) (node : IntegratorNode K) : Prop :=
  |tsince| < step ∨ 0 < node.atime ∧ tsince < node.atime - 1 ∨
    node.atime < 0 ∧ node.atime + 1 < tsince

instance (tsince : K) (node : IntegratorNode K) :
    Decidable (Restarts tsince node) := by
  unfold Restarts
  infer_instance

/-- The longitude and the mean motion beyond a node. -/
def extrapolate
    (orbit : DeepSpaceOrbit K)
    (node : IntegratorNode K)
    (dcd : DeepCalcData K) : DeepCalcData K :=
  let ft := dcd.tsince - node.atime
  let xl := node.xli + ft * (node.xldot + ft * 0.5 * node.xndot)
  let temp0 := -dcd.xnode + orbit.thgr + dcd.tsince * thdt
  { dcd with
    xn := node.xni + ft * (node.xndot + ft * 0.5 * node.xnddt)
    xmp :=
      if orbit.isynfl = false then
        xl + temp0 + temp0
      else
        xl - dcd.omega + temp0 }

/-- Add the secular rates of the Sun and the Moon. -/
def addRates (orbit : DeepSpaceOrbit K) (dcd : DeepCalcData K) :
    DeepCalcData K :=
  { dcd with
    xmp := dcd.xmp + orbit.ssl * dcd.tsince
    omega := dcd.omega + orbit.ssg * dcd.tsince
    xnode := dcd.xnode + orbit.ssh * dcd.tsince
    ecc := dcd.ecc + orbit.sse * dcd.tsince
    xinc := dcd.xinc + orbit.ssi * dcd.tsince }

/--
The secular effects.  The result is false if the time is too far from the node;
the limit leaves the loop no more passes than it has fuel for.
-/
def secular
    (trig : Trigonometry K)
    (dcd : DeepCalcData K)
    (object : NoradSDP4 K) :
    Bool × DeepCalcData K × NoradSDP4 K :=
  let orbit := object.orbit
  let tsince := dcd.tsince
  let dcd := addRates orbit dcd
  if orbit.iresfl = false then
    (true, dcd, object)
  else
    let node :=
      if Restarts tsince object.node then object.restartNode else object.node
    let ft := tsince - node.atime
    if maxIntegrate < |ft| then
      (false, dcd, { object with node := node, integrWarn := true })
    else
      let node :=
        if step ≤ |ft| then
          integrate trig orbit (if node.atime ≤ tsince then step else -step)
            tsince 10000 node
        else
          node
      (true, extrapolate orbit node dcd, { object with node := node })

/-- The data at a time before the secular effects. -/
def initCalcData (orbit : DeepSpaceOrbit K) (tsince : K) : DeepCalcData K where
  tsince := tsince
  xmp := orbit.meanAnomaly + orbit.xmdot * tsince
  xnode := orbit.raan + tsince * (orbit.xnodot + tsince * orbit.xnodcf)
  omega := orbit.argPerigee + orbit.omgdot * tsince
  tempa := 1 - tsince * orbit.c1
  tempe := orbit.bStar * tsince * orbit.c4
  templ := tsince * tsince * orbit.t2cof
  xinc := orbit.inclination
  xn := orbit.meanMotionR
  ecc := orbit.eccentricity

/--
A call of `getPosition` up to the data from which the position is computed;
what follows depends on nothing else and keeps no state.
-/
def getPosition
    (trig : Trigonometry K)
    (tsince : K)
    (object : NoradSDP4 K) :
    Option (DeepCalcData K) × NoradSDP4 K :=
  match secular trig (initCalcData object.orbit tsince) object with
  | (false, _, object) => (none, object)
  | (true, dcd, object) => (some dcd, object)

/-- The object after earlier calls. -/
def afterCalls
    (trig : Trigonometry K)
    (orbit : DeepSpaceOrbit K)
    (earlier : List K) : NoradSDP4 K :=
  earlier.foldl (fun object tsince => (getPosition trig tsince object).2)
    (new trig orbit)

end NoradSDP4

end Radar
