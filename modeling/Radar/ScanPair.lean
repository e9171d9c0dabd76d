import Mathlib.Tactic.IntervalCases
import Mathlib.Tactic.SplitIfs
import Radar.Settings

namespace Radar

/-!
# Scan pairs

A scan pair describes the transmission pulses of one scan, the receive
intervals that answer them and the delay between the two.  This module
follows the `ScanPair` class and the functions that build a pair for a target.

Two numbers come out of floating-point formulas: the probing duration of the
radar equation and the range delay.  `RadarEquation` stands for those two
formulas; everything computed from their results is integer arithmetic.
-/

open Settings

/-- Kinds of scheduler queries. -/
inductive QueryType where
  | search
  | confirm
  | capture
  | tracking
  | signalChange
  | techControl
  | drop
  deriving Repr, DecidableEq

/-- Offset from the previous pulse and duration of one pulse. -/
structure PulseDesc where
  offsetTime : UInt32 := 0
  length : UInt32 := 0
  deriving Repr, DecidableEq

/--
One scan.  The constructor of the source admits the sizes 1, 2, 4, 8 and 16
only, and allocates both pulse arrays with that size.
-/
structure ScanPair where
  size : UInt32
  receive : List PulseDesc
  transmit : List PulseDesc
  receiveTime : UInt32
  sizePower : ∃ exponent, exponent < 5 ∧ size.toNat = 2 ^ exponent
  receiveLength : receive.length = size.toNat
  transmitLength : transmit.length = size.toNat

namespace ScanPair

/--
Exponent the constructor counts up to.  The source throws once the exponent
reaches 5; a size of at most 16 never gets there.
-/
def sizeExponent (size : Nat) : Nat :=
  if size ≤ 1 then 0
  else if size ≤ 2 then 1
  else if size ≤ 4 then 2
  else if size ≤ 8 then 3
  else 4

theorem sizeExponent_lt (size : Nat) : sizeExponent size < 5 := by
  unfold sizeExponent
  split_ifs <;> omega

/-- The power of two chosen for an admitted size is large enough. -/
theorem le_two_pow_sizeExponent
    {size : Nat}
    (admitted : size ≤ 16) :
    size ≤ 2 ^ sizeExponent size := by
  unfold sizeExponent
  split_ifs <;> omega

private theorem toNat_ofNat_two_pow
    {exponent : Nat}
    (small : exponent < 5) :
    (UInt32.ofNat (2 ^ exponent)).toNat = 2 ^ exponent := by
  interval_cases exponent <;> rfl

/-- A pair with all pulses and the receive time still zero. -/
def ofSize (size : Nat) : ScanPair where
  size := UInt32.ofNat (2 ^ sizeExponent size)
  receive := List.replicate (2 ^ sizeExponent size) {}
  transmit := List.replicate (2 ^ sizeExponent size) {}
  receiveTime := 0
  sizePower :=
    ⟨sizeExponent size, sizeExponent_lt size,
      toNat_ofNat_two_pow (sizeExponent_lt size)⟩
  receiveLength := by
    rw [List.length_replicate,
      toNat_ofNat_two_pow (sizeExponent_lt size)]
  transmitLength := by
    rw [List.length_replicate,
      toNat_ofNat_two_pow (sizeExponent_lt size)]

theorem toNat_size_ofSize (size : Nat) :
    (ofSize size).size.toNat = 2 ^ sizeExponent size :=
  toNat_ofNat_two_pow (sizeExponent_lt size)

/-- The default pair, which error paths return. -/
def default : ScanPair := ofSize 1

/-- Equal pulses, all but the first one `offsetTime` after the previous one. -/
def pulses (size : UInt32) (length offsetTime : UInt32) : List PulseDesc :=
  (List.range size.toNat).map fun idx =>
    { offsetTime := if idx = 0 then 0 else offsetTime, length := length }

/-- Set every transmission pulse. -/
def setTransmit (pair : ScanPair) (length offsetTime : UInt32) : ScanPair :=
  { pair with
    transmit := pulses pair.size length offsetTime
    transmitLength := by simp [pulses] }

/-- Set every receive interval. -/
def setReceive (pair : ScanPair) (length offsetTime : UInt32) : ScanPair :=
  { pair with
    receive := pulses pair.size length offsetTime
    receiveLength := by simp [pulses] }

/-- Energy time of a whole pulse train, summed with 32-bit wrap-around. -/
def transmitTimeNanosec (pair : ScanPair) : UInt32 :=
  pair.transmit.foldl
    (fun sum pulse => sum + pulse.length * dutyFactor) 0

/--
Set the receive time from the range delay.  Without pulses, or when a train
would still be transmitting, the receive time stays as it was.
-/
def setReceiveTime (pair : ScanPair) (rdtNanosec : UInt32) : ScanPair :=
  if (pair.transmit.headD {}).length = 0 then
    pair
  else if pair.size > 1 ∧ pair.transmitTimeNanosec > rdtNanosec then
    pair
  else
    { pair with receiveTime := multiplesOf rdtNanosec frequencyFactor }

end ScanPair

/-- Codes of the probing signals. -/
inductive SignalType where
  | SOTS1 | SOTS2 | SOTS3 | SOTS4 | SOTS5
  | SOTS6 | SOTS7 | SOTS8 | SOTS9 | SOTS10
  | SOTS11 | SOTS12 | SOTS13 | SOTS14 | SOTS15
  | SSS
  deriving Repr, DecidableEq

/--
Parameters of a probing signal that `createScanPair` reads.  No entry of the
signal table allows more than 16 pulses, so the size of a pair built from it
is always admitted.
-/
structure SignalParams where
  duration : UInt32
  periodLow : UInt32
  periodHigh : UInt32
  pulsesNumberLow : Nat
  pulseNumberHigh : Nat
  pulsesAdmitted : pulseNumberHigh ≤ 16 := by decide

/-- Signal code for a probing duration and a query type. -/
def getSignalCode (tauNsec : UInt64) (type : QueryType) : SignalType :=
  match type with
  | .search | .capture | .confirm =>
      if tauNsec ≤ 100 then .SOTS15
      else if tauNsec ≥ 100 ∧ tauNsec ≤ 1000 then .SOTS12
      else if tauNsec > 1000 ∧ tauNsec ≤ 8000 then .SOTS11
      else if tauNsec > 8000 ∧ tauNsec ≤ 15000 then .SOTS10
      else if tauNsec > 15000 ∧ tauNsec ≤ 30000 then .SOTS9
      else if tauNsec > 30000 ∧ tauNsec ≤ 60000 then .SOTS8
      else if tauNsec > 60000 ∧ tauNsec ≤ 120000 then .SOTS7
      else .SOTS6
  | .tracking =>
      if tauNsec ≤ 100 then .SOTS15
      else if tauNsec ≥ 100 ∧ tauNsec ≤ 1000 then .SOTS14
      else if tauNsec > 1000 ∧ tauNsec ≤ 8000 then .SOTS13
      else if tauNsec > 8000 ∧ tauNsec ≤ 15000 then .SOTS5
      else if tauNsec > 15000 ∧ tauNsec ≤ 30000 then .SOTS4
      else if tauNsec > 30000 ∧ tauNsec ≤ 60000 then .SOTS3
      else if tauNsec > 60000 ∧ tauNsec ≤ 120000 then .SOTS2
      else .SOTS1
  | .signalChange | .techControl | .drop => .SSS

/--
The signal table.  Looking up a missing code in the source inserts parameters
that are all zero.
-/
def signalTbl : SignalType → SignalParams
  | .SOTS1 => ⟨240000, 1920000, 2300000, 1, 16, by decide⟩
  | .SOTS2 => ⟨120000, 960000, 2300000, 1, 16, by decide⟩
  | .SOTS3 => ⟨60000, 480000, 2300000, 1, 16, by decide⟩
  | .SOTS4 => ⟨30000, 240000, 2300000, 1, 16, by decide⟩
  | .SOTS5 => ⟨15000, 120000, 2300000, 1, 16, by decide⟩
  | .SOTS6 => ⟨240000, 1920000, 2300000, 1, 16, by decide⟩
  | .SOTS7 => ⟨120000, 960000, 2300000, 1, 16, by decide⟩
  | .SOTS8 => ⟨60000, 480000, 2300000, 1, 16, by decide⟩
  | .SOTS9 => ⟨30000, 240000, 2300000, 1, 16, by decide⟩
  | .SOTS10 => ⟨15000, 120000, 2300000, 1, 16, by decide⟩
  | .SOTS11 => ⟨8000, 64000, 2300000, 1, 16, by decide⟩
  | .SOTS12 => ⟨1000, 8000, 2300000, 1, 16, by decide⟩
  | .SOTS13 => ⟨8000, 64000, 2300000, 1, 16, by decide⟩
  | .SOTS14 => ⟨1000, 8000, 2300000, 1, 16, by decide⟩
  | .SOTS15 => ⟨100, 1000, 2300000, 1, 1, by decide⟩
  | .SSS => ⟨0, 0, 0, 0, 0, by decide⟩

/-- Number of pulses of 240 us that a probing duration needs. -/
def pulseTrainLength (tauNsec : UInt64) : UInt32 :=
  (tauNsec / 240000 + 1).toUInt32

/--
Build the scan pair of a signal for a probing duration and a range delay.  A
train that is too long or a period outside its limits gives the default pair.
-/
def createScanPair
    (signalParams : SignalParams)
    (tauNsec : UInt64)
    (rdtNanosec : UInt32) :
    ScanPair :=
  let trainLength := (pulseTrainLength tauNsec).toNat
  if trainLength > signalParams.pulseNumberHigh ∨
      trainLength < signalParams.pulsesNumberLow then
    .default
  else
    let transmitPeriod := signalParams.duration * dutyFactor
    if transmitPeriod > signalParams.periodHigh ∨
        transmitPeriod < signalParams.periodLow then
      .default
    else
      let length := multiplesOf signalParams.duration frequencyFactor
      let period := multiplesOf transmitPeriod frequencyFactor
      (((ScanPair.ofSize trainLength).setTransmit length period).setReceive
        length period).setReceiveTime rdtNanosec

/--
The floating-point part of building a pair: the probing duration the radar
equation gives for a range and a cross section, and the delay of a range,
both in nanoseconds.
-/
structure RadarEquation where
  tauNsec : (range rcs : Rat) → UInt64
  rdtNanosec : (range : Rat) → UInt32

/-- Build the scan pair for a target at a range with a cross section. -/
def buildScanPair
    (equation : RadarEquation)
    (range rcs : Rat)
    (type : QueryType) :
    ScanPair :=
  let tauNsec := equation.tauNsec range rcs
  createScanPair (signalTbl (getSignalCode tauNsec type)) tauNsec
    (equation.rdtNanosec range)

end Radar
