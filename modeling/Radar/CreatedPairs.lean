import Radar.ScanPair

namespace Radar

/-!
# The pairs that are created for a signal

A signal and a probing duration are either refused, which gives the default
pair, or give a train of equal pulses.  Every row of the signal table that is
not refused has a duration that is a multiple of 500 ns.
-/

open Settings

/-- A train of equal pulses with the receive intervals that answer them. -/
def ScanPair.train (size : Nat) (length : UInt32) : ScanPair :=
  ((ScanPair.ofSize size).setTransmit length (length * dutyFactor)).setReceive
    length (length * dutyFactor)

/-- The checks that `create_scan_pair` makes on a signal. -/
structure Admits (signalParams : SignalParams) (tauNsec : UInt64) : Prop where
  notTooLong :
    (pulseTrainLength tauNsec).toNat ≤ signalParams.pulseNumberHigh
  notTooShort :
    signalParams.pulsesNumberLow ≤ (pulseTrainLength tauNsec).toNat
  periodLow :
    signalParams.periodLow ≤ signalParams.duration * dutyFactor
  periodHigh :
    signalParams.duration * dutyFactor ≤ signalParams.periodHigh

theorem multiplesOf_of_mod
    {value : UInt32}
    (divides : value.toNat % 100 = 0) :
    multiplesOf value frequencyFactor = value := by
  rw [multiplesOf, if_pos]
  rw [← UInt32.toNat_inj, UInt32.toNat_mod]
  exact divides

/-- What the signal table says about the duration of a signal. -/
theorem duration_signalTbl (code : SignalType) :
    (signalTbl code).duration.toNat ≤ 240000 ∧
      (signalTbl code).duration.toNat % 100 = 0 := by
  cases code <;> decide

/-- A signal that is refused gives the default pair. -/
theorem createScanPair_of_not_admits
    {signalParams : SignalParams}
    {tauNsec : UInt64}
    (refused : ¬ Admits signalParams tauNsec)
    (rdtNanosec : UInt32) :
    createScanPair signalParams tauNsec rdtNanosec = .default := by
  unfold createScanPair
  simp only
  split
  · rfl
  · next inTrain =>
      rw [not_or, Nat.not_lt, Nat.not_lt] at inTrain
      split
      · rfl
      · next inPeriod =>
          rw [not_or, gt_iff_lt, UInt32.not_lt, UInt32.not_lt] at inPeriod
          exact (refused
            ⟨inTrain.1, inTrain.2, inPeriod.2, inPeriod.1⟩).elim

/-- A signal of the table that is not refused gives a train. -/
theorem createScanPair_of_admits
    {code : SignalType}
    {tauNsec : UInt64}
    (admitted : Admits (signalTbl code) tauNsec)
    (rdtNanosec : UInt32) :
    createScanPair (signalTbl code) tauNsec rdtNanosec =
      (ScanPair.train (pulseTrainLength tauNsec).toNat
        (signalTbl code).duration).setReceiveTime rdtNanosec := by
  obtain ⟨short, hundred⟩ := duration_signalTbl code
  have period :
      multiplesOf ((signalTbl code).duration * dutyFactor) frequencyFactor =
        (signalTbl code).duration * dutyFactor := by
    apply multiplesOf_of_mod
    have noWrap : (signalTbl code).duration.toNat * 8 < 2 ^ 32 := by omega
    rw [UInt32.toNat_mul, toNat_dutyFactor, Nat.mod_eq_of_lt noWrap]
    omega
  have inTrain :
      ¬ ((pulseTrainLength tauNsec).toNat >
            (signalTbl code).pulseNumberHigh ∨
          (pulseTrainLength tauNsec).toNat <
            (signalTbl code).pulsesNumberLow) := by
    rw [not_or, Nat.not_lt, Nat.not_lt]
    exact ⟨admitted.notTooLong, admitted.notTooShort⟩
  have inPeriod :
      ¬ ((signalTbl code).duration * dutyFactor >
            (signalTbl code).periodHigh ∨
          (signalTbl code).duration * dutyFactor <
            (signalTbl code).periodLow) := by
    rw [not_or, gt_iff_lt, UInt32.not_lt, UInt32.not_lt]
    exact ⟨admitted.periodHigh, admitted.periodLow⟩
  unfold createScanPair
  simp only
  rw [if_neg inTrain, if_neg inPeriod, multiplesOf_of_mod hundred, period]
  rfl

/-- Setting the receive time changes nothing else. -/
theorem setReceiveTime_cases
    (pair : ScanPair)
    (rdtNanosec : UInt32) :
    pair.setReceiveTime rdtNanosec = pair ∨
      pair.setReceiveTime rdtNanosec =
        { pair with
          receiveTime := multiplesOf rdtNanosec frequencyFactor } := by
  unfold ScanPair.setReceiveTime
  split
  · exact .inl rfl
  · split
    · exact .inl rfl
    · exact .inr rfl

@[simp] theorem transmit_setReceiveTime
    (pair : ScanPair)
    (rdtNanosec : UInt32) :
    (pair.setReceiveTime rdtNanosec).transmit = pair.transmit := by
  rcases setReceiveTime_cases pair rdtNanosec with same | same <;> rw [same]

@[simp] theorem size_setReceiveTime
    (pair : ScanPair)
    (rdtNanosec : UInt32) :
    (pair.setReceiveTime rdtNanosec).size = pair.size := by
  rcases setReceiveTime_cases pair rdtNanosec with same | same <;> rw [same]

/-- Equal pulses and equal receive intervals at equal distances. -/
structure CreatedPair (pair : ScanPair) (length : UInt32) : Prop where
  positive : 0 < length.toNat
  short : length.toNat ≤ 240000
  offBoundary : length.toNat % 500 = 0
  transmit :
    pair.transmit =
      ScanPair.pulses pair.size length (length * dutyFactor)
  receive :
    pair.receive =
      ScanPair.pulses pair.size length (length * dutyFactor)
  hundred :
    100 ≤ pair.receiveTime.toNat → pair.receiveTime.toNat % 100 = 0

namespace CreatedPair

/-- A rounded receive time is a multiple of 100 ns unless it has wrapped. -/
private theorem mod_hundred
    {rdtNanosec : UInt32}
    (late : 100 ≤ (multiplesOf rdtNanosec frequencyFactor).toNat) :
    (multiplesOf rdtNanosec frequencyFactor).toNat % 100 = 0 := by
  have bounded := rdtNanosec.toNat_lt
  rw [toNat_multiplesOf_uint32, toNat_frequencyFactor,
    roundUp_hundred] at late ⊢
  by_cases wraps : rdtNanosec.toNat + 99 < 4294967300
  · have small : (rdtNanosec.toNat + 99) / 100 * 100 < 2 ^ 32 := by omega
    rw [Nat.mod_eq_of_lt small]
    omega
  · have rounded :
        (rdtNanosec.toNat + 99) / 100 * 100 = 4294967300 := by omega
    rw [rounded] at late
    omega

theorem of_train
    {size : Nat}
    {length : UInt32}
    (positive : 0 < length.toNat)
    (short : length.toNat ≤ 240000)
    (offBoundary : length.toNat % 500 = 0)
    (rdtNanosec : UInt32) :
    CreatedPair ((ScanPair.train size length).setReceiveTime rdtNanosec)
      length := by
  rcases setReceiveTime_cases (ScanPair.train size length) rdtNanosec with
    kept | set
  · rw [kept]
    refine ⟨positive, short, offBoundary, rfl, rfl, ?_⟩
    intro late
    exact (Nat.not_succ_le_zero _ late).elim
  · rw [set]
    exact ⟨positive, short, offBoundary, rfl, rfl, mod_hundred⟩

/-- The durations that are not refused. -/
theorem duration_of_admits
    {code : SignalType}
    {tauNsec : UInt64}
    (admitted : Admits (signalTbl code) tauNsec)
    (inUse : code ≠ .SSS) :
    0 < (signalTbl code).duration.toNat ∧
      (signalTbl code).duration.toNat % 500 = 0 := by
  have periodLow := admitted.periodLow
  revert periodLow inUse
  cases code <;> decide

/-- The code without a row gives the default pair in every case. -/
theorem createScanPair_SSS
    (tauNsec : UInt64)
    (rdtNanosec : UInt32) :
    createScanPair (signalTbl .SSS) tauNsec rdtNanosec = .default := by
  by_cases admitted : Admits (signalTbl .SSS) tauNsec
  · have noPulses : (pulseTrainLength tauNsec).toNat = 0 :=
      Nat.le_zero.mp admitted.notTooLong
    rw [createScanPair_of_admits admitted, noPulses]
    rfl
  · exact createScanPair_of_not_admits admitted rdtNanosec

/-- A signal of the table gives the default pair or a train. -/
theorem of_createScanPair
    (code : SignalType)
    (tauNsec : UInt64)
    (rdtNanosec : UInt32) :
    createScanPair (signalTbl code) tauNsec rdtNanosec = .default ∨
      CreatedPair (createScanPair (signalTbl code) tauNsec rdtNanosec)
        (signalTbl code).duration := by
  by_cases unused : code = .SSS
  · subst unused
    exact .inl (createScanPair_SSS tauNsec rdtNanosec)
  · by_cases admitted : Admits (signalTbl code) tauNsec
    · obtain ⟨positive, offBoundary⟩ := duration_of_admits admitted unused
      rw [createScanPair_of_admits admitted]
      exact .inr (of_train positive (duration_signalTbl code).1
        offBoundary rdtNanosec)
    · exact .inl (createScanPair_of_not_admits admitted rdtNanosec)

end CreatedPair

end Radar
