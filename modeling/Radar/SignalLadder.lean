import Radar.CreatedPairs

namespace Radar

/-!
# From a probing duration to a scan pair

The two threshold ladders of `get_signal_code`, the rows of the signal table
and the checks of `create_scan_pair` fit together for every duration above
100 ns: up to sixteen pulses of 240 us the pair transmits long enough.  Below,
the ladders choose `SOTS15`, whose period is too short for its own row.
-/

open Settings

/-- Query types that are served by a scan. -/
def probingTypes : List QueryType :=
  [.search, .confirm, .capture, .tracking]

/-- A row of the signal table that takes up to sixteen pulses. -/
structure InUse (signalParams : SignalParams) : Prop where
  pulsesNumberLow : signalParams.pulsesNumberLow = 1
  pulseNumberHigh : signalParams.pulseNumberHigh = 16
  periodLow :
    signalParams.periodLow ≤ signalParams.duration * dutyFactor
  periodHigh :
    signalParams.duration * dutyFactor ≤ signalParams.periodHigh
  positive : 0 < signalParams.duration.toNat

private theorem inUse_signalTbl
    {code : SignalType}
    (row : code ≠ .SOTS15)
    (known : code ≠ .SSS) :
    InUse (signalTbl code) := by
  revert row known
  cases code <;> first
    | exact fun _ _ => ⟨rfl, rfl, by decide, by decide, by decide⟩
    | simp

/-- The period of `SOTS15` is below the limit of its own row. -/
theorem not_admits_SOTS15 (tauNsec : UInt64) :
    ¬ Admits (signalTbl .SOTS15) tauNsec := by
  intro admitted
  exact absurd admitted.periodLow (by decide)

/-- Search, capture and confirm queries climb one ladder, tracking another. -/
private theorem ladder_cases
    {type : QueryType}
    (probing : type ∈ probingTypes)
    (tauNsec : UInt64) :
    getSignalCode tauNsec type = getSignalCode tauNsec .search ∨
      getSignalCode tauNsec type = getSignalCode tauNsec .tracking := by
  simp only [probingTypes, List.mem_cons, List.not_mem_nil, or_false]
    at probing
  rcases probing with rfl | rfl | rfl | rfl
  · exact .inl rfl
  · exact .inl rfl
  · exact .inl rfl
  · exact .inr rfl

/-- Durations up to 100 ns get the code `SOTS15`. -/
theorem getSignalCode_of_le
    {tauNsec : UInt64}
    {type : QueryType}
    (probing : type ∈ probingTypes)
    (short : tauNsec.toNat ≤ 100) :
    getSignalCode tauNsec type = .SOTS15 := by
  have first : tauNsec ≤ 100 := UInt64.le_iff_toNat_le.mpr short
  rcases ladder_cases probing tauNsec with same | same
  · rw [same, getSignalCode, if_pos first]
  · rw [same, getSignalCode, if_pos first]

/--
Longer durations get a row in use.  Its pulse lasts for the whole duration,
or the duration is long and the pulse lasts for 240 us.
-/
theorem getSignalCode_of_lt
    {tauNsec : UInt64}
    {type : QueryType}
    (probing : type ∈ probingTypes)
    (long : 100 < tauNsec.toNat) :
    InUse (signalTbl (getSignalCode tauNsec type)) ∧
      (tauNsec.toNat ≤
          (signalTbl (getSignalCode tauNsec type)).duration.toNat ∧
        tauNsec.toNat ≤ 120000 ∨
      120000 < tauNsec.toNat ∧
        (signalTbl (getSignalCode tauNsec type)).duration = 240000) := by
  have atMost (bound : UInt64) :
      tauNsec ≤ bound ↔ tauNsec.toNat ≤ bound.toNat :=
    UInt64.le_iff_toNat_le
  have above (bound : UInt64) :
      tauNsec > bound ↔ bound.toNat < tauNsec.toNat :=
    UInt64.lt_iff_toNat_lt
  have atLeast (bound : UInt64) :
      tauNsec ≥ bound ↔ bound.toNat ≤ tauNsec.toNat :=
    UInt64.le_iff_toNat_le
  rcases ladder_cases probing tauNsec with same | same <;>
    rw [same] <;>
    simp only [getSignalCode, atMost, above, atLeast,
      UInt64.reduceToNat] <;>
    split_ifs <;>
    first
      | omega
      | refine ⟨inUse_signalTbl (by decide) (by decide), .inl ⟨?_, ?_⟩⟩
        · simp only [signalTbl, UInt32.reduceToNat]
          omega
        · omega
      | refine ⟨inUse_signalTbl (by decide) (by decide), .inr ⟨?_, rfl⟩⟩
        omega

/-! ## The pair that is created -/

/-- A train of equal pulses that transmits long enough within its limits. -/
structure Covers
    (signalParams : SignalParams)
    (tauNsec : UInt64)
    (pair : ScanPair)
    (length : UInt32) :
    Prop where
  size : ∃ exponent, exponent ≤ 4 ∧ pair.size.toNat = 2 ^ exponent
  positive : 0 < length.toNat
  pulses : ∀ pulse ∈ pair.transmit, pulse.length = length
  period :
    ∀ pulse ∈ pair.transmit.tail,
      pulse.offsetTime.toNat = dutyFactor.toNat * length.toNat
  enough : tauNsec.toNat ≤ pair.size.toNat * length.toNat
  periodLow :
    signalParams.periodLow.toNat ≤ dutyFactor.toNat * length.toNat
  periodHigh :
    dutyFactor.toNat * length.toNat ≤ signalParams.periodHigh.toNat

/--
Selecting the signal and creating the pair do what a duration asks for.  The
source casts the pulse count from `double`, which has no defined result from
`2 ^ 32` pulses on.
-/
structure SelectsSignal
    (tauNsec : UInt64)
    (type : QueryType)
    (rdtNanosec : UInt32) :
    Prop where
  refused :
    createScanPair (signalTbl (getSignalCode tauNsec type)) tauNsec
        rdtNanosec = .default →
      16 * 240000 ≤ tauNsec.toNat
  created :
    tauNsec.toNat / 240000 + 1 < 2 ^ 32 →
    createScanPair (signalTbl (getSignalCode tauNsec type)) tauNsec
        rdtNanosec ≠ .default →
      ∃ length,
        Covers (signalTbl (getSignalCode tauNsec type)) tauNsec
          (createScanPair (signalTbl (getSignalCode tauNsec type)) tauNsec
            rdtNanosec)
          length

/-- Pulse count of a duration, before the cast to 32 bits. -/
theorem toNat_pulseTrainLength (tauNsec : UInt64) :
    (pulseTrainLength tauNsec).toNat =
      (tauNsec.toNat / 240000 + 1) % 2 ^ 32 := by
  have bounded := tauNsec.toNat_lt
  have divisor : (240000 : UInt64).toNat = 240000 := rfl
  have one : (1 : UInt64).toNat = 1 := rfl
  rw [pulseTrainLength, UInt64.toNat_toUInt32, UInt64.toNat_add,
    UInt64.toNat_div, divisor, one]
  omega

/-- All pulses of a train have its length. -/
theorem length_of_mem_pulses
    {size length offsetTime : UInt32}
    {pulse : PulseDesc}
    (member : pulse ∈ ScanPair.pulses size length offsetTime) :
    pulse.length = length := by
  obtain ⟨_, _, rfl⟩ := List.mem_map.mp member
  rfl

/-- All pulses but the first one follow the previous one by the offset. -/
theorem offsetTime_of_mem_tail_pulses
    {size length offsetTime : UInt32}
    {pulse : PulseDesc}
    (member : pulse ∈ (ScanPair.pulses size length offsetTime).tail) :
    pulse.offsetTime = offsetTime := by
  rw [ScanPair.pulses, ← List.map_tail, List.tail_range] at member
  obtain ⟨idx, later, rfl⟩ := List.mem_map.mp member
  have notFirst : idx ≠ 0 := by
    have := (List.mem_range'_1.mp later).1
    omega
  exact if_neg notFirst

/-- A train covers a duration if its pulses together last long enough. -/
theorem Covers.of_train
    {signalParams : SignalParams}
    {tauNsec : UInt64}
    {count : Nat}
    (inUse : InUse signalParams)
    (short : signalParams.duration.toNat ≤ 240000)
    (admitted : count ≤ 16)
    (enough : tauNsec.toNat ≤ count * signalParams.duration.toNat)
    (rdtNanosec : UInt32) :
    Covers signalParams tauNsec
      ((ScanPair.train count signalParams.duration).setReceiveTime
        rdtNanosec)
      signalParams.duration := by
  have period :
      (signalParams.duration * dutyFactor).toNat =
        dutyFactor.toNat * signalParams.duration.toNat := by
    rw [UInt32.toNat_mul, toNat_dutyFactor]
    omega
  have size :
      (ScanPair.train count signalParams.duration).size.toNat =
        2 ^ ScanPair.sizeExponent count :=
    ScanPair.toNat_size_ofSize count
  refine ⟨?_, inUse.positive, ?_, ?_, ?_, ?_, ?_⟩
  · rw [size_setReceiveTime, size]
    exact ⟨_, Nat.le_of_lt_succ (ScanPair.sizeExponent_lt count), rfl⟩
  · intro pulse member
    rw [transmit_setReceiveTime] at member
    exact length_of_mem_pulses member
  · intro pulse member
    rw [transmit_setReceiveTime] at member
    rw [offsetTime_of_mem_tail_pulses member, period]
  · rw [size_setReceiveTime, size]
    exact enough.trans (Nat.mul_le_mul_right _
      (ScanPair.le_two_pow_sizeExponent admitted))
  · rw [← period]
    exact UInt32.le_iff_toNat_le.mp inUse.periodLow
  · rw [← period]
    exact UInt32.le_iff_toNat_le.mp inUse.periodHigh

/-- A row in use admits every duration below sixteen pulses of 240 us. -/
theorem InUse.admits_iff
    {signalParams : SignalParams}
    {tauNsec : UInt64}
    (inUse : InUse signalParams)
    (defined : tauNsec.toNat / 240000 + 1 < 2 ^ 32) :
    Admits signalParams tauNsec ↔ tauNsec.toNat < 16 * 240000 := by
  have count : (pulseTrainLength tauNsec).toNat =
      tauNsec.toNat / 240000 + 1 := by
    rw [toNat_pulseTrainLength, Nat.mod_eq_of_lt defined]
  constructor
  · intro admitted
    have notTooLong := admitted.notTooLong
    rw [count, inUse.pulseNumberHigh] at notTooLong
    omega
  · intro below
    refine ⟨?_, ?_, inUse.periodLow, inUse.periodHigh⟩
    · rw [count, inUse.pulseNumberHigh]
      omega
    · rw [count, inUse.pulsesNumberLow]
      omega

/-- A train of some pulses is not the default pair. -/
theorem train_ne_default
    {count : Nat}
    {length : UInt32}
    (positive : 0 < length.toNat)
    (rdtNanosec : UInt32) :
    (ScanPair.train count length).setReceiveTime rdtNanosec ≠ .default := by
  intro same
  have sameTransmit := congrArg ScanPair.transmit same
  rw [transmit_setReceiveTime] at sameTransmit
  have member :
      (⟨0, 0⟩ : PulseDesc) ∈
        (ScanPair.train count length).transmit := by
    rw [sameTransmit]
    exact List.mem_cons_self
  have noLength : (0 : UInt32) = length := length_of_mem_pulses member
  rw [← noLength] at positive
  exact absurd positive (by decide)

/--
The signal that is selected for a search, confirm, capture or tracking query
does what its duration asks for exactly when the duration exceeds 100 ns.
-/
theorem selectsSignal_iff
    {tauNsec : UInt64}
    {type : QueryType}
    (probing : type ∈ probingTypes)
    (rdtNanosec : UInt32) :
    SelectsSignal tauNsec type rdtNanosec ↔ 100 < tauNsec.toNat := by
  constructor
  · intro selects
    by_contra short
    have code := getSignalCode_of_le probing (Nat.not_lt.mp short)
    have refused := selects.refused
    rw [code] at refused
    have :=
      refused (createScanPair_of_not_admits (not_admits_SOTS15 tauNsec)
        rdtNanosec)
    omega
  · intro long
    obtain ⟨inUse, pulse⟩ := getSignalCode_of_lt probing long
    have short := (duration_signalTbl (getSignalCode tauNsec type)).1
    refine ⟨?_, ?_⟩
    · intro isDefault
      by_contra below
      have admitted := (inUse.admits_iff (by omega)).mpr (Nat.not_le.mp below)
      rw [createScanPair_of_admits admitted] at isDefault
      exact train_ne_default inUse.positive rdtNanosec isDefault
    · intro defined notDefault
      have admitted :
          Admits (signalTbl (getSignalCode tauNsec type)) tauNsec := by
        by_contra refused
        exact notDefault (createScanPair_of_not_admits refused rdtNanosec)
      have below := (inUse.admits_iff defined).mp admitted
      have count :
          (pulseTrainLength tauNsec).toNat = tauNsec.toNat / 240000 + 1 := by
        rw [toNat_pulseTrainLength, Nat.mod_eq_of_lt defined]
      rw [createScanPair_of_admits admitted, count]
      refine ⟨_, .of_train inUse short (by omega) ?_ rdtNanosec⟩
      rcases pulse with ⟨oneLasts, few⟩ | ⟨_, longPulse⟩
      · have one : tauNsec.toNat / 240000 + 1 = 1 := by omega
        rw [one]
        omega
      · have toNatLong : (240000 : UInt32).toNat = 240000 := rfl
        rw [longPulse, toNatLong]
        omega

/-- The signal for a tracking query and a duration of 1 us is right. -/
theorem selectsSignal_iff_tracking : SelectsSignal 1000 .tracking 6671282 :=
  (selectsSignal_iff (by decide) 6671282).mpr (by decide)

/-- A search query with a duration of 100 ns is refused. -/
theorem shortSearch_not_selectsSignal :
    createScanPair (signalTbl (getSignalCode 100 .search)) 100 1000000 =
        .default ∧
      ¬ SelectsSignal 100 .search 1000000 := by
  have isDefault :=
    createScanPair_of_not_admits (not_admits_SOTS15 100) 1000000
  refine ⟨isDefault, ?_⟩
  intro selects
  exact absurd (selects.refused isDefault) (by decide)

/-! ## The pairs that are built -/

/-- Only the longest pulses are sent as a train. -/
theorem duration_of_train
    {tauNsec : UInt64}
    {type : QueryType}
    (probing : type ∈ probingTypes)
    (long : 100 < tauNsec.toNat)
    (isTrain : 1 < (pulseTrainLength tauNsec).toNat) :
    (signalTbl (getSignalCode tauNsec type)).duration = 240000 := by
  rw [toNat_pulseTrainLength] at isTrain
  rcases (getSignalCode_of_lt probing long).2 with ⟨_, few⟩ | ⟨_, longPulse⟩
  · omega
  · exact longPulse

/-- What is built for a target: the default pair, a pulse or a long train. -/
theorem buildScanPair_cases
    (equation : RadarEquation)
    (range rcs : Rat)
    (type : QueryType) :
    buildScanPair equation range rcs type = .default ∨
      ∃ length,
        CreatedPair (buildScanPair equation range rcs type) length ∧
          (1 < (buildScanPair equation range rcs type).size.toNat →
            length = 240000) := by
  rw [buildScanPair]
  generalize equation.tauNsec range rcs = tauNsec
  generalize equation.rdtNanosec range = rdtNanosec
  by_cases probing : type ∈ probingTypes
  · by_cases long : 100 < tauNsec.toNat
    · by_cases admitted :
          Admits (signalTbl (getSignalCode tauNsec type)) tauNsec
      · have created :=
          CreatedPair.of_createScanPair (getSignalCode tauNsec type)
            tauNsec rdtNanosec
        refine created.imp_right fun isCreated => ⟨_, isCreated, ?_⟩
        intro isTrain
        apply duration_of_train probing long
        rw [createScanPair_of_admits admitted, size_setReceiveTime] at isTrain
        have size :
            (ScanPair.train (pulseTrainLength tauNsec).toNat
              (signalTbl (getSignalCode tauNsec type)).duration).size.toNat =
              2 ^ ScanPair.sizeExponent (pulseTrainLength tauNsec).toNat :=
          ScanPair.toNat_size_ofSize _
        by_contra single
        rw [size, ScanPair.sizeExponent, if_pos (Nat.not_lt.mp single)]
          at isTrain
        exact absurd isTrain (by decide)
      · exact .inl (createScanPair_of_not_admits admitted rdtNanosec)
    · left
      rw [getSignalCode_of_le probing (Nat.not_lt.mp long)]
      exact createScanPair_of_not_admits (not_admits_SOTS15 tauNsec)
        rdtNanosec
  · left
    have unknown : getSignalCode tauNsec type = .SSS := by
      revert probing
      cases type <;> simp [probingTypes, getSignalCode]
    rw [unknown]
    exact CreatedPair.createScanPair_SSS tauNsec rdtNanosec

end Radar
