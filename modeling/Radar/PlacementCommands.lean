import Radar.PlacementFailure
import Radar.SchedulerVisits

namespace Radar.Scheduler

/-!
# The commands of a placement

The execution times of the five commands over the naturals, and the commands
that a call of `place_scan` can answer with.  The times do not wrap as long as
the first chunk is at least 5 s away from the end of the 64-bit clock.
-/

open Settings

section Times

variable
  {pair : ScanPair}
  {startTime : UInt64}
  {idx : UInt32}

theorem toNat_transmitRephaseTime
    (shallow : idx.toNat < 1500)
    (early : startTime.toNat + 5000000000 ≤ 2 ^ 64) :
    (transmitRephaseTime startTime idx).toNat =
      startTime.toNat + idx.toNat * 10000 := by
  rw [transmitRephaseTime, UInt64.toNat_add, UInt32.toNat_toUInt64,
    toNat_idx_mul shallow]
  exact Nat.mod_eq_of_lt (by omega)

theorem toNat_transmitExecTime
    (shallow : idx.toNat < 1500)
    (early : startTime.toNat + 5000000000 ≤ 2 ^ 64) :
    (transmitExecTime startTime idx).toNat =
      startTime.toNat + idx.toNat * 10000 + 270000 := by
  rw [transmitExecTime, UInt64.toNat_add, UInt32.toNat_toUInt64,
    toNat_transmitRephaseTime shallow early, toNat_phaseDelay]
  exact Nat.mod_eq_of_lt (by omega)

theorem toNat_receiveRephaseTime
    (shallow : idx.toNat < 1500)
    (early : startTime.toNat + 5000000000 ≤ 2 ^ 64) :
    (receiveRephaseTime pair startTime idx).toNat =
      startTime.toNat + idx.toNat * 10000 +
        (rangeOffsetLen pair).toNat + 275000 := by
  have := (rangeOffsetLen pair).toNat_lt
  rw [receiveRephaseTime, UInt64.toNat_add, UInt64.toNat_add,
    UInt32.toNat_toUInt64, UInt32.toNat_toUInt64,
    toNat_transmitExecTime shallow early, toNat_reserveTime]
  omega

theorem toNat_receiveExecTime
    (shallow : idx.toNat < 1500)
    (early : startTime.toNat + 5000000000 ≤ 2 ^ 64) :
    (receiveExecTime pair startTime idx).toNat =
      startTime.toNat + idx.toNat * 10000 +
        (rangeOffsetLen pair).toNat + 545000 := by
  have := (rangeOffsetLen pair).toNat_lt
  rw [receiveExecTime, UInt64.toNat_add, UInt32.toNat_toUInt64,
    toNat_receiveRephaseTime shallow early, toNat_phaseDelay]
  omega

theorem toNat_antennaProtectionTime
    (shallow : idx.toNat < 1500)
    (early : startTime.toNat + 5000000000 ≤ 2 ^ 64) :
    (antennaProtectionTime pair startTime idx).toNat =
      startTime.toNat + idx.toNat * 10000 +
        (rangeOffsetLen pair).toNat + 542000 := by
  have := (rangeOffsetLen pair).toNat_lt
  rw [antennaProtectionTime, UInt64.toNat_sub, UInt32.toNat_toUInt64,
    toNat_receiveExecTime shallow early, toNat_channelSwitchDelay]
  omega

/-- No command of a scan is due before its phase change. -/
theorem le_time_of_mem_scanCommands
    {queryId : UInt32}
    (shallow : idx.toNat < 1500)
    (early : startTime.toNat + 5000000000 ≤ 2 ^ 64)
    {command : ControlCommand}
    (member : command ∈ scanCommands pair startTime idx queryId) :
    startTime.toNat + idx.toNat * 10000 ≤
      command.executionTime.toNat := by
  simp only [scanCommands, List.mem_cons, List.not_mem_nil, or_false]
    at member
  rcases member with rfl | rfl | rfl | rfl | rfl
  · rw [toNat_transmitExecTime shallow early]
    omega
  · rw [toNat_transmitRephaseTime shallow early]
  · rw [toNat_antennaProtectionTime shallow early]
    omega
  · rw [toNat_receiveRephaseTime shallow early]
    omega
  · rw [toNat_receiveExecTime shallow early]
    omega

end Times

/-- A call that does more than `nop` has found an index for a late scan. -/
theorem placeScan_cases
    (lines : Timelines)
    (pair : ScanPair)
    (queryId : UInt32) :
    (placeScan lines pair queryId).2 = [{}] ∨
      ∃ idx, placementIndex lines pair = some idx ∧
        275000 ≤ pair.receiveTime.toNat ∧
        placeScan lines pair queryId =
          (lines.performAll (labelCalls pair idx),
            scanCommands pair lines.dcu.startTime idx queryId) := by
  cases found : placementIndex lines pair with
  | none =>
      rw [placeScan_of_none queryId found]
      exact .inl rfl
  | some idx =>
      by_cases late : 275000 ≤ pair.receiveTime.toNat
      · exact .inr ⟨idx, rfl, late, placeScan_of_late queryId found late⟩
      · rw [placeScan_of_early queryId found late]
        exact .inl rfl

/-- Placing a scan does not move the timelines. -/
theorem startTime_get_placeScan
    (lines : Timelines)
    (pair : ScanPair)
    (queryId : UInt32)
    (name : TimelineName) :
    ((placeScan lines pair queryId).1.get name).startTime =
      (lines.get name).startTime := by
  cases found : placementIndex lines pair with
  | none =>
      rw [placeScan_of_none queryId found]
  | some idx =>
      by_cases late : 275000 ≤ pair.receiveTime.toNat
      · rw [placeScan_of_late queryId found late]
        simp only [Timelines.startTime_get_performAll]
      · rw [placeScan_of_early queryId found late]
        simp only [Timelines.startTime_get_performAll]

/-! ## The timelines that a tick shows to its calls -/

variable (platform : Platform)

/-- Every call of a tick finds the timelines at the start time of the tick. -/
theorem startTime_of_mem_visitsFrom
    {queries : List Query}
    {lines : Timelines}
    {visit : Visit}
    (member : visit ∈ visitsFrom platform queries lines)
    {call : ScanCall}
    (makes : visit.call = some call)
    (name : TimelineName) :
    (call.lines.get name).startTime = (lines.get name).startTime := by
  induction queries generalizing lines with
  | nil =>
      cases member
  | cons query rest inductionHypothesis =>
      rcases List.mem_cons.mp member with rfl | later
      · simp only [Scheduler.visit] at makes
        split at makes
        · cases makes
          rfl
        · cases makes
      · rw [inductionHypothesis later]
        unfold Visit.linesAfter Scheduler.visit
        split
        · next placed =>
            split at placed
            · cases placed
              exact startTime_get_placeScan ..
            · cases placed
        · rfl

/-- The timelines of a tick all start when those of its first call do. -/
theorem startTime_linesAfter
    (queries : List Query)
    (lines : Timelines)
    (name : TimelineName) :
    ((linesAfter (visitsFrom platform queries lines) lines).get
        name).startTime =
      (lines.get name).startTime := by
  induction queries generalizing lines with
  | nil =>
      rfl
  | cons query rest inductionHypothesis =>
      change ((linesAfter (visitsFrom platform rest _) _).get
        name).startTime = _
      rw [inductionHypothesis]
      unfold Visit.linesAfter Scheduler.visit
      split
      · next placed =>
          split at placed
          · cases placed
            exact startTime_get_placeScan ..
          · cases placed
      · rfl

end Radar.Scheduler
