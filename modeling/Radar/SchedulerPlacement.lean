import Radar.ScanPair
import Radar.Timeline

namespace Radar

/-!
# Placing a scan on the timelines

`Scheduler::find_index` and `Scheduler::place_scan`.  Placement works on the
three timelines of the scheduler: the digital converter unit, the
transmitting antenna and the receiving antenna.  The sectors that a placement
labels are collected as a list of calls in source order, so that statements
about what is written where can quantify over them.
-/

/-- Kinds of control commands. -/
inductive CommandType where
  | nop
  | transmitCommand
  | receiveCommand
  | trRephaseCommand
  | rsRephaseCommand
  | protectCommand
  | techCommand
  deriving Repr, DecidableEq

/-- A control command; the default one does nothing. -/
structure ControlCommand where
  type : CommandType := .nop
  referanceTime : UInt64 := 0
  executionTime : UInt64 := 0
  executionLength : UInt32 := 0
  queryId : UInt32 := 0
  deriving Repr, DecidableEq

/-- The three timelines of the scheduler. -/
structure Timelines where
  dcu : Timeline
  trAu : Timeline
  rsAu : Timeline

/-- Selects one of the three timelines. -/
inductive TimelineName where
  | dcu
  | trAu
  | rsAu
  deriving Repr, DecidableEq

namespace Timelines

/-- The timelines of a freshly constructed scheduler. -/
def new : Timelines where
  dcu := .new
  trAu := .new
  rsAu := .new

/-- The timeline with a given name. -/
def get (lines : Timelines) : TimelineName → Timeline
  | .dcu => lines.dcu
  | .trAu => lines.trAu
  | .rsAu => lines.rsAu

/-- Replace the timeline with a given name. -/
def put (lines : Timelines) (line : Timeline) : TimelineName → Timelines
  | .dcu => { lines with dcu := line }
  | .trAu => { lines with trAu := line }
  | .rsAu => { lines with rsAu := line }

/-- Move all three timelines to a later time. -/
def moveTimeline (lines : Timelines) (time : UInt64) : Timelines where
  dcu := lines.dcu.moveTimeline time
  trAu := lines.trAu.moveTimeline time
  rsAu := lines.rsAu.moveTimeline time

@[simp] theorem get_moveTimeline
    (lines : Timelines)
    (time : UInt64)
    (name : TimelineName) :
    (lines.moveTimeline time).get name =
      (lines.get name).moveTimeline time := by
  cases name <;> rfl

end Timelines

/-- One call of `labelSector` on one of the timelines. -/
structure LabelCall where
  target : TimelineName
  startIdx : UInt32
  stopIdx : UInt32
  label : TimelineLabel
  deriving Repr, DecidableEq

namespace LabelCall

open Timeline in
/-- Label the chunks between two times relative to the first chunk. -/
def between
    (target : TimelineName)
    (startRel stopRel : UInt32)
    (label : TimelineLabel) :
    LabelCall where
  target := target
  startIdx := (getIdxFor startRel).toUInt32
  stopIdx := (getIdxFor stopRel).toUInt32
  label := label

@[simp] theorem startIdx_between
    (target : TimelineName)
    (startRel stopRel : UInt32)
    (label : TimelineLabel) :
    (between target startRel stopRel label).startIdx =
      (Timeline.getIdxFor startRel).toUInt32 := rfl

@[simp] theorem stopIdx_between
    (target : TimelineName)
    (startRel stopRel : UInt32)
    (label : TimelineLabel) :
    (between target startRel stopRel label).stopIdx =
      (Timeline.getIdxFor stopRel).toUInt32 := rfl

/-- Perform one call. -/
def perform (lines : Timelines) (call : LabelCall) : Timelines :=
  lines.put
    ((lines.get call.target).labelSector
      call.startIdx call.stopIdx call.label)
    call.target

end LabelCall

namespace Timelines

/-- Perform calls in order. -/
def performAll (lines : Timelines) (calls : List LabelCall) : Timelines :=
  calls.foldl LabelCall.perform lines

end Timelines

namespace Scheduler

open Settings

/--
Chunks needed for a length.  The source takes the ceiling of a `double`
quotient of a 32-bit length, which is the ceiling of the exact quotient.
-/
def chunkCount (length : UInt32) : UInt32 :=
  UInt32.ofNat ((length.toNat + 9999) / 10000)

/-- What the search loop carries from one chunk to the next. -/
structure SearchState where
  dcuSum : Nat := 0
  auSum : Nat := 0
  auIndices : Nat → Bool := fun _ => false

/-- Count one more chunk on the converter and the transmitting antenna. -/
def SearchState.count
    (state : SearchState)
    (lines : Timelines)
    (rphLength : UInt32)
    (idx : Nat) :
    SearchState :=
  let dcuSum :=
    if lines.dcu.getValueAt idx = .empty then state.dcuSum + 1 else 0
  let auSum :=
    if lines.trAu.getValueAt idx = .empty then state.auSum + 1 else 0
  { dcuSum := dcuSum
    auSum := auSum
    auIndices :=
      Function.update state.auIndices idx (decide (auSum > rphLength.toNat)) }

/--
Can the receive part go with a transmission that starts at `trIdx`?  The
chunks looked at begin at the range offset on the converter, and one phase
delay before it on the receiving antenna.
-/
def fitsReceive
    (lines : Timelines)
    (rsLength rphLength rangeOffset trIdx : UInt32) :
    Bool :=
  let rsStartTime := trIdx * timeChunkLength + rangeOffset
  let rsStartIdx := (Timeline.getIdxFor rsStartTime).toUInt32
  let rphStartTime := rsStartTime - phaseDelay
  let rphStartIdx := (Timeline.getIdxFor rphStartTime).toUInt32
  lines.dcu.checkIndex rsLength rsStartIdx
      (fun label => label = .empty ∨ label = .dcuEnergyRestore) &&
    lines.rsAu.checkIndex rphLength rphStartIdx (fun label => label = .empty)

/-- The search loop over the remaining chunk indices. -/
def searchFrom
    (lines : Timelines)
    (trLength rsLength rphLength rangeOffset : UInt32) :
    SearchState → List Nat → Option UInt32
  | _, [] => none
  | state, idx :: rest =>
      let counted := state.count lines rphLength idx
      if counted.dcuSum > trLength.toNat then
        let trIdx := UInt32.ofNat idx - trLength
        if counted.auIndices trIdx.toNat &&
            fitsReceive lines rsLength rphLength rangeOffset trIdx then
          some trIdx
        else
          searchFrom lines trLength rsLength rphLength rangeOffset
            counted rest
      else
        searchFrom lines trLength rsLength rphLength rangeOffset
          counted rest

/--
First chunk index at which a transmission and its receive part fit within the
planning depth; the `-1` of the source is `none`.
-/
def findIndex
    (lines : Timelines)
    (transmitLen receiveLen rangeOffset depth : UInt32) :
    Option UInt32 :=
  if chunkCount transmitLen ≥ depth then
    none
  else
    searchFrom lines (chunkCount transmitLen) (chunkCount receiveLen)
      (chunkCount phaseDelay) rangeOffset {} (List.range depth.toNat)

/-! ## Lengths that a placement derives from its scan pair -/

/-- Receive offset shifted back by the phase delay and the reserve. -/
def rangeOffsetLen (pair : ScanPair) : UInt32 :=
  multiplesOf (pair.receiveTime - phaseDelay - reserveTime) frequencyFactor

/-- Planning depth in chunks. -/
def planningDepth (pair : ScanPair) : UInt32 :=
  if pair.size = 1 then
    pulsePlanningDepth * planningStep
  else
    pulseTrainPlanningDepth * planningStep

/-- Repetition period of the pulses, zero for a single pulse. -/
def periodTime (pair : ScanPair) : UInt32 :=
  if pair.size = 1 then 0 else (pair.transmit.getD 1 {}).offsetTime

/-- Execution length of the transmit command. -/
def transmitLen (pair : ScanPair) : UInt32 :=
  if pair.size = 1 then
    multiplesOf
      ((pair.transmit.getD 0 {}).length * dutyFactor
        + 2 * frequencyDelay + blankDelay + reserveTime)
      frequencyFactor
  else
    multiplesOf
      (periodTime pair * pair.size + blankDelay
        + 2 * frequencyDelay + reserveTime)
      frequencyFactor

/-- Execution length of the receive command. -/
def receiveLen (pair : ScanPair) : UInt32 :=
  if pair.size = 1 then
    multiplesOf
      ((pair.receive.getD 0 {}).length + reserveTime) frequencyFactor
  else
    multiplesOf (periodTime pair * pair.size + reserveTime) frequencyFactor

/-! ## Sectors labelled by a placement at `idx` -/

/-- Sectors of the transmitting antenna. -/
def trAuCalls (idx : UInt32) : List LabelCall :=
  let rephaseStartRel := idx * timeChunkLength - phaseDelay
  let rephaseStopRel := rephaseStartRel + phaseDelay
  [.between .trAu rephaseStartRel rephaseStopRel .auRephase,
    .between .trAu rephaseStopRel
      (rephaseStopRel + (auCommandDelay - phaseDelay)) .auCommandDelay]

/-- Sectors of one transmission pulse and of the restore time after it. -/
def pulseCalls
    (rephaseStopRel periodTime : UInt32)
    (pulse : PulseDesc)
    (pulseIdx : Nat) :
    List LabelCall :=
  let transmitStartRel :=
    rephaseStopRel + blankDelay + reserveTime + frequencyDelay
      + UInt32.ofNat pulseIdx * periodTime
  let transmitStopRel := transmitStartRel + pulse.length + blankDelay
  let restoreStopRel := transmitStopRel + (dutyFactor - 1) * pulse.length
  [.between .dcu transmitStartRel transmitStopRel .dcuTransmit,
    .between .dcu transmitStopRel restoreStopRel .dcuEnergyRestore]

/-- Sectors of the transmission: its leading blank and every pulse. -/
def transmitCalls (pair : ScanPair) (idx : UInt32) : List LabelCall :=
  let rephaseStopRel := idx * timeChunkLength - phaseDelay + phaseDelay
  .between .dcu rephaseStopRel
      (rephaseStopRel + blankDelay + frequencyDelay + reserveTime)
      .dcuTransmit ::
    pair.transmit.zipIdx.flatMap fun (pulse, pulseIdx) =>
      pulseCalls rephaseStopRel (periodTime pair) pulse pulseIdx

/-- Sectors of the receiving antenna. -/
def rsAuCalls (pair : ScanPair) (idx : UInt32) : List LabelCall :=
  let rephaseStartRel :=
    idx * timeChunkLength - phaseDelay + phaseDelay + rangeOffsetLen pair
  let rephaseStopRel := rephaseStartRel + phaseDelay
  [.between .rsAu rephaseStartRel rephaseStopRel .auRephase,
    .between .rsAu rephaseStopRel
      (rephaseStopRel + (auCommandDelay - phaseDelay)) .auCommandDelay]

/-- Sectors of the reception: its leading reserve and every interval. -/
def receiveCalls (pair : ScanPair) (idx : UInt32) : List LabelCall :=
  let rephaseStopRel :=
    idx * timeChunkLength - phaseDelay + phaseDelay + rangeOffsetLen pair
      + phaseDelay
  .between .dcu rephaseStopRel (rephaseStopRel + reserveTime) .dcuReceive ::
    pair.receive.zipIdx.map fun (pulse, pulseIdx) =>
      let receiveStartRel :=
        rephaseStopRel + reserveTime
          + UInt32.ofNat pulseIdx * periodTime pair
      .between .dcu receiveStartRel (receiveStartRel + pulse.length)
        .dcuReceive

/-- All sectors that a placement labels, in source order. -/
def labelCalls (pair : ScanPair) (idx : UInt32) : List LabelCall :=
  trAuCalls idx ++ transmitCalls pair idx ++
    rsAuCalls pair idx ++ receiveCalls pair idx

/-! ## Commands issued by a placement at `idx` -/

/-- Execution time of the transmitter's phase change. -/
def transmitRephaseTime (startTime : UInt64) (idx : UInt32) : UInt64 :=
  startTime + (idx * timeChunkLength).toUInt64

/-- Execution time of the transmission. -/
def transmitExecTime (startTime : UInt64) (idx : UInt32) : UInt64 :=
  transmitRephaseTime startTime idx + phaseDelay.toUInt64

/-- Execution time of the receiver's phase change. -/
def receiveRephaseTime
    (pair : ScanPair)
    (startTime : UInt64)
    (idx : UInt32) :
    UInt64 :=
  transmitExecTime startTime idx + (rangeOffsetLen pair).toUInt64
    + reserveTime.toUInt64

/-- Execution time of the reception. -/
def receiveExecTime
    (pair : ScanPair)
    (startTime : UInt64)
    (idx : UInt32) :
    UInt64 :=
  receiveRephaseTime pair startTime idx + phaseDelay.toUInt64

/-- Execution time of switching the antenna protection. -/
def antennaProtectionTime
    (pair : ScanPair)
    (startTime : UInt64)
    (idx : UInt32) :
    UInt64 :=
  receiveExecTime pair startTime idx - channelSwitchDelay.toUInt64

/-- The five commands of a scan. -/
def scanCommands
    (pair : ScanPair)
    (startTime : UInt64)
    (idx queryId : UInt32) :
    List ControlCommand :=
  [⟨.transmitCommand,
      transmitExecTime startTime idx - reserveTime.toUInt64
        - blankDelay.toUInt64 - frequencyDelay.toUInt64,
      transmitExecTime startTime idx, transmitLen pair, queryId⟩,
    ⟨.trRephaseCommand, transmitRephaseTime startTime idx,
      transmitRephaseTime startTime idx, phaseDelay, queryId⟩,
    ⟨.protectCommand, antennaProtectionTime pair startTime idx,
      antennaProtectionTime pair startTime idx, channelSwitchDelay,
      queryId⟩,
    ⟨.rsRephaseCommand, receiveRephaseTime pair startTime idx,
      receiveRephaseTime pair startTime idx, phaseDelay, queryId⟩,
    ⟨.receiveCommand,
      receiveExecTime pair startTime idx - reserveTime.toUInt64,
      receiveExecTime pair startTime idx, receiveLen pair, queryId⟩]

/-- The index a placement finds for its scan pair. -/
def placementIndex (lines : Timelines) (pair : ScanPair) : Option UInt32 :=
  findIndex lines (transmitLen pair) (receiveLen pair)
    (rangeOffsetLen pair) (planningDepth pair)

/--
Place a scan.  The timelines are labelled as soon as an index is found; the
final comparison of the range offset may still answer with `nop`.
-/
def placeScan
    (lines : Timelines)
    (pair : ScanPair)
    (queryId : UInt32) :
    Timelines × List ControlCommand :=
  match placementIndex lines pair with
  | none => (lines, [{}])
  | some idx =>
      let labelled := lines.performAll (labelCalls pair idx)
      let startTime := labelled.dcu.startTime
      let rangeOffset :=
        receiveExecTime pair startTime idx - transmitExecTime startTime idx
      if rangeOffset ≠
          multiplesOf pair.receiveTime.toUInt64
            frequencyFactor.toUInt64 then
        (labelled, [{}])
      else
        (labelled, scanCommands pair startTime idx queryId)

end Scheduler

end Radar
