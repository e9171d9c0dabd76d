import Radar.BookedCommands
import Radar.PlacementCommands
import Radar.SchedulerVisits
import Radar.TransmitWindow

namespace Radar.Scheduler

/-!
# Placements and ticks that keep commands booked

A placement books its chunks for five commands.  If the chunks that nobody
has looked at are free as well, the commands join those that wait; a tick does
so for each of its scans.
-/

open Settings
open CommandProcessor (precursors reserve transmitReserve)

/--
The chunks that the placement of a scan books for its commands, without
looking at them, are free: 24 chunks on the transmitting antenna after the
first chunk, and 52 chunks on the receiving antenna from the chunk of the
receive part on, whose time must not wrap.
-/
structure HasCommandRoom
    (lines : Timelines)
    (pair : ScanPair)
    (idx : UInt32) :
    Prop where
  trAu :
    lines.trAu.checkIndex 24 (idx + 1) (fun label => label = .empty) = true
  unwrapped :
    idx.toNat * 10000 + (rangeOffsetLen pair).toNat < 2 ^ 32
  rsAu :
    lines.rsAu.checkIndex 52
      (Timeline.getIdxFor (rsStartTime pair idx)).toUInt32
      (fun label => label = .empty) = true

instance (lines : Timelines) (pair : ScanPair) (idx : UInt32) :
    Decidable (HasCommandRoom lines pair idx) :=
  decidable_of_iff (_ ∧ _ ∧ _)
    ⟨fun ⟨trAu, unwrapped, rsAu⟩ => ⟨trAu, unwrapped, rsAu⟩,
      fun ⟨trAu, unwrapped, rsAu⟩ => ⟨trAu, unwrapped, rsAu⟩⟩

/-- All three timelines start at a time on a chunk boundary. -/
structure StartsAt (lines : Timelines) (time : UInt64) : Prop where
  startTime : ∀ name, (lines.get name).startTime = time
  boundary : time.toNat % 10000 = 0

theorem StartsAt.baseChunk_mul
    {lines : Timelines}
    {time : UInt64}
    (starts : StartsAt lines time)
    (name : TimelineName) :
    (lines.get name).baseChunk * 10000 = time.toNat := by
  have boundary := starts.boundary
  rw [Timeline.baseChunk, starts.startTime name]
  omega

/-- Chunks seen empty form a vacant sector. -/
theorem vacant_of_empty
    {line : Timeline}
    {first count : Nat}
    (empty :
      ∀ idx, first ≤ idx → idx ≤ first + count →
        line.getValueAt idx = .empty) :
    Vacant line (line.baseChunk + first)
      (line.baseChunk + first + count) := by
  intro chunk lower upper busy
  obtain ⟨idx, rfl⟩ := Nat.exists_eq_add_of_le
    (Nat.le_trans (Nat.le_add_right ..) lower)
  exact busy.false_of_empty rfl (empty idx (by omega) (by omega))

section Placement

variable
  {lines : Timelines}
  {pair : ScanPair}
  {idx : UInt32}
  {time : UInt64}

/-- A placement with room for its commands knows when its receive part starts. -/
theorem HasCommandRoom.rsStartTime_eq
    (room : HasCommandRoom lines pair idx)
    (shallow : idx.toNat < 1500) :
    (rsStartTime pair idx).toNat =
      idx.toNat * 10000 + (rangeOffsetLen pair).toNat := by
  rw [rsStartTime, UInt32.toNat_add, toNat_idx_mul shallow]
  exact Nat.mod_eq_of_lt room.unwrapped

/-- The chunks checked on the receiving antenna exist and are empty. -/
theorem HasCommandRoom.rsAu_empty
    (room : HasCommandRoom lines pair idx) :
    rsFirstChunk pair idx + 51 < 100000 ∧
      ∀ chunk, rsFirstChunk pair idx ≤ chunk →
        chunk ≤ rsFirstChunk pair idx + 51 →
        lines.rsAu.getValueAt chunk = .empty := by
  have checked := room.rsAu
  simp only [Timeline.checkIndex_eq_true_iff, decide_eq_true_eq,
    ← rsFirstChunk.eq_def] at checked
  obtain ⟨_, _, free⟩ := checked
  refine ⟨(free 51 (by decide)).1, ?_⟩
  intro chunk lower upper
  have isEmpty := (free (chunk - rsFirstChunk pair idx)
    (Nat.lt_of_lt_of_eq (by omega : _ < 52) rfl)).2
  rwa [Nat.add_sub_cancel' lower] at isEmpty

/-- The chunks checked on the transmitting antenna are empty. -/
theorem HasCommandRoom.trAu_empty
    (room : HasCommandRoom lines pair idx)
    (shallow : idx.toNat < 1500)
    {chunk : Nat}
    (lower : idx.toNat + 1 ≤ chunk)
    (upper : chunk ≤ idx.toNat + 24) :
    lines.trAu.getValueAt chunk = .empty := by
  have next : (idx + 1).toNat = idx.toNat + 1 := by
    have noWrap : idx.toNat + 1 < 2 ^ 32 := by omega
    rw [UInt32.toNat_add]
    exact Nat.mod_eq_of_lt noWrap
  have checked := room.trAu
  simp only [Timeline.checkIndex_eq_true_iff, decide_eq_true_eq, next]
    at checked
  obtain ⟨_, _, free⟩ := checked
  have isEmpty := (free (chunk - (idx.toNat + 1))
    (Nat.lt_of_lt_of_eq (by omega : _ < 24) rfl)).2
  rwa [Nat.add_sub_cancel' lower] at isEmpty

/-- What a placement needs to keep every distance of the protocol. -/
structure GoodPlacement
    (lines : Timelines)
    (pair : ScanPair)
    (idx : UInt32)
    (time : UInt64) :
    Prop where
  found : placementIndex lines pair = some idx
  regular : ∃ length, RegularPair pair length
  room : HasCommandRoom lines pair idx
  starts : StartsAt lines time
  early : time.toNat + 5000000000 ≤ 2 ^ 64

namespace GoodPlacement

theorem shallow
    (good : GoodPlacement lines pair idx time) :
    idx.toNat < 1500 :=
  (bounds_of_placementIndex good.found).2

theorem phaseRoom
    (good : GoodPlacement lines pair idx time) :
    27 ≤ idx.toNat :=
  (bounds_of_placementIndex good.found).1

/-- Execution time of the receiver's phase change, from the receive part. -/
theorem toNat_receiveRephaseTime
    (good : GoodPlacement lines pair idx time) :
    (receiveRephaseTime pair time idx).toNat =
      time.toNat + (rsStartTime pair idx).toNat + 275000 := by
  rw [Scheduler.toNat_receiveRephaseTime good.shallow good.early,
    good.room.rsStartTime_eq good.shallow]
  omega

/-- Execution time of the transmission, from its absolute chunk. -/
theorem transmitExecTime_eq_chunk
    (good : GoodPlacement lines pair idx time) :
    (transmitExecTime time idx).toNat =
      (lines.dcu.baseChunk + idx.toNat) * 10000 + 270000 := by
  have base := good.starts.baseChunk_mul .dcu
  rw [toNat_transmitExecTime good.shallow good.early, ← base, Nat.add_mul]
  rfl

/-- Execution time of the transmitter's phase change, from its chunk. -/
theorem transmitRephaseTime_eq_chunk
    (good : GoodPlacement lines pair idx time) :
    (transmitRephaseTime time idx).toNat =
      (lines.trAu.baseChunk + idx.toNat) * 10000 := by
  have base := good.starts.baseChunk_mul .trAu
  rw [toNat_transmitRephaseTime good.shallow good.early, ← base, Nat.add_mul]
  rfl

/-- Absolute chunk of the receive part. -/
theorem chunkFor_rsStartTime
    (good : GoodPlacement lines pair idx time) :
    Timeline.chunkFor (time.toNat + (rsStartTime pair idx).toNat) =
      lines.rsAu.baseChunk + rsFirstChunk pair idx := by
  have base := good.starts.baseChunk_mul .rsAu
  change lines.rsAu.baseChunk * 10000 = _ at base
  rw [rsFirstChunk,
    Timeline.toNat_getIdxFor_of_le (rsStartTime_bounds good.found).2, ← base,
    Nat.add_comm, chunkFor_add_mul, Nat.add_comm]

/-- The chunks of a transmission, rounded up. -/
theorem toNat_chunkCount_transmitLen (pair : ScanPair) :
    (chunkCount (transmitLen pair)).toNat =
      ((transmitLen pair).toNat + 9999) / 10000 := by
  have bounded := (transmitLen pair).toNat_lt
  have noWrap : ((transmitLen pair).toNat + 9999) / 10000 < 2 ^ 32 := by
    omega
  rw [chunkCount]
  exact UInt32.toNat_ofNat_of_lt' noWrap

/-- A transmission takes a few thousand chunks at most. -/
theorem transmitLen_bounds
    (good : GoodPlacement lines pair idx time) :
    10000 ≤ (transmitLen pair).toNat ∧
      (transmitLen pair).toNat ≤ 30740000 := by
  obtain ⟨length, regular⟩ := good.regular
  obtain ⟨_, atMost⟩ := RegularPair.size_bounds pair
  have short := regular.short
  have product : length.toNat * pair.size.toNat ≤ 240000 * 16 :=
    Nat.mul_le_mul short atMost
  rw [regular.toNat_transmitLen]
  omega

/-- Every command of a good placement finds its sector vacant. -/
theorem findsVacant
    (good : GoodPlacement lines pair idx time)
    {queryId : UInt32}
    {command : ControlCommand}
    (member : command ∈ scanCommands pair time idx queryId) :
    FindsVacant lines command := by
  have shallow := good.shallow
  have phaseRoom := good.phaseRoom
  obtain ⟨_, fits, _⟩ := findIndex_eq_some_iff.mp good.found
  simp only [scanCommands, List.mem_cons, List.not_mem_nil, or_false]
    at member
  rcases member with rfl | rfl | rfl | rfl | rfl
  · refine ⟨lines.dcu.baseChunk + idx.toNat, ?_, ?_⟩
    · exact good.transmitExecTime_eq_chunk
    · dsimp only
      rw [← toNat_chunkCount_transmitLen]
      exact vacant_of_empty fits.dcuEmpty
  · refine ⟨lines.trAu.baseChunk + idx.toNat, ?_, ?_⟩
    · exact good.transmitRephaseTime_eq_chunk
    · have vacant :
          Vacant lines.trAu (lines.trAu.baseChunk + (idx.toNat - 26))
            (lines.trAu.baseChunk + (idx.toNat - 26) + 50) := by
        apply vacant_of_empty
        intro chunk lower upper
        by_cases looked : chunk ≤ idx.toNat
        · have rphLength : (chunkCount phaseDelay).toNat = 27 := rfl
          exact fits.auEmpty chunk (by omega) looked
        · exact good.room.trAu_empty shallow (by omega) (by omega)
      intro chunk lower upper
      exact vacant chunk (by omega) (by omega)
  · trivial
  · refine ⟨time.toNat + (rsStartTime pair idx).toNat, ?_, ?_⟩
    · exact good.toNat_receiveRephaseTime
    · obtain ⟨_, inRange, _, before⟩ := receive_checked good.found
      obtain ⟨_, after⟩ := good.room.rsAu_empty
      have vacant :
          Vacant lines.rsAu
            (lines.rsAu.baseChunk + (rsFirstChunk pair idx - 1))
            (lines.rsAu.baseChunk + (rsFirstChunk pair idx - 1) + 52) := by
        apply vacant_of_empty
        intro chunk lower upper
        by_cases looked : chunk < rsFirstChunk pair idx
        · exact before chunk (by omega) looked
        · exact after chunk (by omega) (by omega)
      rw [good.chunkFor_rsStartTime]
      intro chunk lower upper
      exact vacant chunk (by omega) (by omega)
  · trivial

/-- What a placement labels is busy afterwards. -/
private theorem sector_performAll
    {target : TimelineName}
    {first last : Nat}
    (inRing : last < 100000)
    (written :
      ∀ chunk, first ≤ chunk → chunk ≤ last →
        ∃ call ∈ labelCalls pair idx,
          call.target = target ∧ call.Writes chunk) :
    Sector ((lines.performAll (labelCalls pair idx)).get target)
      ((lines.get target).baseChunk + first)
      ((lines.get target).baseChunk + last) := by
  intro chunk lower upper
  obtain ⟨offset, rfl⟩ := Nat.exists_eq_add_of_le
    (Nat.le_trans (Nat.le_add_right ..) lower)
  obtain ⟨call, member, rfl, writes⟩ :=
    written offset (by omega) (by omega)
  exact Timelines.busy_performAll_of_writes
    (fun _ => label_ne_empty_of_mem_labelCalls) member (by omega) writes

/-- After a good placement the chunks of its transmission are busy. -/
theorem dcu_busy
    (good : GoodPlacement lines pair idx time) :
    Sector ((lines.performAll (labelCalls pair idx)).get .dcu)
      ((lines.get .dcu).baseChunk + (idx.toNat + 1))
      ((lines.get .dcu).baseChunk +
        (idx.toNat + (transmitLen pair).toNat / 10000)) := by
  have shallow := good.shallow
  obtain ⟨length, regular⟩ := good.regular
  obtain ⟨_, short⟩ := good.transmitLen_bounds
  apply sector_performAll (by omega)
  intro chunk lower upper
  obtain ⟨call, inTransmit, writes⟩ :=
    writes_transmitCalls regular shallow lower upper
  exact ⟨call, mem_labelCalls_iff.mpr (.inr (.inl inTransmit)),
    (target_of_mem_transmitCalls inTransmit).1, writes⟩

/-- So are the chunks of the transmitter's phase change. -/
theorem trAu_busy
    (good : GoodPlacement lines pair idx time) :
    Sector ((lines.performAll (labelCalls pair idx)).get .trAu)
      ((lines.get .trAu).baseChunk + (idx.toNat - 26))
      ((lines.get .trAu).baseChunk + (idx.toNat + 24)) := by
  have shallow := good.shallow
  have phaseRoom := good.phaseRoom
  apply sector_performAll (by omega)
  intro chunk lower upper
  obtain ⟨call, inTrAu, writes⟩ :=
    (writes_trAuCalls_iff phaseRoom shallow (by omega)).mpr ⟨lower, upper⟩
  exact ⟨call, mem_labelCalls_iff.mpr (.inl inTrAu),
    (target_of_mem_trAuCalls inTrAu).1, writes⟩

/-- So are the chunks of the receiver's phase change. -/
theorem rsAu_busy
    (good : GoodPlacement lines pair idx time) :
    Sector ((lines.performAll (labelCalls pair idx)).get .rsAu)
      ((lines.get .rsAu).baseChunk + rsFirstChunk pair idx)
      ((lines.get .rsAu).baseChunk + (rsFirstChunk pair idx + 50)) := by
  obtain ⟨_, inHorizon⟩ := rsStartTime_bounds good.found
  obtain ⟨onRing, _⟩ := good.room.rsAu_empty
  have last : rsLastChunk pair idx = rsFirstChunk pair idx + 50 := by
    apply rsLastChunk_eq
    rw [rsFirstChunk, Timeline.toNat_getIdxFor_of_le inHorizon,
      Timeline.chunkFor] at onRing
    split at onRing <;> omega
  apply sector_performAll (by omega)
  intro chunk lower upper
  obtain ⟨call, inRsAu, writes⟩ :=
    (writes_rsAuCalls_iff inHorizon).mpr
      ⟨chunk, lower, by rw [last]; exact upper, rfl⟩
  exact ⟨call, mem_labelCalls_iff.mpr (.inr (.inr (.inl inRsAu))),
    (target_of_mem_rsAuCalls inRsAu).1, writes⟩

/-- After a good placement every command has its sector. -/
theorem holdsChunks
    (good : GoodPlacement lines pair idx time)
    {queryId : UInt32}
    {command : ControlCommand}
    (member : command ∈ scanCommands pair time idx queryId) :
    HoldsChunks (lines.performAll (labelCalls pair idx)) command := by
  have phaseRoom := good.phaseRoom
  simp only [scanCommands, List.mem_cons, List.not_mem_nil, or_false]
    at member
  rcases member with rfl | rfl | rfl | rfl | rfl
  · refine ⟨lines.dcu.baseChunk + idx.toNat, ?_, ?_, ?_⟩
    · exact good.transmitExecTime_eq_chunk
    · exact good.transmitLen_bounds.1
    · have busy := good.dcu_busy
      simp only [← Nat.add_assoc] at busy
      exact busy
  · refine ⟨lines.trAu.baseChunk + idx.toNat, ?_, ?_⟩
    · exact good.transmitRephaseTime_eq_chunk
    · intro chunk lower upper
      exact good.trAu_busy chunk
        (by change lines.trAu.baseChunk + _ ≤ _; omega)
        (by change _ ≤ lines.trAu.baseChunk + _; omega)
  · trivial
  · refine ⟨time.toNat + (rsStartTime pair idx).toNat, ?_, ?_⟩
    · exact good.toNat_receiveRephaseTime
    · rw [good.chunkFor_rsStartTime, Nat.add_assoc]
      exact good.rsAu_busy
  · trivial

/-- The commands of one placement are of five different types. -/
theorem spaced_scanCommands
    (pair : ScanPair)
    (startTime : UInt64)
    (idx queryId : UInt32) :
    (scanCommands pair startTime idx queryId).Pairwise Spaced := by
  have differ :
      (scanCommands pair startTime idx queryId).Pairwise
        fun first second => first.type ≠ second.type := by
    rw [← List.pairwise_map]
    exact (by decide :
      [CommandType.transmitCommand, .trRephaseCommand, .protectCommand,
        .rsRephaseCommand, .receiveCommand].Pairwise (· ≠ ·))
  exact differ.imp Spaced.of_ne

/-- Each command of a good placement keeps the reserve that it needs. -/
theorem reference
    (good : GoodPlacement lines pair idx time)
    {queryId : UInt32}
    {command : ControlCommand}
    (member : command ∈ scanCommands pair time idx queryId)
    {needed : UInt32}
    (needs : reserve command.type = some needed) :
    command.referanceTime.toNat + needed.toNat ≤ command.time := by
  have shallow := good.shallow
  simp only [scanCommands, List.mem_cons, List.not_mem_nil, or_false]
    at member
  rcases member with rfl | rfl | rfl | rfl | rfl
  · have isReserve : transmitReserve.toNat = 11200 := rfl
    cases needs
    change (transmitExecTime time idx - reserveTime.toUInt64
      - blankDelay.toUInt64 - frequencyDelay.toUInt64).toNat + _ ≤
        (transmitExecTime time idx).toNat
    have exec := toNat_transmitExecTime shallow good.early
    have bounded := (transmitExecTime time idx).toNat_lt
    rw [isReserve, UInt64.toNat_sub, UInt64.toNat_sub, UInt64.toNat_sub]
    simp only [UInt32.toNat_toUInt64, toNat_reserveTime, toNat_blankDelay,
      toNat_frequencyDelay]
    omega
  · cases needs
  · cases needs
  · cases needs
  · cases needs
    change (receiveExecTime pair time idx - reserveTime.toUInt64).toNat +
      _ ≤ (receiveExecTime pair time idx).toNat
    have exec : (receiveExecTime pair time idx).toNat = _ :=
      toNat_receiveExecTime shallow good.early
    have bounded := (receiveExecTime pair time idx).toNat_lt
    rw [UInt64.toNat_sub]
    simp only [UInt32.toNat_toUInt64, toNat_reserveTime]
    omega

/-- After a good placement its commands are booked. -/
theorem booked
    (good : GoodPlacement lines pair idx time)
    (queryId : UInt32) :
    Booked (lines.performAll (labelCalls pair idx))
      (scanCommands pair time idx queryId) where
  holds _ member := good.holdsChunks member
  spaced := spaced_scanCommands pair time idx queryId
  reference _ member _ needs := good.reference member needs

end GoodPlacement

end Placement

/-! ## One call of `place_scan` -/

theorem StartsAt.placeScan
    {lines : Timelines}
    {time : UInt64}
    (starts : StartsAt lines time)
    (pair : ScanPair)
    (queryId : UInt32) :
    StartsAt (placeScan lines pair queryId).1 time where
  startTime name := by
    rw [startTime_get_placeScan]
    exact starts.startTime name
  boundary := starts.boundary

/-- Commands without a sector are booked anywhere. -/
theorem Booked.idle
    (lines : Timelines)
    {command : ControlCommand}
    (isIdle : command.type = .nop ∨ command.type = .techCommand) :
    Booked lines [command] ∧ FindsVacant lines command := by
  have noSector :
      HoldsChunks lines command ∧ FindsVacant lines command := by
    rcases isIdle with isNop | isTech
    · simp [HoldsChunks, FindsVacant, isNop]
    · simp [HoldsChunks, FindsVacant, isTech]
  refine ⟨⟨?_, List.pairwise_singleton .., ?_⟩, noSector.2⟩
  · intro other member
    rw [List.mem_singleton.mp member]
    exact noSector.1
  · intro other member needed needs
    rw [List.mem_singleton.mp member] at needs
    rcases isIdle with isNop | isTech
    · simp [isNop, reserve] at needs
    · simp [isTech, reserve] at needs

/-- The room that a call of `place_scan` needs for its commands. -/
def CallHasRoom (call : ScanCall) : Prop :=
  ∀ idx ∈ placementIndex call.lines call.pair,
    phaseDelay.toNat + reserveTime.toNat ≤ call.pair.receiveTime.toNat →
    HasCommandRoom call.lines call.pair idx

instance (call : ScanCall) : Decidable (CallHasRoom call) :=
  decidable_of_iff
    ((placementIndex call.lines call.pair).all fun idx =>
      decide
        (phaseDelay.toNat + reserveTime.toNat ≤ call.pair.receiveTime.toNat →
          HasCommandRoom call.lines call.pair idx))
    (by simp only [CallHasRoom, Option.all_eq_true, decide_eq_true_eq,
      Option.mem_def])

/-- A call that has room, for a built pair, keeps everything booked. -/
theorem Booked.placeScan
    {lines : Timelines}
    {waiting : List ControlCommand}
    {time : UInt64}
    {equation : RadarEquation}
    {range rcs : Rat}
    {type : QueryType}
    (booked : Booked lines waiting)
    (starts : StartsAt lines time)
    (early : time.toNat + 5000000000 ≤ 2 ^ 64)
    (queryId : UInt32)
    (room :
      CallHasRoom
        ⟨lines, buildScanPair equation range rcs type, queryId⟩) :
    Booked
      (placeScan lines (buildScanPair equation range rcs type) queryId).1
      ((placeScan lines (buildScanPair equation range rcs type) queryId).2 ++
        waiting) := by
  generalize isBuilt : buildScanPair equation range rcs type = pair at *
  have isNop :
      ({} : ControlCommand).type = .nop ∨
        ({} : ControlCommand).type = .techCommand := .inl rfl
  cases found : placementIndex lines pair with
  | none =>
      rw [placeScan_of_none queryId found]
      obtain ⟨own, finds⟩ := Booked.idle lines isNop
      exact booked.append (fun _ _ busy => busy) own (by simpa using finds)
  | some idx =>
      have keeps :
          ∀ name chunk, (lines.get name).Busy chunk →
            ((lines.performAll (labelCalls pair idx)).get name).Busy
              chunk :=
        fun _ _ busy =>
          Timelines.busy_performAll
            (fun _ => label_ne_empty_of_mem_labelCalls) busy
      by_cases late : 275000 ≤ pair.receiveTime.toNat
      · rw [placeScan_of_late queryId found late]
        have regular :=
          RegularPair.of_buildScanPair equation range rcs type
        rw [isBuilt] at regular
        have good : GoodPlacement lines pair idx time :=
          ⟨found, regular, room idx found late, starts, early⟩
        have atTime : lines.dcu.startTime = time := starts.startTime .dcu
        rw [atTime]
        dsimp only
        exact booked.append keeps (good.booked queryId)
          (fun _ member => good.findsVacant member)
      · rw [placeScan_of_early queryId found late]
        dsimp only
        obtain ⟨own, _⟩ :=
          Booked.idle (lines.performAll (labelCalls pair idx)) isNop
        obtain ⟨_, finds⟩ := Booked.idle lines isNop
        exact booked.append keeps own (by simpa using finds)

/-! ## One tick -/

variable (platform : Platform)

/-- A visit starts and leaves the timelines at the time of its tick. -/
theorem StartsAt.visit
    {lines : Timelines}
    {time : UInt64}
    (starts : StartsAt lines time)
    (query : Query) :
    StartsAt ((visit platform lines query).linesAfter lines) time := by
  unfold Visit.linesAfter Scheduler.visit
  by_cases scanned : query.ready && scans query.type
  · simp only [scanned, if_true]
    exact starts.placeScan ..
  · simp only [scanned]
    exact starts

/-- A visit keeps everything booked if its call has room. -/
theorem Booked.visit
    {lines : Timelines}
    {waiting : List ControlCommand}
    {time : UInt64}
    (booked : Booked lines waiting)
    (starts : StartsAt lines time)
    (early : time.toNat + 5000000000 ≤ 2 ^ 64)
    (query : Query)
    (room :
      ∀ call ∈ (visit platform lines query).call, CallHasRoom call) :
    Booked ((visit platform lines query).linesAfter lines)
      ((visit platform lines query).issued time ++ waiting) := by
  unfold Visit.linesAfter Visit.issued Scheduler.visit at *
  by_cases scanned : query.ready && scans query.type
  · simp only [scanned, if_true] at room ⊢
    exact booked.placeScan starts early query.id
      (room (scanCall platform lines query) rfl)
  · simp only [scanned, Bool.false_eq_true, if_false]
    split
    · obtain ⟨own, finds⟩ := Booked.idle lines
        (.inr rfl : (techCommand time query).type = .nop ∨ _)
      exact booked.append (fun _ _ busy => busy) own (by simpa using finds)
    · exact booked

/-- The visits of a tick keep everything booked if all their calls have room. -/
theorem Booked.visitsFrom
    {queries : List Query}
    {lines : Timelines}
    {waiting : List ControlCommand}
    {time : UInt64}
    (booked : Booked lines waiting)
    (starts : StartsAt lines time)
    (early : time.toNat + 5000000000 ≤ 2 ^ 64)
    (room :
      ∀ call ∈ (visitsFrom platform queries lines).filterMap Visit.call,
        CallHasRoom call) :
    Booked (linesAfter (visitsFrom platform queries lines) lines)
      ((visitsFrom platform queries lines).flatMap (Visit.issued time) ++
        waiting) := by
  induction queries generalizing lines waiting with
  | nil =>
      exact booked
  | cons query rest inductionHypothesis =>
      have first :=
        booked.visit platform starts early query (by
          intro call makes
          apply room
          rw [Scheduler.visitsFrom]
          exact List.mem_filterMap.mpr ⟨_, List.mem_cons_self, makes⟩)
      have later :=
        inductionHypothesis first (starts.visit platform query) (by
          intro call member
          apply room
          obtain ⟨visit, inRest, makes⟩ := List.mem_filterMap.mp member
          rw [Scheduler.visitsFrom]
          exact List.mem_filterMap.mpr
            ⟨visit, List.mem_cons_of_mem _ inRest, makes⟩)
      rw [Scheduler.visitsFrom, List.flatMap_cons, List.append_assoc]
      exact later.of_perm (List.perm_append_comm_assoc ..)

/-- Every call of a tick has room for the commands of its scan. -/
structure HasRoom (scheduler : Scheduler) (time : UInt64) : Prop where
  early : time.toNat + 5000000000 ≤ 2 ^ 64
  calls : ∀ call ∈ calls platform scheduler time, CallHasRoom call

instance (scheduler : Scheduler) (time : UInt64) :
    Decidable (HasRoom platform scheduler time) :=
  decidable_of_iff (_ ∧ _)
    ⟨fun ⟨early, calls⟩ => ⟨early, calls⟩,
      fun ⟨early, calls⟩ => ⟨early, calls⟩⟩

/-- The timelines of a tick start at its time. -/
theorem StartsAt.run
    {scheduler : Scheduler}
    {time : UInt64}
    (starts : StartsAt (scheduler.lines.moveTimeline time) time) :
    StartsAt (run platform scheduler time).1.lines time where
  startTime name := by
    rw [run_lines, visits, startTime_linesAfter]
    exact starts.startTime name
  boundary := starts.boundary

/-- A tick keeps everything booked if all its calls have room. -/
theorem Booked.run
    {scheduler : Scheduler}
    {waiting : List ControlCommand}
    {time : UInt64}
    (booked : Booked (scheduler.lines.moveTimeline time) waiting)
    (starts : StartsAt (scheduler.lines.moveTimeline time) time)
    (room : HasRoom platform scheduler time) :
    Booked (run platform scheduler time).1.lines
      ((run platform scheduler time).2 ++ waiting) := by
  rw [run_lines, run_commands]
  exact booked.visitsFrom platform starts room.early room.calls

/-! ## Precursors of the issued commands -/

/-- A command of a type for the same query, exactly a delay before another. -/
structure PrecedesBy
    (type : CommandType)
    (delay : UInt32)
    (other command : ControlCommand) :
    Prop where
  type : other.type = type
  queryId : other.queryId = command.queryId
  time : other.time + delay.toNat = command.time

/-- The commands of a scan precede each other by the delays of the protocol. -/
theorem precedesBy_of_mem_scanCommands
    {pair : ScanPair}
    {startTime : UInt64}
    {idx queryId : UInt32}
    (shallow : idx.toNat < 1500)
    (early : startTime.toNat + 5000000000 ≤ 2 ^ 64)
    {command : ControlCommand}
    (member : command ∈ scanCommands pair startTime idx queryId)
    {need : CommandType × UInt32}
    (needed : need ∈ precursors command.type) :
    ∃ other ∈ scanCommands pair startTime idx queryId,
      PrecedesBy need.1 need.2 other command := by
  simp only [scanCommands, List.mem_cons, List.not_mem_nil, or_false]
    at member
  rcases member with rfl | rfl | rfl | rfl | rfl
  · obtain rfl := List.mem_singleton.mp needed
    refine ⟨_, List.mem_cons_of_mem _ List.mem_cons_self, rfl, rfl, ?_⟩
    change (transmitRephaseTime startTime idx).toNat + phaseDelay.toNat =
      (transmitExecTime startTime idx).toNat
    rw [toNat_transmitRephaseTime shallow early,
      toNat_transmitExecTime shallow early, toNat_phaseDelay]
  · cases needed
  · cases needed
  · cases needed
  · have execution : (receiveExecTime pair startTime idx).toNat = _ :=
      toNat_receiveExecTime shallow early
    have protection :
        (antennaProtectionTime pair startTime idx).toNat +
            channelSwitchDelay.toNat =
          (receiveExecTime pair startTime idx).toNat := by
      have switched : (antennaProtectionTime pair startTime idx).toNat = _ :=
        toNat_antennaProtectionTime shallow early
      rw [toNat_channelSwitchDelay]
      omega
    have rephase :
        (receiveRephaseTime pair startTime idx).toNat + phaseDelay.toNat =
          (receiveExecTime pair startTime idx).toNat := by
      have rephased : (receiveRephaseTime pair startTime idx).toNat = _ :=
        toNat_receiveRephaseTime shallow early
      rw [toNat_phaseDelay]
      omega
    rcases List.mem_pair.mp needed with rfl | rfl
    · refine ⟨_, List.mem_cons_of_mem _ (List.mem_cons_of_mem _
        List.mem_cons_self), rfl, rfl, protection⟩
    · refine ⟨_, List.mem_cons_of_mem _ (List.mem_cons_of_mem _
        (List.mem_cons_of_mem _ List.mem_cons_self)), rfl, rfl, rephase⟩

/-- What a tick issues, other than `nop` and technical control commands. -/
theorem mem_run_cases
    {scheduler : Scheduler}
    {time : UInt64}
    (starts : StartsAt (scheduler.lines.moveTimeline time) time)
    {command : ControlCommand}
    (member : command ∈ (run platform scheduler time).2) :
    command.type = .nop ∨ command.type = .techCommand ∨
      ∃ pair idx queryId,
        27 ≤ idx.toNat ∧ idx.toNat < 1500 ∧
        command ∈ scanCommands pair time idx queryId ∧
        ∀ other ∈ scanCommands pair time idx queryId,
          other ∈ (run platform scheduler time).2 := by
  rw [run_commands] at member ⊢
  obtain ⟨visit, visitMember, isIssued⟩ := List.mem_flatMap.mp member
  have answered :
      ∀ other ∈ visit.issued time,
        other ∈ (visits platform scheduler time).flatMap
          (Visit.issued time) :=
    fun other isAnswer =>
      List.mem_flatMap.mpr ⟨visit, visitMember, isAnswer⟩
  unfold Visit.issued at isIssued answered
  cases makes : visit.call with
  | none =>
      rw [makes] at isIssued
      dsimp only at isIssued
      split at isIssued
      · rw [List.mem_singleton.mp isIssued]
        exact .inr (.inl rfl)
      · cases isIssued
  | some call =>
      rw [makes] at isIssued answered
      have atTime : call.lines.dcu.startTime = time :=
        (startTime_of_mem_visitsFrom platform visitMember makes .dcu).trans
          (starts.startTime .dcu)
      rcases placeScan_cases call.lines call.pair call.queryId with
        isNop | ⟨idx, found, _, result⟩
      · simp only [ScanCall.result, isNop, List.mem_singleton] at isIssued
        rw [isIssued]
        exact .inl rfl
      · obtain ⟨phaseRoom, shallow⟩ := bounds_of_placementIndex found
        simp only [ScanCall.result, result, atTime] at isIssued answered
        exact .inr (.inr
          ⟨call.pair, idx, call.queryId, phaseRoom, shallow, isIssued,
            answered⟩)

end Radar.Scheduler
