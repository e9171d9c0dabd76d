import Radar.PriorityQueue
import Radar.SchedulerPlacement
import Radar.StandardLibrary

namespace Radar

/-!
# The command processor

Commands wait in a priority queue that hands out the earliest execution time
first.  `append` queues them, `run` executes those of one time step and
`validate` checks the exchange protocol of the queued and the last executed
commands.
-/

open Settings

/-- Execution time as a number of nanoseconds. -/
def ControlCommand.time (command : ControlCommand) : Nat :=
  command.executionTime.toNat

/-- Queues of commands, ordered by execution time. -/
abbrev CommandQueue := PriorityQueue ControlCommand.time

/-- The command processor. -/
structure CommandProcessor (queues : CommandQueue) where
  commandQueue : queues.Carrier
  execedCommands : List ControlCommand
  log : List String

namespace CommandProcessor

variable {queues : CommandQueue}

/-- A processor without commands. -/
def new : CommandProcessor queues where
  commandQueue := queues.empty
  execedCommands := []
  log := []

/-- Queue a list of commands; `nop` commands are ignored. -/
def append
    (processor : CommandProcessor queues)
    (commandList : List ControlCommand) :
    CommandProcessor queues :=
  { processor with
    commandQueue :=
      queues.pushAll processor.commandQueue
        (commandList.filter fun command => command.type ≠ .nop) }

/-- What the log says about the type of a command. -/
def logText : CommandType → String
  | .receiveCommand => "Receive.\n"
  | .transmitCommand => "Transmit.\n"
  | .trRephaseCommand => "Transmit Rephase.\n"
  | .rsRephaseCommand => "Receive Rephase.\n"
  | .protectCommand => "Turn off protection.\n"
  | .techCommand => "Tech.\n"
  | .nop => "ERROR: unknown command.\n"

/-- Log entry of an executed command. -/
def logEntry (command : ControlCommand) : String :=
  toString command.executionTime ++ " [" ++ toString command.queryId ++
    "] : " ++ logText command.type

/--
Is a command due in the step that starts at a time?  The source adds `1e6` to
the time and compares, both as `double`.
-/
def due
    (rounding : DoubleRounding)
    (time : UInt64)
    (command : ControlCommand) :
    Bool :=
  rounding.round command.time <
    rounding.round (rounding.round time.toNat + 1000000)

/-- Execute the commands of the step that starts at a time. -/
def run
    (rounding : DoubleRounding)
    (processor : CommandProcessor queues)
    (time : UInt64) :
    CommandProcessor queues :=
  let loop := queues.popWhile (due rounding time) processor.commandQueue
  { commandQueue := loop.2
    execedCommands := loop.1
    log := processor.log ++ loop.1.map logEntry }

/-! ## Validation

Each section of `validate` answers with the message it prints about the first
fault it finds.
-/

/-- Check the distance of neighbouring phase changes of each antenna. -/
def rephaseFault :
    (prevTrRephase prevRsRephase : ControlCommand) →
    List ControlCommand →
    Option String
  | _, _, [] => none
  | prevTrRephase, prevRsRephase, command :: rest =>
      if command.type = .trRephaseCommand then
        if prevTrRephase.type = .nop then
          rephaseFault command prevRsRephase rest
        else if command.executionTime - prevTrRephase.executionTime <
            auCommandDelay.toUInt64 then
          some "ERROR: Transmit rephase command is not valid.\n"
        else
          rephaseFault command prevRsRephase rest
      else if command.type = .rsRephaseCommand then
        if prevRsRephase.type = .nop then
          rephaseFault prevTrRephase command rest
        else if command.executionTime - prevRsRephase.executionTime <
            auCommandDelay.toUInt64 then
          some "ERROR: Receive rephase command is not valid.\n"
        else
          rephaseFault prevTrRephase command rest
      else
        rephaseFault prevTrRephase prevRsRephase rest

/-- The first command of a type with the query id of another command. -/
def firstOfQuery
    (commands : List ControlCommand)
    (type : CommandType)
    (command : ControlCommand) :
    Option ControlCommand :=
  commands.find? fun other =>
    other.type = type ∧ other.queryId = command.queryId

/-- Check that a command follows its precursor by a delay. -/
def precursorFault
    (commands : List ControlCommand)
    (precursor : CommandType)
    (delay : UInt32)
    (early missing : String)
    (command : ControlCommand) :
    Option String :=
  match firstOfQuery commands precursor command with
  | some other =>
      if command.executionTime - other.executionTime < delay.toUInt64 then
        some early
      else
        none
  | none => some missing

/-- Check that the protection is switched off before a reception. -/
def protectFault
    (commands : List ControlCommand)
    (command : ControlCommand) :
    Option String :=
  if command.type = .receiveCommand then
    precursorFault commands .protectCommand channelSwitchDelay
      ("ERROR: Receive command was executed before protection was turned " ++
        "off.\n")
      "ERROR: Receiver protection was not turned off.\n"
      command
  else
    none

/-- Check that an antenna has changed its phase before it is used. -/
def phaseFault
    (commands : List ControlCommand)
    (command : ControlCommand) :
    Option String :=
  if command.type = .receiveCommand then
    precursorFault commands .rsRephaseCommand phaseDelay
      ("ERROR: Receive command was executed before receiver has completed " ++
        "rephase command.\n")
      ("ERROR: Receiver rephase was not been executed after transmit " ++
        "command.\n")
      command
  else if command.type = .transmitCommand then
    precursorFault commands .trRephaseCommand phaseDelay
      ("ERROR: Transmit command was executed before transmiter has " ++
        "completed rephase command.\n")
      ("ERROR: Transmit command was executed before transmiter has " ++
        "completed rephase command.\n")
      command
  else
    none

/-- Check that no transmission starts while an earlier one lasts. -/
def restoreFault :
    (prevTransmit : ControlCommand) → List ControlCommand → Option String
  | _, [] => none
  | prevTransmit, command :: rest =>
      if command.type = .transmitCommand then
        if prevTransmit.type = .nop then
          restoreFault command rest
        else if prevTransmit.executionTime +
            prevTransmit.executionLength.toUInt64 >
            command.executionTime then
          some
            "ERROR: Transmit command was executed in energy restore state.\n"
        else
          restoreFault command rest
      else
        restoreFault prevTransmit rest

/-- Reserve between the reference and the execution of a transmission. -/
def transmitReserve : UInt32 :=
  reserveTime + blankDelay + frequencyDelay

/-- Check the reserve between the reference and the execution time. -/
def referenceFault (command : ControlCommand) : Option String :=
  if command.type = .receiveCommand then
    if command.executionTime < command.referanceTime then
      some "ERROR: Execution time is smaller than referance time.\n"
    else if command.executionTime - command.referanceTime <
        reserveTime.toUInt64 then
      some ("ERROR: Distance between reference time and execution time of " ++
        "receive command is less than " ++ toString reserveTime ++ ".\n")
    else
      none
  else if command.type = .transmitCommand then
    if command.executionTime - command.referanceTime <
        transmitReserve.toUInt64 then
      some ("ERROR: Distance between reference time and execution of " ++
        "transmit command time is less than " ++ toString transmitReserve ++
        ".\n")
    else
      none
  else
    none

/-- Queued commands in the order in which they will be executed. -/
def currentCommands
    (processor : CommandProcessor queues) :
    List ControlCommand :=
  queues.drain processor.commandQueue

/-- Commands executed in the last step, then the queued ones. -/
def allCommands (processor : CommandProcessor queues) : List ControlCommand :=
  processor.execedCommands ++ processor.currentCommands

/-- The message about the first fault that the validation finds. -/
def fault (processor : CommandProcessor queues) : Option String :=
  let current := processor.currentCommands
  let commands := processor.allCommands
  (rephaseFault {} {} current)
    <|> (current.findSome? (protectFault commands))
    <|> (current.findSome? (phaseFault commands))
    <|> (restoreFault {} current)
    <|> (current.findSome? referenceFault)

/-- Does the state of the processor obey the exchange protocol? -/
def validate (processor : CommandProcessor queues) : Bool :=
  processor.fault.isNone

end CommandProcessor

end Radar
