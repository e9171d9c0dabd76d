import Mathlib.Algebra.Group.Nat.Defs

namespace Radar

/-!
# Scheduler settings and chunk arithmetic

The constants of the scheduler model, in nanoseconds unless stated otherwise,
and `multiplesOf`, the only rounding the scheduler uses.  Every constant keeps
the 32-bit type of the source; the lemmas below say what the arithmetic means
over the naturals.
-/

namespace Settings

/-- Time to change the phase of an antenna. -/
def phaseDelay : UInt32 := 270000

/-- Shortest interval between two commands to one antenna. -/
def auCommandDelay : UInt32 := 500000

/-- Delay of a transmission blank. -/
def blankDelay : UInt32 := 3100

/-- Delay of a frequency change. -/
def frequencyDelay : UInt32 := 3100

/-- Time to switch the receive and transmit channels. -/
def channelSwitchDelay : UInt32 := 3000

/-- Duty factor of the transmitter. -/
def dutyFactor : UInt32 := 8

/-- Every command length is a multiple of this. -/
def frequencyFactor : UInt32 := 100

/-- Reserve left before a command is executed. -/
def reserveTime : UInt32 := 5000

/-- Priority growth of a search query, 1/s. -/
def searchQuerySpeed : Rat := 50

/-- Execution threshold of a search query. -/
def searchQueryThreshold : Rat := 1

/-- Priority growth of a tracking query, 1/s. -/
def trackingQuerySpeed : Rat := 10

/-- Priority growth of a confirm query, 1/s. -/
def confirmQuerySpeed : Rat := 100

/-- Priority growth of a capture query, 1/s. -/
def captureQuerySpeed : Rat := 100

/-- Execution threshold of a tracking query. -/
def trackingQueryThreashold : Rat := 1

/-- Execution threshold of a confirm query. -/
def confirmQueryThreashold : Rat := 0

/-- Execution threshold of a capture query. -/
def captureQueryThreshold : Rat := 0

/-- Priority growth of a query for the technical state, 1/s. -/
def techControlSpeed : Rat := 1

/-- Execution threshold of a query for the technical state. -/
def techControlThreshold : Rat := 1

/-- Length of one timeline chunk. -/
def timeChunkLength : UInt32 := 10000

/-- Planning step, in chunks. -/
def planningStep : UInt32 := 100

/-- Depth of a timeline, in chunks. -/
def timelineDepth : UInt32 := 100000

/-- Planning depth of a single pulse, in planning steps. -/
def pulsePlanningDepth : UInt32 := 3

/-- Planning depth of a pulse train, in planning steps. -/
def pulseTrainPlanningDepth : UInt32 := 15

@[simp] theorem toNat_phaseDelay : phaseDelay.toNat = 270000 := rfl

@[simp] theorem toNat_auCommandDelay : auCommandDelay.toNat = 500000 := rfl

@[simp] theorem toNat_blankDelay : blankDelay.toNat = 3100 := rfl

@[simp] theorem toNat_frequencyDelay : frequencyDelay.toNat = 3100 := rfl

@[simp] theorem toNat_channelSwitchDelay :
    channelSwitchDelay.toNat = 3000 := rfl

@[simp] theorem toNat_dutyFactor : dutyFactor.toNat = 8 := rfl

@[simp] theorem toNat_frequencyFactor : frequencyFactor.toNat = 100 := rfl

@[simp] theorem toNat_reserveTime : reserveTime.toNat = 5000 := rfl

@[simp] theorem toNat_timeChunkLength : timeChunkLength.toNat = 10000 := rfl

@[simp] theorem toNat_timelineDepth : timelineDepth.toNat = 100000 := rfl

end Settings

/--
Round a value up to a multiple of a number.

The source takes the floor of the quotient in `double`; the quotients it
meets are below `2 ^ 53`, where that floor is the integer quotient itself.
-/
def multiplesOf
    {Word : Type}
    [Mod Word] [Div Word] [Add Word] [Mul Word]
    [OfNat Word 0] [OfNat Word 1] [DecidableEq Word]
    (value number : Word) :
    Word :=
  if value % number = 0 then
    value
  else
    (value / number + 1) * number

/-- Rounding up over the naturals, where nothing can overflow. -/
def roundUp (value number : Nat) : Nat :=
  multiplesOf value number

theorem roundUp_of_mod_eq_zero
    {value number : Nat}
    (divides : value % number = 0) :
    roundUp value number = value := by
  simp [roundUp, multiplesOf, divides]

theorem roundUp_of_mod_ne_zero
    {value number : Nat}
    (remains : value % number ≠ 0) :
    roundUp value number = (value / number + 1) * number := by
  simp [roundUp, multiplesOf, remains]

/-- Rounding to the frequency factor, in closed form. -/
theorem roundUp_hundred (value : Nat) :
    roundUp value 100 = (value + 99) / 100 * 100 := by
  by_cases divides : value % 100 = 0
  · rw [roundUp_of_mod_eq_zero divides]
    omega
  · rw [roundUp_of_mod_ne_zero divides]
    omega

/-- On 32-bit words `multiplesOf` rounds up and then wraps. -/
theorem toNat_multiplesOf_uint32
    (value number : UInt32) :
    (multiplesOf value number).toNat =
      roundUp value.toNat number.toNat % 2 ^ 32 := by
  unfold multiplesOf
  split
  · next divides =>
      have dividesNat : value.toNat % number.toNat = 0 := by
        rw [← UInt32.toNat_mod, divides]
        rfl
      rw [roundUp_of_mod_eq_zero dividesNat,
        Nat.mod_eq_of_lt value.toNat_lt]
  · next remains =>
      have remainsNat : value.toNat % number.toNat ≠ 0 := by
        intro divides
        apply remains
        rw [← UInt32.toNat_inj, UInt32.toNat_mod, divides]
        rfl
      rw [roundUp_of_mod_ne_zero remainsNat]
      simp [UInt32.toNat_mul, UInt32.toNat_add, UInt32.toNat_div]

/-- On 64-bit words `multiplesOf` rounds up and then wraps. -/
theorem toNat_multiplesOf_uint64
    (value number : UInt64) :
    (multiplesOf value number).toNat =
      roundUp value.toNat number.toNat % 2 ^ 64 := by
  unfold multiplesOf
  split
  · next divides =>
      have dividesNat : value.toNat % number.toNat = 0 := by
        rw [← UInt64.toNat_mod, divides]
        rfl
      rw [roundUp_of_mod_eq_zero dividesNat,
        Nat.mod_eq_of_lt value.toNat_lt]
  · next remains =>
      have remainsNat : value.toNat % number.toNat ≠ 0 := by
        intro divides
        apply remains
        rw [← UInt64.toNat_inj, UInt64.toNat_mod, divides]
        rfl
      rw [roundUp_of_mod_ne_zero remainsNat]
      simp [UInt64.toNat_mul, UInt64.toNat_add, UInt64.toNat_div]

end Radar
