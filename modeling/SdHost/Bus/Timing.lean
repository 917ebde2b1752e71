import SdHost.Bus.Operation
import SdHost.Slot.Basic

/-!
# Clock and speed

Programming the card's clock and the timing mode of the bus. Both are changed only while the card
is not clocked.

## Modelled functions

* `Timing.setClock`: `set_clock`;
* `Timing.setBusSpeed`: `set_bus_speed`;
* `Timing.gateClock`: `sd_clock_enable`.
-/

namespace SdHost.Timing

/-- Let the clock through to the card, or stop it. -/
def gateClock (on : Bool) : Program Unit :=
  ClockControl.register.modify (ClockControl.sdClockEnable.put on)

/-- The clock control word that programs a divisor and starts the internal clock. -/
def divisorWord (divisor : Nat) : HalfWord :=
  ClockControl.internalClockEnable.put true
    (ClockControl.frequencySelectUpper.set (divisor / 512)
      (ClockControl.frequencySelect.set (divisor / 2) 0))

/-- Set the card's clock to the highest frequency that does not exceed `khz`, or stop it. -/
def setClock (slot : Slot) (khz : Word) : Attempt Unit := do
  let clock ← ClockControl.register.read
  if khz = 0 then
    ClockControl.register.write (ClockControl.sdClockEnable.put false clock)
  else
    let caps := slot.capabilities
    let found ← (ClockDivisor.find caps.baseClockKHz khz caps.specVersion).run
    -- A frequency that cannot be had is refused before anything is written.
    let divisor ← found
    ClockControl.register.write
      (ClockControl.sdClockEnable.put false (ClockControl.internalClockEnable.put false clock))
    ClockControl.register.write (divisorWord divisor)
    -- The card is not clocked until the internal clock is stable.
    slot.options.pollUntil do
      return ClockControl.internalClockStable.test (← ClockControl.register.read)
    gateClock true

/-- Set the timing mode, with the card's clock stopped. -/
def setBusSpeed (options : Options) (speed : BusSpeed) : Attempt Unit := do
  let control1 ← HostControl1.register.read
  let control2 ← HostControl2.register.read
  match speed.configure? control1 control2 with
  | none => throw .notSupported
  | some (control1, control2) =>
    -- A mode that is not supported leaves the clock running.
    gateClock false
    Program.delay options.clockSettle
    HostControl1.register.write control1
    HostControl2.register.write control2
    gateClock true
    Program.delay options.clockSettle

end SdHost.Timing
