import SdHost.Bus.Timing

/-!
# Signaling voltage

Switching the voltage of the signals takes the cooperation of the card, which holds its data
lines low before the switch and lets them go after it. Where the voltage comes from an external
regulator, the regulator is switched before the controller, and put back if the switch fails.

## Modelled functions

* `Signaling.switch`: `set_signaling_voltage`;
* `Signaling.restoreRegulator`: `restore_regulator`.
-/

namespace SdHost.Signaling

/-- The levels of the data lines. -/
def dataLines : Program Nat := do
  return PresentState.datLines.get (← PresentState.register.read)

/-- Put the regulator back to an earlier state, if it is in another and as far as the firmware
lets it. -/
def restoreRegulator (previous : Bool) : Task Slot Unit := do
  if (← get).regulatorAt18 != previous then
    try
      Slot.switchRegulator previous
    catch _ =>
      return

/-- Switch the voltage of the signals. -/
def switch (voltage : SignalingVoltage) : Task Slot Unit := do
  let slot ← get
  let at18 := voltage == .v18
  Timing.gateClock false
  Program.delay slot.options.clockSettle
  -- The card agrees to the switch by holding its lines low.
  if (← dataLines) ≠ 0 then
    throw .unsuccessful
  -- The regulator goes first, and is left alone where it is already right.
  let previous := slot.regulatorAt18
  if slot.controller.externalRegulator && previous != at18 then
    Slot.switchRegulator at18
  HostControl2.register.modify (HostControl2.signaling1_8.put at18)
  Program.delay slot.options.signalingSettle
  let latched ← HostControl2.register.read
  -- A supply that is not stable makes the controller drop the bit.
  if HostControl2.signaling1_8.test latched != at18 then
    restoreRegulator previous
    throw .unsuccessful
  Timing.gateClock true
  Program.delay slot.options.clockSettle
  if (← dataLines) ≠ 0xF then
    restoreRegulator previous
    throw .unsuccessful

end SdHost.Signaling
