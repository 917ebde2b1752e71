import SdHost.Bus.Power
import SdHost.Bus.Reset
import SdHost.Bus.Signaling

/-!
# Carrying out bus operations

Every operation of the bus is carried out here. An operation may wait for the hardware, but only
for as long as the options of the slot allow.

## Modelled functions

* `Slot.performBusOperation`: `issue_bus_operation`;
* `Slot.setBusWidth`: `set_bus_width`. It only asserts that the width is one that a card has, so this is a
  fault where debug assertions are checked.
-/

namespace SdHost.Slot

/-- Set the number of data lines. A number that no card has breaks a promise. -/
def setBusWidth (width : Byte) : Program Unit := do
  let control ← HostControl1.register.read
  match configureWidth? width control with
  | some control => HostControl1.register.write control
  | none => .fault (.badBusWidth width)

/-- Carry out a bus operation. -/
def performBusOperation (operation : BusOperation) : Task Slot Unit := do
  let slot ← get
  match operation with
  | .resetCard => return
  | .resetHost part => part.reset slot
  | .setClock khz => Timing.setClock slot khz
  | .setVoltage voltage => voltage.supply slot.options
  | .setBusWidth width => setBusWidth width
  | .setBusSpeed speed => Timing.setBusSpeed slot.options speed
  | .setSignalingVoltage voltage => Signaling.switch voltage
  | .setDriverType driver =>
    HostControl2.register.modify (HostControl2.driverStrength.set driver.select)
  | .setPresetValue on => HostControl2.register.modify (HostControl2.presetValueEnable.put on)
  | .setBlockGapInterrupt on =>
    BlockGapControl.register.modify (BlockGapControl.interruptAtGap.put on)
  | .executeTuning => return
  | .setLed on => HostControl1.register.modify (HostControl1.led.put on)
  | .setPower _ => throw .notSupported
  | .setDriveStrength _ => throw .notSupported

end SdHost.Slot
