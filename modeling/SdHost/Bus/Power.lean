import SdHost.Bus.Operation
import SdHost.Slot.Basic

/-!
# Supply voltage

The voltage of the card is changed only while its power is off. Some controllers take their time
to latch a setting, which is therefore written again until it is read back.

## Modelled functions

* `SupplyVoltage.supply`: `set_voltage`, with its two loops `powerOff` and `powerOn`.

The register is read once more for the text of a log message. Messages are left out, and so is that read:
it is made only while a logger listens, and nothing but the text depends on it.
-/

namespace SdHost.SupplyVoltage

/-- Write the power control register and look what it holds then. -/
def writeBack (value : Byte) : Program Byte := do
  PowerControl.register.write value
  PowerControl.register.read

/-- Switch the power off, given what the register holds. -/
def powerOff (options : Options) (power : Byte) : Attempt Byte :=
  options.poll (fun power => do
    let power ← writeBack (PowerControl.powerOn.put false power)
    return (power, !PowerControl.powerOn.test power)) power

/-- Switch the power on with a voltage, given what the register holds. -/
def powerOn (options : Options) (select : Nat) (power : Byte) : Attempt Byte := do
  -- The voltage stands in the register before the power goes on.
  let power := PowerControl.voltageSelect.set select power
  PowerControl.register.write power
  options.poll (fun power => do
    let power ← writeBack
      (PowerControl.powerOn.put true (PowerControl.voltageSelect.set select power))
    return (power,
      PowerControl.powerOn.test power && PowerControl.voltageSelect.get power == select)) power

/-- Supply the card with a voltage, or with none. -/
def supply (voltage : SupplyVoltage) (options : Options) : Attempt Unit := do
  let initial ← PowerControl.register.read
  let power ← if PowerControl.powerOn.test initial then powerOff options initial
    else pure initial
  match voltage.select? with
  | none => return
  | some select => discard (powerOn options select power)

end SdHost.SupplyVoltage
