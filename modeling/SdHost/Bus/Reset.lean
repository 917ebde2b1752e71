import SdHost.Bus.Operation
import SdHost.Slot.Basic

/-!
# Resets

A reset clears registers that the slot depends on, which are set up again when it is done: the
data timeout, the voltage of the signals and the form of direct memory access.

## Modelled functions

* `ResetType.reset`: `reset_host`.

Three registers are read for the text of a log message. Messages are left out, and so are these reads: they
are made only while a logger listens, and nothing but the text depends on them.
-/

namespace SdHost.ResetType

/-- Reset part of the controller and set it up again. -/
def reset (part : ResetType) (slot : Slot) : Attempt Unit := do
  let bits := part.bit.put true 0
  SoftwareReset.register.write bits
  -- The bits clear themselves when the reset is done.
  slot.options.pollUntil do
    return (← SoftwareReset.register.read) &&& bits == 0
  TimeoutControl.register.write (TimeoutControl.dataTimeoutCounter.set TimeoutControl.longest 0)
  if slot.controller.clearsStatusOnReset then
    RegisterMap.normalStatus.write 0xFFFF
  -- The reset took the signals back to 3.3 V, but not the regulator.
  if slot.regulatorAt18 then
    HostControl2.register.modify (HostControl2.signaling1_8.put true)
  let select := (slot.controller.dmaSelect slot.capabilities).code
  HostControl1.register.modify (HostControl1.dmaSelect.set select)

end SdHost.ResetType
