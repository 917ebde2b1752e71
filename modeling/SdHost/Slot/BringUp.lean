import SdHost.Slot.Events

/-!
# Bringing a slot up

Before a slot can be used, its bounce pages are allocated, the regulator is put to 3.3 V, the
capabilities are read off the registers, and all interrupts are disabled.

## Modelled functions

* `Slot.bringUp`: `initialize`, with `Slot.resetRegulator` and `Slot.readCapabilities` its parts.

`initialize` only asserts that there is a base clock and that the block length is no reserved one, so these
are faults where debug assertions are checked.
-/

namespace SdHost.Slot

/-- Put the regulator to 3.3 V, if there is a channel to it. The firmware may refuse, which is
put up with. -/
def resetRegulator : Task Slot Unit := do
  modify fun slot => { slot with regulatorAt18 := false }
  match (← get).regulator with
  | none => return
  | some channel =>
    -- Nothing depends on the state, so a failure to read it is put up with.
    discard (channel.readPin Regulator.signalingPin)
    try
      switchRegulator false
    catch _ =>
      return

/-- Read the capabilities off the registers. A controller without base clock, or with a block
length that is reserved, breaks its promise. -/
def readCapabilities (slot : Slot) : Program Capabilities := do
  let spec ← RegisterMap.specVersion.read
  let maximumCurrent ← RegisterMap.maximumCurrent.read
  let raw ← CapabilityBits.read
  if CapabilityBits.baseClockMhz.get raw = 0 ∨ 3 ≤ CapabilityBits.maxBlockLength.get raw then
    .fault .impossibleCapabilities
  else
    return slot.controller.capabilities raw spec maximumCurrent slot.options.pioThreshold
      slot.regulator.isSome

/-- Bring the slot up, over a register block of `length` bytes. -/
def bringUp (length : Nat) (crashDump : Bool) : Task Slot Unit := do
  if length < registerBlockSize then
    throw .notSupported
  modify fun slot => { slot with crashDump, busOffset := slot.controller.busOffset }
  let slot ← get
  if slot.controller.usesBounce then
    let size := if crashDump then slot.options.crashDumpBounceSize else slot.options.bounceSize
    -- Here it is an error not to get any, unlike for a single transfer.
    set (← slot.allocateBounce size)
  resetRegulator
  let capabilities ← (← get).readCapabilities
  modify fun slot => { slot with capabilities }
  -- The framework enables what it wants later.
  (← get).toggleEvents 0xFFFF false

end SdHost.Slot
