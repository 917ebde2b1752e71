import SdHost.Register.Control
import SdHost.Slot.Basic

/-!
# Events

The interrupt path: which events become pending, taking and acknowledging those that are, and
ending the steps of requests when all that they wait for has come. Nothing here waits.

## Modelled functions

* `Slot.takeInterrupts`: `interrupt`;
* `Slot.acknowledge`: `acknowledge_interrupts`, which `clear_events` is another name of;
* `Slot.toggleEvents`: `toggle_events`;
* `Request.account`: `request_dpc`;
* `Slot.cardInserted`, `Slot.writeProtected`: `card_detect_state` and `write_protect_state`;
* `Slot.saveContext`, `Slot.restoreContext`: `save_context` and `restore_context`.
-/

namespace SdHost

/-- What one look at the pending interrupts found. -/
structure Snapshot where
  /-- Normal interrupts, except those that are told apart below. -/
  events : HalfWord := 0
  /-- Error interrupts. -/
  errors : HalfWord := 0
  /-- A card was inserted or removed. -/
  cardChange : Bool := false
  /-- The card asks for attention. -/
  cardInterrupt : Bool := false
  /-- The sampling clock should be tuned again. -/
  tuning : Bool := false
  deriving DecidableEq, Repr

/-- Each part of a snapshot with the name it is known by. -/
def Snapshot.readings (snapshot : Snapshot) : List (String × Reading) := [
  ("events", .number snapshot.events.toNat),
  ("errors", .number snapshot.errors.toNat),
  ("card_change", .flag snapshot.cardChange),
  ("sdio_interrupt", .flag snapshot.cardInterrupt),
  ("tuning", .flag snapshot.tuning)]

/-- The normal interrupts that no request waits for. -/
def unrelatedEvents : HalfWord :=
  NormalEvents.cardInsertion.mask ||| NormalEvents.cardRemoval.mask |||
    NormalEvents.cardInterrupt.mask ||| NormalEvents.retuning.mask |||
    NormalEvents.errorInterrupt.mask

namespace Request

/-- Tell the framework that a step is done, and count how often it has been told. -/
def complete (request : Request) (status : Status) : Program Request := do
  let request := { request with completions := request.completions + 1 }
  Program.request (.complete request status)
  return request

/-- End a step with a status. -/
def finish (request : Request) (status : Status) : Program Request :=
  { request with status }.complete status

/-- Account for events and errors. An error ends the step at once. Without one, the step ends
when nothing is left that it waits for. -/
def account (request : Request) (events errors : Word) : Program Request :=
  -- The events count even if an error came with them.
  let remaining := request.clearRequiredEvents events
  if errors ≠ 0 then
    { remaining with requiredEvents := 0 }.finish (Status.ofErrors (errors.setWidth 16))
  else if remaining.requiredEvents = 0 then
    remaining.finish
      (if request.status = .moreProcessingRequired then .moreProcessingRequired else .success)
  else
    return remaining

end Request

namespace Slot

/-- Acknowledge pending normal interrupts, and with the error summary all pending errors.

An error of a command sent automatically is sure to clear only if its register is written both
ways. The summary bit clears with the errors. -/
def acknowledge (mask : Word) : Program Unit := do
  let mask : HalfWord := mask.setWidth 16
  if NormalEvents.errorInterrupt.test mask then
    -- Errors of commands sent automatically do not always clear on one write.
    RegisterMap.autoCommandErrors.write 0xFFFF
    RegisterMap.autoCommandErrors.write 0
    RegisterMap.errorStatus.write 0xFFFF
  -- The summary bit cannot be written and goes with the errors.
  RegisterMap.normalStatus.write (NormalEvents.errorInterrupt.put false mask)

/-- Look for pending interrupts and acknowledge them. Nothing is found if none is pending, or if
the controller has gone away and its registers read as all ones. -/
def takeInterrupts : Program (Option Snapshot) := do
  let status ← RegisterMap.normalStatus.read
  if status = 0 ∨ status = 0xFFFF then
    return none
  else
    let errors ←
      if NormalEvents.errorInterrupt.test status then RegisterMap.errorStatus.read
      else pure (0 : HalfWord)
    -- Everything that was seen is acknowledged, also what no request waits for.
    acknowledge (status.setWidth 32)
    return some
      { events := status &&& ~~~unrelatedEvents
        errors
        cardChange := NormalEvents.cardInsertion.test status || NormalEvents.cardRemoval.test status
        cardInterrupt := NormalEvents.cardInterrupt.test status
        tuning := NormalEvents.retuning.test status }

/-- Enable or disable normal interrupts, and with them all errors. While a crash dump is written
they become pending only, and do not reach the processor. -/
def toggleEvents (slot : Slot) (mask : Word) (enable : Bool) : Program Unit := do
  let mask : HalfWord := mask.setWidth 16
  let enabled ← RegisterMap.normalSignalEnable.read
  if enable then
    -- While a crash dump is written nobody could take an interrupt.
    if !slot.crashDump then
      RegisterMap.normalSignalEnable.write (enabled ||| mask)
      RegisterMap.errorSignalEnable.write 0xFFFF
    RegisterMap.normalStatusEnable.write (enabled ||| mask)
    RegisterMap.errorStatusEnable.write 0xFFFF
  else
    RegisterMap.normalStatusEnable.write (enabled &&& ~~~mask)
    RegisterMap.errorStatusEnable.write 0
    RegisterMap.normalSignalEnable.write (enabled &&& ~~~mask)
    RegisterMap.errorSignalEnable.write 0

/-- Whether a card is in the slot. -/
def cardInserted : Program Bool := do
  return PresentState.cardInserted.test (← PresentState.register.read)

/-- Whether the card must not be written. -/
def writeProtected : Program Bool := do
  return !PresentState.writeEnabled.test (← PresentState.register.read)

/-- Save the state of the controller before its power goes. Not implemented for any
controller. -/
def saveContext : Except Error Unit :=
  .error .notImplemented

/-- Restore the saved state of the controller. Not implemented for any controller. -/
def restoreContext : Except Error Unit :=
  .error .notImplemented

end Slot

end SdHost
