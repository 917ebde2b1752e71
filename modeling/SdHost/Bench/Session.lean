import SdHost.Bench.World
import SdHost.Bus.Perform
import SdHost.Driver
import SdHost.Slot.BringUp
import SdHost.Slot.Transfer

/-!
# Bench sessions

A driver, a slot and its requests in the simulated world, and what can be done with them step by
step. A fault ends the session.
-/

namespace SdHost.Bench

/-- A driver, a slot and its requests in the simulated world. -/
structure Session where
  /-- The world around them. -/
  world : World
  /-- The slot. -/
  slot : Slot := { controller := .standard false }
  /-- The driver-wide object. -/
  driver : Driver := .new none false
  /-- The requests made so far, each with its number. -/
  requests : List (Nat × Request) := []

/-- A step of a session. -/
abbrev Play : Type → Type :=
  StateT Session (Except Fault)

namespace Session

variable {α : Type}

/-- Run a program in the world. -/
def run (program : Program α) : Play α := do
  match program.run World.host (← get).world with
  | (.ok value, world) =>
    modify fun session => { session with world }
    return value
  | (.error cause, _) => throw cause

/-- Run a task of the slot. -/
def runTask (task : Task Slot α) : Play (Except Error α) := do
  let (result, slot) ← run (task.run.run (← get).slot)
  modify fun session => { session with slot }
  return result

/-- Change the world. -/
def modifyWorld (change : World → World) : Play Unit :=
  modify fun session => { session with world := change session.world }

/-- Change the registers, without the driver's doing. -/
def modifyRegisters (change : RegisterBlock → RegisterBlock) : Play Unit :=
  modifyWorld fun world => { world with registers := change world.registers }

/-- The request of a given number. -/
def request? (session : Session) (number : Nat) : Option Request :=
  session.requests.lookup number

/-- Keep a request under a number, in place of the one that had it before. -/
def putRequest (number : Nat) (request : Request) : Play Unit :=
  modify fun session =>
    { session with
      requests := (number, request) :: session.requests.filter fun kept => kept.1 != number }

/-- Carry out the next step of a request. -/
def issue (number : Nat) (request : Request) : Play (Except Error Progress) := do
  let (result, slot, request) ← run ((← get).slot.issueRequest request)
  modify fun session => { session with slot }
  putRequest number request
  return result

/-- Account for events and errors against a request. -/
def account (number : Nat) (request : Request) (events errors : Word) : Play Unit := do
  putRequest number (← run (request.account events errors))

/-- Take the pending interrupts and account for them against a request. -/
def service (number : Nat) (request : Request) : Play (Option Snapshot) := do
  let found ← run Slot.takeInterrupts
  if let some snapshot := found then
    account number request (snapshot.events.setWidth 32) (snapshot.errors.setWidth 32)
  return found

/-- Give up the bounce pages of the slot. -/
def cleanup : Play Unit := do
  let slot ← run (← get).slot.cleanup
  modify fun session => { session with slot }

/-- Take the bytes that were written to the data window. -/
def drain : Play Memory := do
  let output := (← get).world.registers.output
  modifyRegisters fun block => { block with output := #[] }
  return output

/-- Feed bytes to the data window. -/
def feed (bytes : Memory) : Play Unit :=
  modifyRegisters fun block => { block with input := block.input ++ bytes.toList }

/-- Overwrite the data of a bounce buffer, without the driver's doing. -/
def pokeBuffer (number offset : Nat) (bytes : Memory) : Play Unit :=
  modify fun session =>
    let (world, slot) := session.world.pokeBuffer session.slot number offset bytes.toList
    { session with world, slot }

/-- Drive a pin through a channel, and read it through what is inside the channel. -/
def driveAndRead (channel : Channel) (pin state : Word) :
    Play (Except RegulatorError Unit × Except RegulatorError Word) := do
  let driven ← run (channel.drivePin pin state)
  let found ← run (channel.inner.readPin pin)
  return (driven, found)

/-- Take the log out of the world. -/
def takeLog (session : Session) : Array Entry × Session :=
  (session.world.log, { session with world := { session.world with log := #[] } })

end Session

end SdHost.Bench
