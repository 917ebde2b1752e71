import SdHost.Bench.Firmware
import SdHost.Bench.Log
import SdHost.Bench.RegisterBlock
import SdHost.Host.Program
import SdHost.Slot.Basic

/-!
# The bench

A simulated world for a slot: a register block, firmware, a byte stream to it, a worker in
passive context, and an allocator of bounce buffers. It answers the queries of a driver program
and keeps a log of all that it was asked.
-/

namespace SdHost.Bench

/-- An allocator of bounce buffers. -/
structure Allocator where
  /-- The largest size that it hands out. -/
  limit : Nat := 0x400000
  /-- How many descriptors a buffer has less than pages. -/
  short : Nat := 0
  /-- How many bytes a buffer has less than was asked for. -/
  shrink : Nat := 0
  /-- Address of the first page. -/
  base : Word := 0x08000000
  /-- Address of the first descriptor. -/
  descriptorBase : Word := 0x09000000
  deriving DecidableEq, Repr

/-- Change the setting of a given name, if there is one. -/
def Allocator.set? (allocator : Allocator) (name : String) (value : Nat) : Option Allocator :=
  match name with
  | "limit" => some { allocator with limit := value }
  | "short" => some { allocator with short := value }
  | "shrink" => some { allocator with shrink := value }
  | "base" => some { allocator with base := BitVec.ofNat 32 value }
  | "descriptor_base" => some { allocator with descriptorBase := BitVec.ofNat 32 value }
  | _ => none

/-- A buffer with pages in a row, of which every byte is zero. -/
def zeroedBuffer (size descriptors : Nat) (base descriptorBase : Word) (handle : Nat) :
    BounceBuffer where
  data := Memory.zeroed size
  pageAddress page := base + BitVec.ofNat 32 (pageSize * page)
  descriptors := Array.replicate descriptors 0
  descriptorAddress := descriptorBase
  handle

/-- Hand a buffer out, unless it is too large. -/
def Allocator.allocate? (allocator : Allocator) (length handle : Nat) : Option BounceBuffer :=
  if allocator.limit < length then none
  else
    some (zeroedBuffer (length - allocator.shrink) (length / pageSize - allocator.short)
      allocator.base allocator.descriptorBase handle)

/-- A simulated world. -/
structure World where
  /-- The registers of the controller. -/
  registers : RegisterBlock
  /-- The firmware. -/
  firmware : Firmware := {}
  /-- The byte stream to the firmware. -/
  stream : Stream := {}
  /-- The context that the driver is called in. -/
  context : CallContext := .passive
  /-- How often the worker runs what it is given. -/
  passiveRuns : Nat := 1
  /-- The allocator, if there is one. -/
  allocator : Option Allocator := none
  /-- The buffers handed out so far, as they were when they came back. -/
  buffers : Array BounceBuffer := #[]
  /-- What the world saw, in order. -/
  log : Array Entry := #[]

namespace World

/-- Note something in the log. -/
def note (world : World) (entry : Entry) : World :=
  { world with log := world.log.push entry }

/-- Have the firmware answer a message. -/
def callFirmware (world : World) (message : Memory) :
    (Except RegulatorError Unit × Memory) × World :=
  let world := world.note (.message message)
  let (result, firmware) := world.firmware.call message
  (result, { world with firmware })

/-- Flush the stream, which hands the pending bytes to the firmware and takes its answer in. -/
def flush (world : World) : Bool × World :=
  if world.stream.flushFails then
    (false, world.note .flushFailed)
  else
    let message := world.stream.pending
    let (result, world) := (world.note .flushed).callFirmware message
    -- The bytes are gone from the stream even if the firmware fails.
    let emptied := { world.stream with pending := #[] }
    match result with
    | (.error _, _) => (false, { world with stream := emptied })
    | (.ok (), answer) =>
      let answers := answer.toList.take (Stream.upTo answer.size emptied.answerLength)
      (true, { world with stream := { emptied with answers } })

/-- Hand out a bounce buffer. -/
def allocate (world : World) (length : Nat) : Option BounceBuffer × World :=
  match world.allocator with
  | none => (none, world)
  | some allocator =>
    match allocator.allocate? length world.buffers.size with
    | none => (none, world.note (.refused length))
    | some buffer =>
      (some buffer, { world.note (.allocated length) with buffers := world.buffers.push buffer })

/-- Answer a query. -/
def answer (query : Query) (world : World) : query.Reply × World :=
  match query with
  | .barrier => ((), world.note .barrier)
  | .read width offset =>
    let (value, registers) := world.registers.read width offset
    (value, { world.note (.read width offset value) with registers })
  | .write width offset value =>
    ((), { world.note (.write width offset value) with
      registers := world.registers.write width offset value })
  | .delay microseconds => ((), world.note (.delay microseconds))
  | .property message => world.callFirmware message
  | .context => (world.context, world)
  | .runPassive => (world.passiveRuns, world.note .passive)
  | .streamWrite bytes =>
    match world.stream.write bytes with
    | (none, stream) => (none, { world.note .writeFailed with stream })
    | (some taken, stream) => (some taken, { world.note (.wrote taken) with stream })
  | .streamFlush => world.flush
  | .streamRead room =>
    match world.stream.read room with
    | (none, stream) => (none, { world.note .readFailed with stream })
    | (some bytes, stream) => (some bytes, { world.note (.gave bytes.length) with stream })
  | .allocate length => world.allocate length
  | .release buffer =>
    ((), { world with buffers := world.buffers.setIfInBounds buffer.handle buffer })
  | .complete request status =>
    ((), world.note (.completed request.command.index status request.completions))

/-- The bench as a host of driver programs. -/
def host : Host World where
  answer := answer

/-- A bounce buffer by its number: as the slot has it while it is in use, as it came back
otherwise. -/
def buffer? (world : World) (slot : Slot) (number : Nat) : Option BounceBuffer :=
  match slot.bounce with
  | some pages =>
    if pages.buffer.handle = number then some pages.buffer else world.buffers[number]?
  | none => world.buffers[number]?

/-- Overwrite the data of a bounce buffer, as a controller does that moves data by itself. -/
def pokeBuffer (world : World) (slot : Slot) (number offset : Nat) (bytes : List Byte) :
    World × Slot :=
  let change (buffer : BounceBuffer) : BounceBuffer :=
    { buffer with data := Memory.store buffer.data offset bytes }
  match slot.bounce with
  | some pages =>
    if pages.buffer.handle = number then
      (world, { slot with bounce := some { pages with buffer := change pages.buffer } })
    else
      ({ world with buffers := world.buffers.modify number change }, slot)
  | none => ({ world with buffers := world.buffers.modify number change }, slot)

end World

end SdHost.Bench
