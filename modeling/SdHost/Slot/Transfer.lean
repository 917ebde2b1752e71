import SdHost.Register.Control
import SdHost.Slot.Events

/-!
# Transfers

Issuing the steps of a request: sending its command, with the data phase set up for one of three
ways of moving data, and going on with the data phase afterwards. Nothing here waits for the
hardware; a step that has to wait ends with an interrupt.

## Modelled functions

* `Slot.issueRequest`: `issue_request`;
* `Slot.readResponse`: `get_response`;
* `Transfer.sendCommand`: `send_command`;
* `Transfer.setUpPio`, with `Transfer.reservePages` and `Transfer.setUpBounce`: `prepare_pio` and
  `should_bounce`;
* `Transfer.setUpScatterGather`: `prepare_sg_dma`;
* `Transfer.continuePio`, `Transfer.finishBounce`, `Transfer.finishScatterGather`: `start_pio_transfer`,
  `start_bounce_dma_transfer` and `start_sg_dma_transfer`.
-/

namespace SdHost

/-- A slot and the request that it works on. -/
structure Transfer where
  /-- The slot. -/
  slot : Slot
  /-- The request. -/
  request : Request

/-- How the data phase of a command is going to move. -/
structure DataPhase where
  /-- The controller moves the data itself. -/
  dma : Bool
  /-- The events that the data phase waits for first. -/
  events : Word
  deriving DecidableEq, Repr

namespace Transfer

/-- The event that ends a command. -/
def commandComplete : Word :=
  NormalEvents.commandComplete.mask.setWidth 32

/-- The event that ends a data phase, or the time that the card is busy. -/
def transferComplete : Word :=
  NormalEvents.transferComplete.mask.setWidth 32

/-- The event that announces the next block at the data window. -/
def bufferReady : Direction → Word
  | .read => NormalEvents.bufferReadReady.mask.setWidth 32
  | .write => NormalEvents.bufferWriteReady.mask.setWidth 32

/-- Change the slot. -/
def modifySlot (change : Slot → Slot) : Task Transfer Unit :=
  modify fun transfer => { transfer with slot := change transfer.slot }

/-- Change the request. -/
def modifyRequest (change : Request → Request) : Task Transfer Unit :=
  modify fun transfer => { transfer with request := change transfer.request }

/-- Change the command of the request. -/
def modifyCommand (change : Command → Command) : Task Transfer Unit :=
  modifyRequest fun request => { request with command := change request.command }

/-- Go on with a value, or refuse what cannot be done without it. -/
def require {α : Type} (value? : Option α) (cause : Error) : Task Transfer α :=
  match value? with
  | some value => return value
  | none => throw cause

/-! ## Setting up the data phase -/

/-- Get bounce pages that a transfer of `length` bytes can go through, and tell whether there are
any. Small transfers do not need them; for large ones the pages are replaced by more of them. -/
def reservePages (length : Nat) : Task Transfer Bool := do
  let slot := (← get).slot
  if !slot.controller.usesBounce || decide (length ≤ slot.options.pioThreshold) then
    return false
  else if slot.bounceCapacity.any fun capacity => decide (length ≤ capacity) then
    return true
  else
    match ← (slot.allocateBounce length).run with
    | .ok slot =>
      modifySlot fun _ => slot
      return true
    -- Nothing is lost without pages, for the processor can move the data.
    | .error _ => return false

/-- Set up a data phase through the bounce pages. What is to be written is copied into them. -/
def setUpBounce (pages : BouncePages) (command : Command) (direction : Direction) :
    Task Transfer DataPhase := do
  -- Pages that were just replaced may still be too few for the transfer.
  let pages ← pages.prepare command.length
  modifySlot fun slot => { slot with bounce := some pages }
  if direction = .write then
    let source ← require
      (command.writeBuffer?.bind fun buffer => Memory.slice? buffer 0 command.length) .notSupported
    modifySlot fun slot => { slot with bounce := some (pages.fill source) }
  modifySlot fun slot => { slot with bounceInProgress := some direction }
  -- The write that starts the command is the one that orders this one.
  RegisterMap.admaAddress.writeUnfenced pages.tableAddress
  return { dma := true, events := transferComplete }

/-- Set up a data phase that the processor moves, or that goes through the bounce pages. -/
def setUpPio (command : Command) (direction : Direction) : Task Transfer DataPhase := do
  -- The buffer has to be long enough even if the data goes through the pages.
  if command.data.size < command.length then
    throw .notSupported
  let reserved ← reservePages command.length
  match reserved, (← get).slot.bounce with
  | true, some pages => setUpBounce pages command direction
  | _, _ => return { dma := false, events := bufferReady direction }

/-- Set up a data phase that the controller moves, following the scatter/gather list. -/
def setUpScatterGather (command : Command) : Task Transfer DataPhase := do
  let slot := (← get).slot
  if !slot.controller.supportsScatterGather then
    throw .notSupported
  let elements ← require (command.elements.filter fun elements => !elements.isEmpty) .notSupported
  let table ← require command.table .notSupported
  let wide := slot.capabilities.address64
  let (info, memory) ← DescriptorTable.build elements wide table.memory
  -- The memory keeps what was written to it, also if the table could not be finished.
  modifyCommand fun command => { command with table := some { table with memory } }
  discard info
  RegisterMap.admaAddress.writeUnfenced (table.address.setWidth 32)
  -- The upper half has no register where addresses are one word.
  if wide then
    RegisterMap.admaAddressHigh.writeUnfenced ((table.address >>> 32).setWidth 32)
  return { dma := true, events := transferComplete }

/-- Check the data phase of a command, if it has one, and set it up. -/
def setUpDataPhase (command : Command) : Task Transfer (Option (Direction × DataPhase)) := do
  if command.transferType = .none then
    return none
  else
    let direction ← command.checkDataPhase
    let phase ← match command.method with
      | .pio => setUpPio command direction
      | .scatterGather => setUpScatterGather command
    return some (direction, phase)

/-! ## Sending the command -/

/-- The events that a command and its data phase wait for first. -/
def firstEvents (command : Command) (phase : Option (Direction × DataPhase)) : Word :=
  commandComplete ||| (if command.responseType.isBusy then transferComplete else 0) |||
    match phase with
    | some (_, phase) => phase.events
    | none => 0

/-- The transfer mode of a command with its data phase. -/
def mode (command : Command) : Option (Direction × DataPhase) → HalfWord
  | some (direction, phase) => command.transferMode direction phase.dma
  | none => 0

/-- Write the registers that send a command. Only the last write needs a barrier, for it starts
the command. -/
def writeCommand (command : Command) (phase : Option (Direction × DataPhase)) : Program Unit := do
  RegisterMap.sdmaAddress.writeUnfenced 0
  RegisterMap.blockSize.writeUnfenced command.blockSize
  RegisterMap.blockCount.writeUnfenced command.blockCount
  RegisterMap.argument.writeUnfenced command.argument
  TransferMode.register.writeUnfenced (mode command phase)
  CommandWord.register.write (command.word phase.isSome)

/-- Send the command of the request. -/
def sendCommand : Task Transfer Progress := do
  -- What an earlier request left unfinished must not be mistaken for this one.
  modifySlot fun slot => { slot with bounceInProgress := none }
  modifyRequest fun request => { request with status := .success }
  let command := (← get).request.command
  let phase ← setUpDataPhase command
  -- An interrupt can come with the last write, so the mask is there before it.
  modifyRequest fun request => { request with requiredEvents := firstEvents command phase }
  writeCommand command phase
  return .pending

/-! ## Going on with the data phase -/

/-- Read so many words from the data window, without barriers, to the end of what was read
before. -/
def readWords : Nat → Memory → Program Memory
  | 0, block => return block
  | words + 1, block => do
    let word ← RegisterMap.dataWindow.readUnfenced
    readWords words (block ++ LittleEndian.bytes 4 word.toNat)

/-- Read so many bytes from the data window to the end of what was read before. -/
def readBytes : Nat → Memory → Program Memory
  | 0, block => return block
  | bytes + 1, block => do
    let byte ← RegisterMap.dataWindowByte.read
    readBytes bytes (block.push byte)

/-- Read a block from the data window: whole words, of which the first has a barrier, and then the
bytes that are left. -/
def readBlock (size : Nat) : Program Memory := do
  match size / 4 with
  | 0 => readBytes (size % 4) #[]
  | words + 1 =>
    Program.barrier
    readBytes (size % 4) (← readWords (words + 1) #[])

/-- Write bytes to the data window. -/
def writeBytes : List Byte → Program Unit
  | [] => return
  | byte :: rest => do
    RegisterMap.dataWindowByte.write byte
    writeBytes rest

/-- Write a block to the data window: whole words, of which the last has a barrier, and then the
bytes that are left. -/
def writeBlock : List Byte → Program Unit
  | a :: b :: c :: d :: rest => do
    let word : Word := BitVec.ofNat 32 (LittleEndian.value [a, b, c, d])
    -- Only the last whole word is ordered after what came before.
    match rest with
    | _ :: _ :: _ :: _ :: _ => RegisterMap.dataWindow.writeUnfenced word
    | _ => RegisterMap.dataWindow.write word
    writeBlock rest
  | tail => writeBytes tail

/-- Move the block at the cursor through the data window. -/
def moveBlock (command : Command) (direction : Direction) : Task Transfer Unit := do
  let size := command.blockSize.toNat
  match direction with
  | .read =>
    let buffer ← require command.readBuffer? .notSupported
    -- The block has to lie in the buffer before any of it is read.
    discard (require (Memory.slice? buffer command.cursor size) .notSupported)
    let block ← readBlock size
    modifyCommand fun command =>
      { command with data := .read (Memory.store buffer command.cursor block.toList) }
  | .write =>
    let buffer ← require command.writeBuffer? .notSupported
    let block ← require (Memory.slice? buffer command.cursor size) .notSupported
    writeBlock block.toList

/-- Go on with a data phase that the processor moves, by one block. -/
def continuePio : Task Transfer Progress := do
  let command := (← get).request.command
  if command.blockCount = 0 then
    throw .notSupported
  let direction ← require command.direction .notSupported
  moveBlock command direction
  -- The count goes down before it is known which event comes next.
  modifyCommand Command.advance
  if (← get).request.command.blockCount = 0 then
    modifyRequest fun request =>
      { request.addRequiredEvents transferComplete with status := .success }
  else
    modifyRequest fun request =>
      { request.addRequiredEvents (bufferReady direction) with status := .moreProcessingRequired }
  return .pending

/-- Tell the framework that the request is done. -/
def finish : Task Transfer Progress := do
  let request ← (← get).request.finish .success
  modifyRequest fun _ => request
  return .completed

/-- End a data phase that went through the bounce pages. What was read is copied out of them. -/
def finishBounce : Task Transfer Progress := do
  let slot := (← get).slot
  let command := (← get).request.command
  modifySlot fun slot => { slot with bounceInProgress := none }
  -- The controller has moved the data by now, and a write leaves nothing to be done.
  if slot.bounceInProgress = some .read then
    let pages ← require slot.bounce .insufficientResources
    let source ← require (Memory.slice? pages.buffer.data 0 command.length) .notSupported
    let buffer ← require command.readBuffer? .notSupported
    discard (require (Memory.slice? buffer 0 command.length) .notSupported)
    modifyCommand fun command =>
      { command with data := .read (Memory.store buffer 0 source.toList) }
  finish

/-- End a data phase that the controller moved, following the scatter/gather list. -/
def finishScatterGather : Task Transfer Progress := do
  if !(← get).slot.controller.supportsScatterGather then
    throw .notImplemented
  finish

/-- Go on with the data phase of the request. -/
def continueData : Task Transfer Progress := do
  let transfer ← get
  match transfer.request.command.method with
  | .scatterGather => finishScatterGather
  | .pio => if transfer.slot.bounceInProgress.isSome then finishBounce else continuePio

/-- Carry out the next step of the request. -/
def step : Task Transfer Progress := do
  modifyRequest Request.beginStep
  match (← get).request.requestType with
  | .commandNoTransfer => sendCommand
  | .commandWithTransfer => sendCommand
  | .startTransfer => continueData

end Transfer

namespace Slot

/-- Carry out the next step of a request. The slot and the request come back as the step left
them, also if it failed. -/
def issueRequest (slot : Slot) (request : Request) :
    Program (Except Error Progress × Slot × Request) := do
  let (result, transfer) ← (Transfer.step.run).run { slot, request }
  return (result, transfer.slot, transfer.request)

/-- Read the words of the response that a command got. -/
def readResponse (command : Command) : Program (List Word) :=
  (List.range command.responseType.words).mapM fun word => (RegisterMap.response word).read

end Slot

end SdHost
