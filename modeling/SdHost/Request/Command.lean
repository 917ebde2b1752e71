import SdHost.Dma.Table
import SdHost.Register.Transfer

/-!
# Commands

A command for the card, with the data phase that may follow it. The framework numbers the kinds
of response, command and transfer; a number it does not know is refused.

## Modelled functions

* `Command.withBuffer`: `read` and `write` of a command, and `Command.withElements`: `sg_dma`;
* `Command.withLength`: `with_length`;
* `Command.checkBlocks`: `check_blocks`, and `Command.advance`: `advance`;
* `Command.readBuffer?`, `Command.writeBuffer?`: `read_buffer` and `write_buffer`;
* `Command.word`, `Command.transferMode`: the words that `send_command` writes.
-/

namespace SdHost

/-- The response that the card gives. -/
inductive ResponseType where
  /-- No response. -/
  | none
  /-- The normal response. -/
  | r1
  /-- The normal response, after which the card may be busy. -/
  | r1b
  /-- The identification or the card-specific data. -/
  | r2
  /-- The operating conditions. -/
  | r3
  /-- The operating conditions of an input/output card. -/
  | r4
  /-- The response of direct input/output. -/
  | r5
  /-- The response of direct input/output, after which the card may be busy. -/
  | r5b
  /-- The published card address. -/
  | r6
  deriving DecidableEq, Repr

def ResponseType.name : ResponseType → String
  | .none => "None"
  | .r1 => "R1"
  | .r1b => "R1b"
  | .r2 => "R2"
  | .r3 => "R3"
  | .r4 => "R4"
  | .r5 => "R5"
  | .r5b => "R5b"
  | .r6 => "R6"

namespace ResponseType

def ofCode (code : Word) : Except Error ResponseType :=
  match code.toNat with
  | 1 => .ok .none
  | 2 => .ok .r1
  | 3 => .ok .r1b
  | 4 => .ok .r2
  | 5 => .ok .r3
  | 6 => .ok .r4
  | 7 => .ok .r5
  | 8 => .ok .r5b
  | 9 => .ok .r6
  | _ => .error .notSupported

/-- Number of response words that the controller fills. -/
def words : ResponseType → Nat
  | .none => 0
  | .r2 => 4
  | _ => 1

/-- The value of the response field in the command word. -/
def select : ResponseType → Nat
  | .none => CommandWord.noResponse
  | .r1 | .r3 | .r4 | .r5 | .r6 => CommandWord.shortResponse
  | .r1b | .r5b => CommandWord.busyResponse
  | .r2 => CommandWord.longResponse

/-- Whether the response carries a checksum. -/
def hasChecksum : ResponseType → Bool
  | .none | .r3 | .r4 => false
  | _ => true

/-- Whether the response repeats the index of the command. -/
def hasIndex : ResponseType → Bool
  | .none | .r2 | .r3 | .r4 => false
  | _ => true

/-- Whether the card may be busy after the response. -/
def isBusy : ResponseType → Bool
  | .r1b | .r5b => true
  | _ => false

end ResponseType

/-- What a command does to a transfer that is going on. -/
inductive CommandType where
  | normal
  | suspend
  | resume
  | abort
  deriving DecidableEq, Repr

def CommandType.name : CommandType → String
  | .normal => "Normal"
  | .suspend => "Suspend"
  | .resume => "Resume"
  | .abort => "Abort"

namespace CommandType

def ofCode (code : Word) : Except Error CommandType :=
  match code.toNat with
  | 0 => .ok .normal
  | 1 => .ok .suspend
  | 2 => .ok .resume
  | 3 => .ok .abort
  | _ => .error .notSupported

/-- The value of the type field in the command word. -/
def select : CommandType → Nat
  | .normal => 0
  | .suspend => 1
  | .resume => 2
  | .abort => 3

end CommandType

/-- Whether a data phase follows a command, and of how many blocks. -/
inductive TransferType where
  /-- None. -/
  | none
  /-- One block. -/
  | singleBlock
  /-- Several blocks, stopped automatically. -/
  | multiBlock
  /-- Several blocks, not stopped. -/
  | multiBlockNoStop
  deriving DecidableEq, Repr

def TransferType.name : TransferType → String
  | .none => "None"
  | .singleBlock => "SingleBlock"
  | .multiBlock => "MultiBlock"
  | .multiBlockNoStop => "MultiBlockNoStop"

def TransferType.ofCode (code : Word) : Except Error TransferType :=
  match code.toNat with
  | 1 => .ok .none
  | 2 => .ok .singleBlock
  | 3 => .ok .multiBlock
  | 4 => .ok .multiBlockNoStop
  | _ => .error .notSupported

/-- Where data flows, seen from the host. -/
inductive Direction where
  /-- From the card to the host. -/
  | read
  /-- From the host to the card. -/
  | write
  deriving DecidableEq, Repr

/-- How the framework wants data moved. -/
inductive TransferMethod where
  /-- Through the data window. Where there are bounce pages, a large transfer may use them. -/
  | pio
  /-- By the controller, following the scatter/gather list. -/
  | scatterGather
  deriving DecidableEq, Repr

/-- The data buffer of a command. -/
inductive DataBuffer where
  /-- There is none. -/
  | none
  /-- Data from the card goes here. -/
  | read (memory : Memory)
  /-- Data for the card comes from here. -/
  | write (memory : Memory)
  deriving DecidableEq, Repr

namespace DataBuffer

/-- The bytes of the buffer. -/
def memory : DataBuffer → Memory
  | .none => #[]
  | .read memory => memory
  | .write memory => memory

/-- Number of bytes in the buffer. -/
def size (buffer : DataBuffer) : Nat :=
  buffer.memory.size

/-- The way that data flows through the buffer. -/
def direction : DataBuffer → Option Direction
  | .none => Option.none
  | .read _ => some .read
  | .write _ => some .write

end DataBuffer

/-- Memory that the framework provides for a descriptor table. -/
structure TableMemory where
  /-- The memory. -/
  memory : Memory
  /-- Its bus address. -/
  address : DoubleWord
  deriving DecidableEq, Repr

/-- A command and its data phase. -/
structure Command where
  /-- Index of the command, of which the card sees six bits. -/
  index : Byte
  /-- Argument of the command. -/
  argument : Word
  /-- The response that the card gives. -/
  responseType : ResponseType
  /-- What the command does to a transfer that is going on. -/
  commandType : CommandType := .normal
  /-- Whether a data phase follows. -/
  transferType : TransferType := .none
  /-- How the data is moved. -/
  method : TransferMethod := .pio
  /-- Bytes in a block. -/
  blockSize : HalfWord := 0
  /-- Blocks that are still to be moved. -/
  blockCount : HalfWord := 0
  /-- Bytes in the data phase. -/
  length : Nat := 0
  /-- The scatter/gather list. -/
  elements : Option (List Element) := none
  /-- Memory for the descriptor table. -/
  table : Option TableMemory := none
  /-- The data buffer. -/
  data : DataBuffer := .none
  /-- The way the data flows. -/
  direction : Option Direction := none
  /-- Bytes that went through the data window so far. -/
  cursor : Nat := 0
  deriving DecidableEq, Repr

namespace Command

/-- The number of whole blocks in a data phase, or zero if the block count register cannot hold
it. -/
def blocksIn (length : Nat) (blockSize : HalfWord) : HalfWord :=
  let blocks := length / blockSize.toNat
  if blocks < 0x10000 then BitVec.ofNat 16 blocks else 0

/-- Give a command a data phase of so many bytes. -/
def withLength (command : Command) (blockSize : HalfWord) (length : Nat) : Command :=
  let blockCount := blocksIn length blockSize
  { command with
    transferType := if 1 < blockCount then .multiBlock else .singleBlock
    blockSize
    blockCount
    length }

/-- Give a command a data phase that fills or empties a buffer. -/
def withBuffer (command : Command) (blockSize : HalfWord) (data : DataBuffer) : Command :=
  { command.withLength blockSize data.size with data, direction := data.direction }

/-- Give a command a data phase that the controller moves, following a scatter/gather list. Its
descriptor table is built when the command is sent. -/
def withElements (command : Command) (blockSize : HalfWord) (direction : Direction)
    (elements : List Element) (table : TableMemory) : Command :=
  { command.withLength blockSize (Element.total elements) with
    method := .scatterGather
    elements := some elements
    table := some table
    direction := some direction }

/-- The largest block that the block size register can describe. -/
def maxBlockSize : Nat := 2048

/-- Check that the data phase is a positive number of whole blocks, and that the block count is
that number. -/
def checkBlocks (command : Command) : Except Error Unit :=
  let size := command.blockSize.toNat
  if size = 0 ∨ command.length % size ≠ 0 then
    .error .notSupported
  else
    let blocks := command.length / size
    if 0 < blocks ∧ blocks = command.blockCount.toNat then .ok ()
    else .error .notSupported

/-- The way that the data phase flows, after checking that the registers can describe it. -/
def checkDataPhase (command : Command) : Except Error Direction := do
  if maxBlockSize < command.blockSize.toNat then
    throw .notSupported
  command.checkBlocks
  match command.direction with
  | some direction => return direction
  | none => throw .notSupported

/-- The buffer that a read fills. -/
def readBuffer? (command : Command) : Option Memory :=
  match command.data with
  | .read memory => some memory
  | _ => none

/-- The buffer that a write empties. -/
def writeBuffer? (command : Command) : Option Memory :=
  match command.data with
  | .write memory => some memory
  | _ => none

/-- Step past one block. -/
def advance (command : Command) : Command :=
  { command with
    blockCount := if command.blockCount = 0 then 0 else command.blockCount - 1
    cursor := command.cursor + command.blockSize.toNat }

/-- The command word that sends the command. -/
def word (command : Command) (dataPresent : Bool) : HalfWord :=
  let response := command.responseType
  CommandWord.dataPresent.put dataPresent
    (CommandWord.indexCheck.put response.hasIndex
      (CommandWord.crcCheck.put response.hasChecksum
        (CommandWord.responseType.set response.select
          (CommandWord.commandType.set command.commandType.select
            (CommandWord.index.set command.index.toNat 0)))))

/-- The transfer mode for a data phase that flows in the given direction. -/
def transferMode (command : Command) (direction : Direction) (dma : Bool) : HalfWord :=
  let several := decide (1 < command.blockCount)
  let mode := TransferMode.dmaEnable.put dma
    (TransferMode.directionRead.put (direction == .read) 0)
  if several then
    TransferMode.autoCmd.set TransferMode.stopAutomatically
      (TransferMode.multipleBlock.put true (TransferMode.blockCountEnable.put true mode))
  else mode

end Command

end SdHost
