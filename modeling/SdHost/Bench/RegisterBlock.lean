import SdHost.Register.Control
import SdHost.Register.Map

/-!
# A simulated register block

A register block for bench tests. Most registers just store what is written to them. A few behave
as the hardware does, and some of these can be told to misbehave: resets and clocks that take
their time, power settings and signaling bits that do not latch, data lines at any level.
-/

namespace SdHost.Bench

/-- How the simulated hardware behaves. -/
structure Behaviour where
  /-- How often a reset reads back unfinished. -/
  resetPolls : Nat := 0
  /-- How often the internal clock reads back unsettled. -/
  clockPolls : Nat := 0
  /-- How many writes to Power Control are ignored. -/
  powerIgnore : Nat := 0
  /-- The bits of Power Control that can be one. -/
  powerAnd : Byte := 0xFF
  /-- The bits of Power Control that are always one. -/
  powerOr : Byte := 0
  /-- The bits of Host Control 2 that can be one. -/
  control2And : HalfWord := 0xFFFF
  /-- The bits of Host Control 2 that are always one. -/
  control2Or : HalfWord := 0
  /-- Levels of the data lines while the card is not clocked. -/
  linesUnclocked : Nat := 0
  /-- Levels of the data lines while the card is clocked. -/
  linesClocked : Nat := 15

/-- Change the setting of a given name, if there is one. -/
def Behaviour.set? (behaviour : Behaviour) (name : String) (value : Nat) : Option Behaviour :=
  match name with
  | "reset_polls" => some { behaviour with resetPolls := value }
  | "clock_polls" => some { behaviour with clockPolls := value }
  | "power_ignore" => some { behaviour with powerIgnore := value }
  | "power_and" => some { behaviour with powerAnd := BitVec.ofNat 8 value }
  | "power_or" => some { behaviour with powerOr := BitVec.ofNat 8 value }
  | "hc2_and" => some { behaviour with control2And := BitVec.ofNat 16 value }
  | "hc2_or" => some { behaviour with control2Or := BitVec.ofNat 16 value }
  | "dat_off" => some { behaviour with linesUnclocked := value }
  | "dat_on" => some { behaviour with linesClocked := value }
  | _ => none

/-- A simulated register block. -/
structure RegisterBlock where
  /-- What the registers store. -/
  bytes : Memory
  /-- How the hardware behaves. -/
  behaviour : Behaviour := {}
  /-- How often the current reset still reads back unfinished. -/
  resetLeft : Nat := 0
  /-- How often the internal clock still reads back unsettled. -/
  clockLeft : Nat := 0
  /-- What can be read from the data window. -/
  input : List Byte := []
  /-- What was written to the data window. -/
  output : Memory := #[]

namespace RegisterBlock

/-- What a register stores. -/
def peek (block : RegisterBlock) (width : Width) (offset : Nat) : BitVec width.bits :=
  BitVec.ofNat _ (Memory.load block.bytes offset width.bytes)

/-- Change what a register stores. -/
def poke (block : RegisterBlock) (width : Width) (offset : Nat) (value : BitVec width.bits) :
    RegisterBlock :=
  { block with
    bytes := Memory.store block.bytes offset (LittleEndian.bytes width.bytes value.toNat) }

/-- A block of a controller with these capabilities, this maximum current and this version of the
specification, and with a card in its slot. -/
def new (capabilities : DoubleWord) (maximumCurrent : Word) (spec : Byte) : RegisterBlock :=
  let empty : RegisterBlock := { bytes := Memory.zeroed registerBlockSize }
  let identified := (empty.poke .word RegisterMap.capabilitiesLow.offset
    (capabilities.setWidth 32)).poke .word RegisterMap.capabilitiesHigh.offset
    ((capabilities >>> 32).setWidth 32)
  ((identified.poke .word RegisterMap.maximumCurrent.offset maximumCurrent).poke .byte
    RegisterMap.specVersion.offset spec).poke .word PresentState.register.offset 0x000B0000

/-- Take bytes out of the data window. There are zeros in an empty one. -/
def takeInput (block : RegisterBlock) (width : Width) : BitVec width.bits × RegisterBlock :=
  (BitVec.ofNat _ (LittleEndian.value (block.input.take width.bytes)),
    { block with input := block.input.drop width.bytes })

/-- The present state, with the data lines at their current levels. -/
def presentState (block : RegisterBlock) : Word :=
  let clock := block.peek .half ClockControl.register.offset
  let lines := if ClockControl.sdClockEnable.test clock then block.behaviour.linesClocked
    else block.behaviour.linesUnclocked
  PresentState.datLines.set lines (block.peek .word PresentState.register.offset)

/-- Go on with a reset. -/
def advanceReset (block : RegisterBlock) : RegisterBlock :=
  match block.resetLeft with
  | 0 => block.poke .byte SoftwareReset.register.offset 0
  | left + 1 => { block with resetLeft := left }

/-- Go on with settling the internal clock. -/
def advanceClock (block : RegisterBlock) : RegisterBlock :=
  let clock := block.peek .half ClockControl.register.offset
  if ClockControl.internalClockEnable.test clock then
    match block.clockLeft with
    | 0 =>
      block.poke .half ClockControl.register.offset (ClockControl.internalClockStable.put true clock)
    | left + 1 => { block with clockLeft := left }
  else block

/-- Read a register. -/
def read (block : RegisterBlock) (width : Width) (offset : Nat) :
    BitVec width.bits × RegisterBlock :=
  if offset = RegisterMap.dataWindow.offset then
    block.takeInput width
  else
    match width, offset with
    | .word, 0x24 => (block.presentState, block)
    | .byte, 0x2F =>
      let block := block.advanceReset
      (block.peek .byte SoftwareReset.register.offset, block)
    | .half, 0x2C =>
      let block := block.advanceClock
      (block.peek .half ClockControl.register.offset, block)
    | width, offset => (block.peek width offset, block)

/-- Clear the pending interrupts whose bits are one in the value, and bring the error summary up
to date. -/
def clearPending (block : RegisterBlock) (offset : Nat) (value : HalfWord) : RegisterBlock :=
  let block := block.poke .half offset (block.peek .half offset &&& ~~~value)
  -- The summary bit follows the errors, whichever register was written.
  let summary := decide (block.peek .half RegisterMap.errorStatus.offset ≠ 0)
  let pending : HalfWord := block.peek .half RegisterMap.normalStatus.offset
  block.poke .half RegisterMap.normalStatus.offset
    (if summary then pending ||| 0x8000 else pending &&& 0x7FFF)

/-- Write to Power Control, which may ignore it or keep some bits. -/
def writePower (block : RegisterBlock) (value : Byte) : RegisterBlock :=
  match block.behaviour.powerIgnore with
  | 0 =>
    block.poke .byte PowerControl.register.offset
      ((value &&& block.behaviour.powerAnd) ||| block.behaviour.powerOr)
  | left + 1 => { block with behaviour := { block.behaviour with powerIgnore := left } }

/-- Write a register. -/
def write (block : RegisterBlock) (width : Width) (offset : Nat) (value : BitVec width.bits) :
    RegisterBlock :=
  if offset = RegisterMap.dataWindow.offset then
    { block with output := block.output ++ LittleEndian.bytes width.bytes value.toNat }
  else
    match width, offset, value with
    | .byte, 0x2F, value =>
      { block.poke .byte SoftwareReset.register.offset value with
        resetLeft := block.behaviour.resetPolls }
    | .half, 0x2C, value =>
      { block.poke .half ClockControl.register.offset
          (ClockControl.internalClockStable.put false value) with
        clockLeft := block.behaviour.clockPolls }
    | .byte, 0x29, value => block.writePower value
    | .half, 0x3E, value =>
      block.poke .half HostControl2.register.offset
        ((value &&& block.behaviour.control2And) ||| block.behaviour.control2Or)
    | .half, 0x30, value => block.clearPending RegisterMap.normalStatus.offset value
    | .half, 0x32, value => block.clearPending RegisterMap.errorStatus.offset value
    | width, offset, value => block.poke width offset value

/-- Raise interrupts. Errors raise the error summary with them. -/
def raise (block : RegisterBlock) (normal errors : HalfWord) : RegisterBlock :=
  let normal := if errors = 0 then normal else normal ||| 0x8000
  let block := block.poke .half RegisterMap.normalStatus.offset
    (block.peek .half RegisterMap.normalStatus.offset ||| normal)
  block.poke .half RegisterMap.errorStatus.offset
    (block.peek .half RegisterMap.errorStatus.offset ||| errors)

end RegisterBlock

end SdHost.Bench
