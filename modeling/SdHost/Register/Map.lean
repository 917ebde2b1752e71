import SdHost.Register.Basic

/-!
# The register map

The registers that are moved as whole words, without fields of their own.
-/

namespace SdHost.RegisterMap

/-- Address for direct access to one run of memory, and the block count of newer hosts. -/
def sdmaAddress : Register .word := ⟨0x00⟩

/-- Bytes in a block. -/
def blockSize : Register .half := ⟨0x04⟩

/-- Blocks in a transfer. -/
def blockCount : Register .half := ⟨0x06⟩

/-- Argument of the next command. -/
def argument : Register .word := ⟨0x08⟩

/-- The response to the last command, four words in a row. -/
def response (word : Nat) : Register .word := ⟨0x10 + 4 * word⟩

/-- The window through which data moves when the processor moves it, a word at a time. -/
def dataWindow : Register .word := ⟨0x20⟩

/-- The same window, a byte at a time. -/
def dataWindowByte : Register .byte := ⟨0x20⟩

/-- Pending normal interrupts. Writing a one clears a bit. -/
def normalStatus : Register .half := ⟨0x30⟩

/-- Pending error interrupts. Writing a one clears a bit. -/
def errorStatus : Register .half := ⟨0x32⟩

/-- Normal interrupts that become pending when they happen. -/
def normalStatusEnable : Register .half := ⟨0x34⟩

/-- Error interrupts that become pending when they happen. -/
def errorStatusEnable : Register .half := ⟨0x36⟩

/-- Pending normal interrupts that reach the processor. -/
def normalSignalEnable : Register .half := ⟨0x38⟩

/-- Pending error interrupts that reach the processor. -/
def errorSignalEnable : Register .half := ⟨0x3A⟩

/-- What went wrong with a command sent automatically. -/
def autoCommandErrors : Register .half := ⟨0x3C⟩

/-- Low word of the capabilities. -/
def capabilitiesLow : Register .word := ⟨0x40⟩

/-- High word of the capabilities. -/
def capabilitiesHigh : Register .word := ⟨0x44⟩

/-- The most current the slot can supply, a byte for each voltage, in units of four milliamperes. -/
def maximumCurrent : Register .word := ⟨0x48⟩

/-- Raises errors of commands sent automatically, for tests. -/
def forceAutoCommandErrors : Register .half := ⟨0x50⟩

/-- Raises error interrupts, for tests. -/
def forceErrors : Register .half := ⟨0x52⟩

/-- Where in its table the controller found an error. -/
def admaError : Register .byte := ⟨0x54⟩

/-- Low word of the address of the descriptor table. -/
def admaAddress : Register .word := ⟨0x58⟩

/-- High word of the address of the descriptor table. -/
def admaAddressHigh : Register .word := ⟨0x5C⟩

/-- Clock and driver presets of the speed modes, a half word each. -/
def presetValue (mode : Nat) : Register .half := ⟨0x60 + 2 * mode⟩

/-- Slots with a pending interrupt. -/
def slotInterrupts : Register .half := ⟨0xFC⟩

/-- Version of the specification that the controller follows. -/
def specVersion : Register .byte := ⟨0xFE⟩

/-- Version of the controller, as its vendor counts. -/
def vendorVersion : Register .byte := ⟨0xFF⟩

/-- The offset of each register with the name it is known by, where the first register of a row
stands for the row. -/
def named : List (String × Nat) := [
  ("sdma_system_address", sdmaAddress.offset),
  ("block_size", blockSize.offset),
  ("block_count", blockCount.offset),
  ("argument", argument.offset),
  ("response", (response 0).offset),
  ("data_port", dataWindow.offset),
  ("normal_interrupt_status", normalStatus.offset),
  ("error_interrupt_status", errorStatus.offset),
  ("normal_interrupt_status_enable", normalStatusEnable.offset),
  ("error_interrupt_status_enable", errorStatusEnable.offset),
  ("normal_interrupt_signal_enable", normalSignalEnable.offset),
  ("error_interrupt_signal_enable", errorSignalEnable.offset),
  ("auto_cmd_error_status", autoCommandErrors.offset),
  ("capabilities", capabilitiesLow.offset),
  ("capabilities_high", capabilitiesHigh.offset),
  ("maximum_current", maximumCurrent.offset),
  ("force_auto_cmd_error", forceAutoCommandErrors.offset),
  ("force_error_interrupt", forceErrors.offset),
  ("adma_error_status", admaError.offset),
  ("adma_system_address", admaAddress.offset),
  ("adma_system_address_high", admaAddressHigh.offset),
  ("preset_values", (presetValue 0).offset),
  ("slot_interrupt_status", slotInterrupts.offset),
  ("spec_version", specVersion.offset),
  ("vendor_version", vendorVersion.offset)]

end SdHost.RegisterMap
