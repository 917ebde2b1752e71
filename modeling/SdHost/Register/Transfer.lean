import SdHost.Register.Basic

/-!
# Registers that start a transfer

The two registers that say how data moves and which command goes out. Writing the command
register starts the command, so it is always the last of them to be written.
-/

namespace SdHost

namespace TransferMode

/-- How the data phase of the next command moves. -/
def register : Register .half := ⟨0x0C⟩

/-- The controller moves the data itself, following a descriptor table. -/
def dmaEnable : Field 16 := .flag 0

/-- The block count register limits the transfer. -/
def blockCountEnable : Field 16 := .flag 1

/-- Which command the controller sends by itself around the transfer. -/
def autoCmd : Field 16 := ⟨2, 2⟩

/-- Data flows from the card to the host. -/
def directionRead : Field 16 := .flag 4

/-- More than one block is moved. -/
def multipleBlock : Field 16 := .flag 5

/-- Value of `autoCmd` that stops a transfer with command 12. -/
def stopAutomatically : Nat := 1

/-- Value of `autoCmd` that announces the block count with command 23. -/
def announceAutomatically : Nat := 2

def layout : Layout where
  name := "TransferMode"
  bits := 16
  fields := [
    ("dma_enable", dmaEnable),
    ("block_count_enable", blockCountEnable),
    ("auto_cmd", autoCmd),
    ("direction_read", directionRead),
    ("multiple_block", multipleBlock)]

end TransferMode

namespace CommandWord

/-- The command itself. Writing it starts the command. -/
def register : Register .half := ⟨0x0E⟩

/-- Length of the response, and whether the card signals busy after it. -/
def responseType : Field 16 := ⟨0, 2⟩

/-- The checksum of the response is checked. -/
def crcCheck : Field 16 := .flag 3

/-- The command index in the response is checked. -/
def indexCheck : Field 16 := .flag 4

/-- A data phase follows. -/
def dataPresent : Field 16 := .flag 5

/-- Whether the command suspends, resumes or aborts a transfer. -/
def commandType : Field 16 := ⟨6, 2⟩

/-- Index of the command. -/
def index : Field 16 := ⟨8, 6⟩

/-- Value of `responseType` for a command without response. -/
def noResponse : Nat := 0

/-- Value of `responseType` for a response of 136 bits. -/
def longResponse : Nat := 1

/-- Value of `responseType` for a response of 48 bits. -/
def shortResponse : Nat := 2

/-- Value of `responseType` for a response of 48 bits after which the card may be busy. -/
def busyResponse : Nat := 3

def layout : Layout where
  name := "CommandRegister"
  bits := 16
  fields := [
    ("response_type", responseType),
    ("crc_check", crcCheck),
    ("index_check", indexCheck),
    ("data_present", dataPresent),
    ("command_type", commandType),
    ("index", index)]

end CommandWord

end SdHost
