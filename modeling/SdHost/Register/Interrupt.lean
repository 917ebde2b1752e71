import SdHost.Register.Basic

/-!
# Interrupt words

The bits shared by the status, status enable and signal enable registers, once for the normal
interrupts and once for the error interrupts.
-/

namespace SdHost

namespace NormalEvents

def commandComplete : Field 16 := .flag 0

/-- The data phase is done, or the card is no longer busy. -/
def transferComplete : Field 16 := .flag 1

/-- The transfer stopped at a block gap. -/
def blockGap : Field 16 := .flag 2

/-- Direct memory access reached a boundary. -/
def dma : Field 16 := .flag 3

/-- The data window takes a block. -/
def bufferWriteReady : Field 16 := .flag 4

/-- The data window holds a block. -/
def bufferReadReady : Field 16 := .flag 5

def cardInsertion : Field 16 := .flag 6

def cardRemoval : Field 16 := .flag 7

/-- The card asks for attention. -/
def cardInterrupt : Field 16 := .flag 8

def intA : Field 16 := .flag 9

def intB : Field 16 := .flag 10

def intC : Field 16 := .flag 11

/-- The sampling clock should be tuned again. -/
def retuning : Field 16 := .flag 12

/-- The card sent an fx event. -/
def fx : Field 16 := .flag 13

/-- Some error interrupt is pending. -/
def errorInterrupt : Field 16 := .flag 15

def layout : Layout where
  name := "NormalInterrupts"
  bits := 16
  fields := [
    ("command_complete", commandComplete),
    ("transfer_complete", transferComplete),
    ("block_gap", blockGap),
    ("dma", dma),
    ("buffer_write_ready", bufferWriteReady),
    ("buffer_read_ready", bufferReadReady),
    ("card_insertion", cardInsertion),
    ("card_removal", cardRemoval),
    ("card_interrupt", cardInterrupt),
    ("int_a", intA),
    ("int_b", intB),
    ("int_c", intC),
    ("retuning", retuning),
    ("fx", fx),
    ("error_interrupt", errorInterrupt)]

end NormalEvents

namespace ErrorEvents

/-- No response came in time. -/
def commandTimeout : Field 16 := .flag 0

/-- The checksum of the response is wrong. -/
def commandCrc : Field 16 := .flag 1

/-- The response does not end as it should. -/
def commandEndBit : Field 16 := .flag 2

/-- The response belongs to another command. -/
def commandIndex : Field 16 := .flag 3

/-- Data did not come in time. -/
def dataTimeout : Field 16 := .flag 4

/-- The checksum of a block is wrong. -/
def dataCrc : Field 16 := .flag 5

/-- A block does not end as it should. -/
def dataEndBit : Field 16 := .flag 6

/-- The card draws too much current. -/
def currentLimit : Field 16 := .flag 7

/-- A command sent automatically failed. -/
def autoCmd : Field 16 := .flag 8

/-- A descriptor table could not be followed. -/
def adma : Field 16 := .flag 9

/-- Tuning failed. -/
def tuning : Field 16 := .flag 10

/-- The response reports an error. -/
def response : Field 16 := .flag 11

def layout : Layout where
  name := "ErrorInterrupts"
  bits := 16
  fields := [
    ("command_timeout", commandTimeout),
    ("command_crc", commandCrc),
    ("command_end_bit", commandEndBit),
    ("command_index", commandIndex),
    ("data_timeout", dataTimeout),
    ("data_crc", dataCrc),
    ("data_end_bit", dataEndBit),
    ("current_limit", currentLimit),
    ("auto_cmd", autoCmd),
    ("adma", adma),
    ("tuning", tuning),
    ("response", response)]

end ErrorEvents

end SdHost
