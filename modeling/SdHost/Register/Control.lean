import SdHost.Register.Basic

/-!
# Registers that report and control the bus

The present state of the card and its lines, and the registers that set up bus width, timing,
power, clock and signaling, and that reset the controller.
-/

namespace SdHost

namespace PresentState

/-- What the controller sees on the lines right now. -/
def register : Register .word := ⟨0x24⟩

/-- No command may be sent. -/
def commandInhibit : Field 32 := .flag 0

/-- No command with a data phase may be sent. -/
def dataInhibit : Field 32 := .flag 1

/-- A data line is in use. -/
def datLineActive : Field 32 := .flag 2

/-- Data is being written. -/
def writeTransferActive : Field 32 := .flag 8

/-- Data is being read. -/
def readTransferActive : Field 32 := .flag 9

/-- The data window takes data. -/
def bufferWriteEnable : Field 32 := .flag 10

/-- The data window holds data. -/
def bufferReadEnable : Field 32 := .flag 11

def cardInserted : Field 32 := .flag 16

/-- The card detection has settled. -/
def cardStateStable : Field 32 := .flag 17

def cardDetectLevel : Field 32 := .flag 18

/-- The card may be written; the write-protect switch is off. -/
def writeEnabled : Field 32 := .flag 19

/-- Levels of the four data lines. -/
def datLines : Field 32 := ⟨20, 4⟩

def cmdLine : Field 32 := .flag 24

def layout : Layout where
  name := "PresentState"
  bits := 32
  fields := [
    ("command_inhibit", commandInhibit),
    ("data_inhibit", dataInhibit),
    ("dat_line_active", datLineActive),
    ("write_transfer_active", writeTransferActive),
    ("read_transfer_active", readTransferActive),
    ("buffer_write_enable", bufferWriteEnable),
    ("buffer_read_enable", bufferReadEnable),
    ("card_inserted", cardInserted),
    ("card_state_stable", cardStateStable),
    ("card_detect_level", cardDetectLevel),
    ("write_enabled", writeEnabled),
    ("dat_lines", datLines),
    ("cmd_line", cmdLine)]

end PresentState

namespace HostControl1

/-- Width, timing and direct memory access of the host. -/
def register : Register .byte := ⟨0x28⟩

def led : Field 8 := .flag 0

def width4 : Field 8 := .flag 1

def highSpeed : Field 8 := .flag 2

/-- Which form of direct memory access is used. -/
def dmaSelect : Field 8 := ⟨3, 2⟩

def width8 : Field 8 := .flag 5

/-- Level shown in place of the card detection pin. -/
def cardDetectTest : Field 8 := .flag 6

/-- The test level stands in for the card detection pin. -/
def cardDetectSignal : Field 8 := .flag 7

def layout : Layout where
  name := "HostControl1"
  bits := 8
  fields := [
    ("led", led),
    ("width_4", width4),
    ("high_speed", highSpeed),
    ("dma_select", dmaSelect),
    ("width_8", width8),
    ("card_detect_test", cardDetectTest),
    ("card_detect_signal", cardDetectSignal)]

end HostControl1

namespace PowerControl

/-- Supply voltage of the card. -/
def register : Register .byte := ⟨0x29⟩

/-- The card is powered. -/
def powerOn : Field 8 := .flag 0

/-- Which voltage the card is powered with. -/
def voltageSelect : Field 8 := ⟨1, 3⟩

/-- Value of `voltageSelect` for 3.3 V. -/
def select33 : Nat := 7

/-- Value of `voltageSelect` for 3.0 V. -/
def select30 : Nat := 6

/-- Value of `voltageSelect` for 1.8 V. -/
def select18 : Nat := 5

def layout : Layout where
  name := "PowerControl"
  bits := 8
  fields := [
    ("power_on", powerOn),
    ("voltage_select", voltageSelect)]

end PowerControl

namespace BlockGapControl

/-- What happens between two blocks. -/
def register : Register .byte := ⟨0x2A⟩

/-- The transfer stops at the next gap. -/
def stopAtGap : Field 8 := .flag 0

/-- A stopped transfer goes on. -/
def continueRequest : Field 8 := .flag 1

/-- The card may be asked to wait during a read. -/
def readWait : Field 8 := .flag 2

/-- A gap raises an interrupt. -/
def interruptAtGap : Field 8 := .flag 3

def layout : Layout where
  name := "BlockGapControl"
  bits := 8
  fields := [
    ("stop_at_gap", stopAtGap),
    ("continue_request", continueRequest),
    ("read_wait", readWait),
    ("interrupt_at_gap", interruptAtGap)]

end BlockGapControl

namespace ClockControl

/-- The clock of the card. -/
def register : Register .half := ⟨0x2C⟩

/-- The internal clock runs. -/
def internalClockEnable : Field 16 := .flag 0

/-- The internal clock has settled. -/
def internalClockStable : Field 16 := .flag 1

/-- The card is clocked. -/
def sdClockEnable : Field 16 := .flag 2

/-- The phase-locked loop runs. -/
def pllEnable : Field 16 := .flag 3

/-- The clock comes from the programmable generator. -/
def clockGeneratorSelect : Field 16 := .flag 5

/-- The two high bits of half the divisor. -/
def frequencySelectUpper : Field 16 := ⟨6, 2⟩

/-- The eight low bits of half the divisor. -/
def frequencySelect : Field 16 := ⟨8, 8⟩

/-- The divisor a clock control word stands for, where zero means that the base clock is not
divided. -/
def divisor (raw : HalfWord) : Nat :=
  2 * (256 * frequencySelectUpper.get raw + frequencySelect.get raw)

def layout : Layout where
  name := "ClockControl"
  bits := 16
  fields := [
    ("internal_clock_enable", internalClockEnable),
    ("internal_clock_stable", internalClockStable),
    ("sd_clock_enable", sdClockEnable),
    ("pll_enable", pllEnable),
    ("clock_generator_select", clockGeneratorSelect),
    ("frequency_select_upper", frequencySelectUpper),
    ("frequency_select", frequencySelect)]

end ClockControl

namespace TimeoutControl

/-- How long the controller waits for data. -/
def register : Register .byte := ⟨0x2E⟩

/-- The longest wait, as a power of two of the timeout clock. -/
def dataTimeoutCounter : Field 8 := ⟨0, 4⟩

/-- The longest wait that can be set. -/
def longest : Nat := 14

def layout : Layout where
  name := "TimeoutControl"
  bits := 8
  fields := [
    ("data_timeout_counter", dataTimeoutCounter)]

end TimeoutControl

namespace SoftwareReset

/-- Resets parts of the controller. Its bits clear when the reset is done. -/
def register : Register .byte := ⟨0x2F⟩

/-- Resets everything but the card detection. -/
def all : Field 8 := .flag 0

def cmdLine : Field 8 := .flag 1

/-- Resets the data circuit. -/
def datLine : Field 8 := .flag 2

def layout : Layout where
  name := "SoftwareReset"
  bits := 8
  fields := [
    ("all", all),
    ("cmd_line", cmdLine),
    ("dat_line", datLine)]

end SoftwareReset

namespace HostControl2

/-- Signaling and tuning of the host. -/
def register : Register .half := ⟨0x3E⟩

/-- The ultra high speed mode. -/
def uhsMode : Field 16 := ⟨0, 3⟩

/-- The lines are driven with 1.8 V. -/
def signaling1_8 : Field 16 := .flag 3

/-- The driver type. -/
def driverStrength : Field 16 := ⟨4, 2⟩

/-- The tuning procedure runs. -/
def executeTuning : Field 16 := .flag 6

/-- Data is sampled with the tuned clock. -/
def samplingClockSelect : Field 16 := .flag 7

/-- The card may interrupt without a clock. -/
def asyncInterruptEnable : Field 16 := .flag 14

/-- Clock and driver settings come from the presets. -/
def presetValueEnable : Field 16 := .flag 15

def layout : Layout where
  name := "HostControl2"
  bits := 16
  fields := [
    ("uhs_mode", uhsMode),
    ("signaling_1_8", signaling1_8),
    ("driver_strength", driverStrength),
    ("execute_tuning", executeTuning),
    ("sampling_clock_select", samplingClockSelect),
    ("async_interrupt_enable", asyncInterruptEnable),
    ("preset_value_enable", presetValueEnable)]

end HostControl2

end SdHost
