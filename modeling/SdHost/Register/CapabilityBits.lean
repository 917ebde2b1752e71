import SdHost.Register.Basic

/-!
# The capabilities register

What the controller says it can do, in a register of two words.
-/

namespace SdHost

namespace CapabilityBits

/-- Frequency of the timeout clock. -/
def timeoutClockFrequency : Field 64 := ⟨0, 6⟩

/-- The timeout clock is given in MHz rather than kHz. -/
def timeoutClockUnitMhz : Field 64 := .flag 7

/-- Base clock, in MHz. -/
def baseClockMhz : Field 64 := ⟨8, 8⟩

/-- Largest block: 512 bytes, doubled this many times. Three is reserved. -/
def maxBlockLength : Field 64 := ⟨16, 2⟩

/-- Eight data lines. -/
def bus8bit : Field 64 := .flag 18

/-- Direct memory access by descriptor table. -/
def adma2 : Field 64 := .flag 19

/-- High Speed timing. -/
def highSpeed : Field 64 := .flag 21

/-- Direct memory access to one run of memory. -/
def sdma : Field 64 := .flag 22

/-- Transfers can be suspended. -/
def suspendResume : Field 64 := .flag 23

/-- Supply of 3.3 V. -/
def voltage3_3 : Field 64 := .flag 24

/-- Supply of 3.0 V. -/
def voltage3_0 : Field 64 := .flag 25

/-- Supply of 1.8 V. -/
def voltage1_8 : Field 64 := .flag 26

/-- Addresses of 64 bits in version 4 mode. -/
def systemBus64V4 : Field 64 := .flag 27

/-- Addresses of 64 bits in version 3 mode. -/
def systemBus64V3 : Field 64 := .flag 28

/-- The card may interrupt without a clock. -/
def asyncInterrupt : Field 64 := .flag 29

/-- Removable, embedded or shared slot. -/
def slotType : Field 64 := ⟨30, 2⟩

/-- SDR50 mode. -/
def sdr50 : Field 64 := .flag 32

/-- SDR104 mode. -/
def sdr104 : Field 64 := .flag 33

/-- DDR50 mode. -/
def ddr50 : Field 64 := .flag 34

/-- UHS-II. -/
def uhs2 : Field 64 := .flag 35

/-- Driver type A. -/
def driverTypeA : Field 64 := .flag 36

/-- Driver type C. -/
def driverTypeC : Field 64 := .flag 37

/-- Driver type D. -/
def driverTypeD : Field 64 := .flag 38

/-- Time between two tunings: one second, doubled this many times less one. -/
def retuningTimerCount : Field 64 := ⟨40, 4⟩

/-- SDR50 needs tuning. -/
def tuningForSdr50 : Field 64 := .flag 45

/-- Who starts tuning again. -/
def retuningModes : Field 64 := ⟨46, 2⟩

/-- Multiplier of the programmable clock. -/
def clockMultiplier : Field 64 := ⟨48, 8⟩

def layout : Layout where
  name := "Capabilities"
  bits := 64
  fields := [
    ("timeout_clock_frequency", timeoutClockFrequency),
    ("timeout_clock_unit_mhz", timeoutClockUnitMhz),
    ("base_clock_mhz", baseClockMhz),
    ("max_block_length", maxBlockLength),
    ("bus_8bit", bus8bit),
    ("adma2", adma2),
    ("high_speed", highSpeed),
    ("sdma", sdma),
    ("suspend_resume", suspendResume),
    ("voltage_3_3", voltage3_3),
    ("voltage_3_0", voltage3_0),
    ("voltage_1_8", voltage1_8),
    ("system_bus_64_v4", systemBus64V4),
    ("system_bus_64_v3", systemBus64V3),
    ("async_interrupt", asyncInterrupt),
    ("slot_type", slotType),
    ("sdr50", sdr50),
    ("sdr104", sdr104),
    ("ddr50", ddr50),
    ("uhs2", uhs2),
    ("driver_type_a", driverTypeA),
    ("driver_type_c", driverTypeC),
    ("driver_type_d", driverTypeD),
    ("retuning_timer_count", retuningTimerCount),
    ("tuning_for_sdr50", tuningForSdr50),
    ("retuning_modes", retuningModes),
    ("clock_multiplier", clockMultiplier)]

end CapabilityBits

end SdHost
