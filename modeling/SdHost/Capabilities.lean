import SdHost.Bus.Clock
import SdHost.Dma.Descriptor
import SdHost.Register.CapabilityBits

/-!
# Capabilities

What a slot can do, as the framework above it wants to know. Most of it is read off the
capability registers; what a particular controller gets wrong there is put right afterwards.

## Modelled functions

* `Capabilities.ofRegister`: `from_registers`;
* `Capabilities.withCurrentLimits`: `apply_current_limits`.
-/

namespace SdHost

/-- What a slot can do. -/
structure Capabilities where
  /-- Version of the specification, as the register counts. -/
  specVersion : Byte := 0
  /-- Requests that can be in flight at once. -/
  maximumOutstandingRequests : Nat := 0
  /-- Largest block, in bytes. -/
  maximumBlockSize : Nat := 0
  /-- Most blocks in one transfer. -/
  maximumBlockCount : Nat := 0
  /-- Base clock, in kHz. -/
  baseClockKHz : Word := 0
  /-- Time between two tunings, in seconds. Zero means that no timer runs. -/
  tuningTimerSeconds : Nat := 0
  /-- Transfers of up to this many bytes are never bounced. -/
  pioThreshold : Nat := 0
  /-- Reads should come as requests that the processor moves. -/
  usePioForRead : Bool := false
  /-- Writes should come as requests that the processor moves. -/
  usePioForWrite : Bool := false
  /-- The controller can address more than 4 GiB. -/
  address64 : Bool := false
  /-- Mask of the address bits that have to be zero in buffers for direct access. -/
  alignment : Nat := 0
  /-- Bytes in a descriptor. -/
  descriptorSize : Nat := 0
  /-- Scatter/gather requests are taken. -/
  scatterGather : Bool := false
  /-- Eight data lines. -/
  busWidth8 : Bool := false
  /-- High Speed timing. -/
  highSpeed : Bool := false
  /-- Signaling at 1.8 V. -/
  signaling18 : Bool := false
  /-- SDR50 mode. -/
  sdr50 : Bool := false
  /-- SDR104 mode. -/
  sdr104 : Bool := false
  /-- DDR50 mode. -/
  ddr50 : Bool := false
  /-- HS200 mode of embedded cards. -/
  hs200 : Bool := false
  /-- HS400 mode of embedded cards. -/
  hs400 : Bool := false
  /-- Driver type A. -/
  driverTypeA : Bool := false
  /-- Driver type B. -/
  driverTypeB : Bool := false
  /-- Driver type C. -/
  driverTypeC : Bool := false
  /-- Driver type D. -/
  driverTypeD : Bool := false
  /-- SDR50 needs tuning. -/
  tuningForSdr50 : Bool := false
  /-- Tuning again is left to software. -/
  softwareTuning : Bool := false
  /-- Transfers can be stopped with command 12 automatically. -/
  autoCmd12 : Bool := false
  /-- Transfers can be announced with command 23 automatically. -/
  autoCmd23 : Bool := false
  /-- Supply of 1.8 V. -/
  voltage18 : Bool := false
  /-- Supply of 3.0 V. -/
  voltage30 : Bool := false
  /-- Supply of 3.3 V. -/
  voltage33 : Bool := false
  /-- The slot can supply 200 mA. -/
  limit200 : Bool := false
  /-- The slot can supply 400 mA. -/
  limit400 : Bool := false
  /-- The slot can supply 600 mA. -/
  limit600 : Bool := false
  /-- The slot can supply 800 mA. -/
  limit800 : Bool := false
  /-- The state of the controller can be saved and restored. -/
  saveContext : Bool := false
  deriving DecidableEq, Repr

namespace Capabilities

open CapabilityBits

/-- The most requests that a slot can have in flight. -/
def maximumOutstanding : Nat := 1

/-- Read the capabilities off the capability register, without any corrections. -/
def ofRegister (raw : DoubleWord) (spec : Byte) (pioThreshold : Nat) : Capabilities :=
  let address64 := systemBus64V3.test raw
  let scatterGather := adma2.test raw
  { specVersion := spec
    maximumOutstandingRequests := maximumOutstanding
    maximumBlockSize := 512 <<< maxBlockLength.get raw
    maximumBlockCount := 0xFFFF
    baseClockKHz := BitVec.ofNat 32 (baseClockMhz.get raw * 1000)
    tuningTimerSeconds :=
      match retuningTimerCount.get raw with
      | 0 => 0
      | count + 1 => 1 <<< count
    pioThreshold
    usePioForRead := true
    usePioForWrite := true
    address64
    alignment := if address64 then 7 else 3
    descriptorSize := if scatterGather && address64 then Descriptor.size64 else Descriptor.size32
    scatterGather
    busWidth8 := bus8bit.test raw
    highSpeed := CapabilityBits.highSpeed.test raw
    signaling18 :=
      CapabilityBits.sdr50.test raw || CapabilityBits.ddr50.test raw
        || CapabilityBits.sdr104.test raw
    sdr50 := CapabilityBits.sdr50.test raw
    sdr104 := CapabilityBits.sdr104.test raw
    ddr50 := CapabilityBits.ddr50.test raw
    driverTypeA := CapabilityBits.driverTypeA.test raw
    driverTypeB := true
    driverTypeC := CapabilityBits.driverTypeC.test raw
    driverTypeD := CapabilityBits.driverTypeD.test raw
    tuningForSdr50 := CapabilityBits.tuningForSdr50.test raw
    softwareTuning := retuningModes.get raw == 0
    autoCmd12 := true
    autoCmd23 := decide (specVersion3 ≤ spec)
    voltage18 := voltage1_8.test raw
    voltage30 := voltage3_0.test raw
    voltage33 := voltage3_3.test raw }

/-- The most current the slot can supply, in milliamperes. Each voltage has a byte of its own in
the register, and the highest voltage that can be supplied is taken for the tightest. -/
def milliamperes (raw : DoubleWord) (maximumCurrent : Word) : Nat :=
  let unit (byte : Nat) : Nat := (maximumCurrent.extractLsb' (8 * byte) 8).toNat * 4
  if voltage3_3.test raw then unit 0
  else if voltage3_0.test raw then unit 1
  else if voltage1_8.test raw then unit 2
  else 0

/-- Work out which currents the slot can supply. -/
def withCurrentLimits (raw : DoubleWord) (maximumCurrent : Word) (caps : Capabilities) :
    Capabilities :=
  let available := milliamperes raw maximumCurrent
  { caps with
    limit200 := decide (200 ≤ available)
    limit400 := decide (400 ≤ available)
    limit600 := decide (600 ≤ available)
    limit800 := decide (800 ≤ available) }

/-- Each capability with the name it is known by. -/
def readings (caps : Capabilities) : List (String × Reading) := [
  ("spec_version", .number caps.specVersion.toNat),
  ("maximum_outstanding_requests", .number caps.maximumOutstandingRequests),
  ("maximum_block_size", .number caps.maximumBlockSize),
  ("maximum_block_count", .number caps.maximumBlockCount),
  ("base_clock_khz", .number caps.baseClockKHz.toNat),
  ("tuning_timer_count_seconds", .number caps.tuningTimerSeconds),
  ("pio_threshold", .number caps.pioThreshold),
  ("use_pio_for_read", .flag caps.usePioForRead),
  ("use_pio_for_write", .flag caps.usePioForWrite),
  ("address_64bit", .flag caps.address64),
  ("alignment", .number caps.alignment),
  ("dma_descriptor_size", .number caps.descriptorSize),
  ("scatter_gather_dma", .flag caps.scatterGather),
  ("bus_width_8", .flag caps.busWidth8),
  ("high_speed", .flag caps.highSpeed),
  ("signaling_1_8", .flag caps.signaling18),
  ("sdr50", .flag caps.sdr50),
  ("sdr104", .flag caps.sdr104),
  ("ddr50", .flag caps.ddr50),
  ("hs200", .flag caps.hs200),
  ("hs400", .flag caps.hs400),
  ("driver_type_a", .flag caps.driverTypeA),
  ("driver_type_b", .flag caps.driverTypeB),
  ("driver_type_c", .flag caps.driverTypeC),
  ("driver_type_d", .flag caps.driverTypeD),
  ("tuning_for_sdr50", .flag caps.tuningForSdr50),
  ("software_tuning", .flag caps.softwareTuning),
  ("auto_cmd12", .flag caps.autoCmd12),
  ("auto_cmd23", .flag caps.autoCmd23),
  ("voltage_1_8", .flag caps.voltage18),
  ("voltage_3_0", .flag caps.voltage30),
  ("voltage_3_3", .flag caps.voltage33),
  ("limit_200ma", .flag caps.limit200),
  ("limit_400ma", .flag caps.limit400),
  ("limit_600ma", .flag caps.limit600),
  ("limit_800ma", .flag caps.limit800),
  ("save_context", .flag caps.saveContext)]

end Capabilities

end SdHost
