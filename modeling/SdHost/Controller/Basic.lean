import SdHost.Capabilities
import SdHost.Controller.ChipRevision

/-!
# Controllers

All controllers speak the same register language. They differ in how far their capability
registers can be trusted and in how they move data by themselves, and a `Controller` is the
record of these differences.

## Modelled functions

* `Controller.busOffset`, `Controller.usesBounce`, `Controller.supportsScatterGather`,
  `Controller.clearsStatusOnReset`, `Controller.dmaSelect`: `dma_translation`, `uses_bounce_dma`,
  `supports_sg_dma`, `clears_status_on_reset` and `dma_select`;
* `Controller.capabilities`: `correct_raw_capabilities` and `correct_capabilities`, around the readout.
-/

namespace SdHost

/-- The forms of direct memory access. -/
inductive DmaSelect where
  /-- One run of memory. -/
  | sdma
  /-- A table of descriptors with 32-bit addresses. -/
  | adma32
  /-- A table of descriptors with 64-bit addresses. -/
  | adma64
  deriving DecidableEq, Repr

/-- The value of the select field in Host Control 1. -/
def DmaSelect.code : DmaSelect → Nat
  | .sdma => 0
  | .adma32 => 2
  | .adma64 => 3

/-- How a controller differs from others. -/
structure Controller where
  /-- A short name. -/
  name : String
  /-- Puts the capability register right before anything is read off it. -/
  correctRegister : DoubleWord → DoubleWord := id
  /-- Puts the capabilities right, given the register and whether there is a regulator. -/
  correct : DoubleWord → Bool → Capabilities → Capabilities := fun _ _ caps => caps
  /-- Offset added to every address that the controller is given. -/
  busOffset : Word := 0
  /-- Large requests that the processor should move are moved through bounce pages instead. -/
  usesBounce : Bool := false
  /-- Scatter/gather requests can be carried out. -/
  supportsScatterGather : Bool
  /-- Signaling at 1.8 V needs the external regulator switched. -/
  externalRegulator : Bool := false
  /-- A reset should also clear the pending normal interrupts. -/
  clearsStatusOnReset : Bool := false
  /-- The form of direct memory access to choose after a reset. -/
  dmaSelect : Capabilities → DmaSelect

namespace Controller

/-- A controller that follows the specification and takes scatter/gather requests. With `errata`,
what its capability register says about direct memory access and DDR50 is not believed. -/
def standard (errata : Bool) : Controller where
  name := "SDHC"
  correctRegister raw :=
    if errata then
      CapabilityBits.ddr50.put false
        (CapabilityBits.sdma.put false (CapabilityBits.adma2.put false raw))
    else raw
  supportsScatterGather := true
  clearsStatusOnReset := true
  dmaSelect caps :=
    if caps.scatterGather then
      if caps.address64 then .adma64 else .adma32
    else .sdma

/-- The controller of the BCM2711, on a chip of the given revision.

It claims more than its board wires up: there are four data lines, and 1.8 V is there for
signaling only, through a regulator that the firmware switches. The framework's buffers are out
of its reach, so that large requests go through bounce pages. -/
def brcme88c (revision : Word) : Controller where
  name := "BRCME88C"
  correct raw regulator caps :=
    let ddr50 := CapabilityBits.ddr50.test raw && regulator
    { caps with
      scatterGather := false
      busWidth8 := false
      voltage18 := false
      sdr50 := false
      hs200 := false
      hs400 := false
      ddr50
      signaling18 := ddr50
      sdr104 := ddr50 && CapabilityBits.sdr104.test raw
      descriptorSize := Descriptor.size32 }
  busOffset := ChipRevision.busOffset revision
  usesBounce := true
  supportsScatterGather := false
  externalRegulator := true
  dmaSelect _ := .adma32

/-- Each property of a controller with the name it is known by. -/
def readings (controller : Controller) : List (String × Reading) := [
  ("dma_translation", .number controller.busOffset.toNat),
  ("uses_bounce_dma", .flag controller.usesBounce),
  ("supports_sg_dma", .flag controller.supportsScatterGather),
  ("external_regulator", .flag controller.externalRegulator),
  ("clears_status_on_reset", .flag controller.clearsStatusOnReset)]

/-- The capabilities of a slot with this controller, from what its registers hold. -/
def capabilities (controller : Controller) (raw : DoubleWord) (spec : Byte)
    (maximumCurrent : Word) (pioThreshold : Nat) (regulator : Bool) : Capabilities :=
  let corrected := controller.correctRegister raw
  (controller.correct corrected regulator
    (Capabilities.ofRegister corrected spec pioThreshold)).withCurrentLimits
      corrected maximumCurrent

end Controller

end SdHost
