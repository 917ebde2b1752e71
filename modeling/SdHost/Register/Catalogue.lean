import SdHost.Controller.ChipRevision
import SdHost.Dma.Descriptor
import SdHost.Register.CapabilityBits
import SdHost.Register.Control
import SdHost.Register.Interrupt
import SdHost.Register.Transfer

/-!
# The catalogue of layouts

All words with named fields, to be looked up by name.
-/

namespace SdHost.Layout

/-- All words with named fields. -/
def catalogue : List Layout := [
  TransferMode.layout,
  CommandWord.layout,
  PresentState.layout,
  HostControl1.layout,
  PowerControl.layout,
  BlockGapControl.layout,
  ClockControl.layout,
  TimeoutControl.layout,
  SoftwareReset.layout,
  NormalEvents.layout,
  ErrorEvents.layout,
  HostControl2.layout,
  CapabilityBits.layout,
  ChipRevision.layout,
  Descriptor.layout]

/-- The layout of a given name. -/
def find? (name : String) : Option Layout :=
  catalogue.find? fun layout => layout.name == name

/-- A register with named fields, in its place. -/
structure Located where
  /-- Name of the register. -/
  name : String
  /-- Width of the register. -/
  width : Width
  /-- Its place in the block. -/
  register : Register width

/-- The registers with named fields that have a place of their own. -/
def located : List Located := [
  ⟨"TransferMode", _, TransferMode.register⟩,
  ⟨"CommandRegister", _, CommandWord.register⟩,
  ⟨"PresentState", _, PresentState.register⟩,
  ⟨"HostControl1", _, HostControl1.register⟩,
  ⟨"PowerControl", _, PowerControl.register⟩,
  ⟨"BlockGapControl", _, BlockGapControl.register⟩,
  ⟨"ClockControl", _, ClockControl.register⟩,
  ⟨"TimeoutControl", _, TimeoutControl.register⟩,
  ⟨"SoftwareReset", _, SoftwareReset.register⟩,
  ⟨"HostControl2", _, HostControl2.register⟩]

end SdHost.Layout
