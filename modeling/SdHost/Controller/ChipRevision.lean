import SdHost.Register.Basic

/-!
# Chip revisions

The revision word of the chip that a controller is part of. It tells at which offset the
controller sees the memory of the processor.

## Modelled functions

* `ChipRevision.busOffset`: `dma_translation` of a chip revision.
-/

namespace SdHost.ChipRevision

/-- The stepping, from A0 upwards. -/
def stepping : Field 32 := ⟨0, 8⟩

/-- The model number. -/
def model : Field 32 := ⟨16, 16⟩

def layout : Layout where
  name := "ChipRevision"
  bits := 32
  fields := [("stepping", stepping), ("model", model)]

/-- The revision word, at the start of the identification block. -/
def register : Register .word := ⟨0⟩

/-- Physical address of the identification block. -/
def address : Nat := 0xFC404000

/-- Model number of the BCM2711. -/
def modelBcm2711 : Nat := 0x2711

/-- Stepping B0. -/
def steppingB0 : Nat := 0x10

/-- Stepping C0. -/
def steppingC0 : Nat := 0x20

/-- The offset at which the controller sees memory. Steppings before C0 see it at 0xC0000000, and
a model that is not known is taken for one of them. -/
def busOffset (revision : Word) : Word :=
  if model.get revision = modelBcm2711 ∧ steppingC0 ≤ stepping.get revision then 0
  else 0xC0000000

end SdHost.ChipRevision
