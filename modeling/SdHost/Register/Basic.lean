import SdHost.Register.Field

/-!
# Registers

A controller shows its registers as a block of bytes. Each register has a place in the block and
one of three widths, and it is always read and written in its own width.
-/

namespace SdHost

/-- How many bits one access moves. -/
inductive Width where
  /-- Eight bits. -/
  | byte
  /-- Sixteen bits. -/
  | half
  /-- Thirty-two bits. -/
  | word
  deriving DecidableEq, Repr

namespace Width

/-- Number of bits. -/
@[reducible]
def bits : Width → Nat
  | .byte => 8
  | .half => 16
  | .word => 32

/-- Number of bytes. -/
def bytes : Width → Nat
  | .byte => 1
  | .half => 2
  | .word => 4

theorem bits_eq (width : Width) : width.bits = 8 * width.bytes := by
  cases width <;> rfl

end Width

/-- A register of a given width. -/
structure Register (width : Width) where
  /-- Byte offset of the register within the block. -/
  offset : Nat
  deriving DecidableEq, Repr

/-- Size of the standard register block, in bytes. -/
def registerBlockSize : Nat := 0x100

end SdHost
