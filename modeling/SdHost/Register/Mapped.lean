import SdHost.Error
import SdHost.Register.Basic

/-!
# Mapped blocks

A register block that is mapped into memory. Registers lie in it least significant byte first,
and an access past the end of the mapping breaks a promise.
-/

namespace SdHost

/-- A mapped register block. -/
structure MappedBlock where
  /-- The bytes of the block. -/
  memory : Memory
  deriving DecidableEq, Repr

namespace MappedBlock

/-- A mapping of so many bytes, all of them zero. -/
def zeroed (size : Nat) : MappedBlock :=
  ⟨Memory.zeroed size⟩

/-- Number of bytes in the mapping. -/
def size (block : MappedBlock) : Nat :=
  block.memory.size

/-- Whether the mapping has no bytes. -/
def isEmpty (block : MappedBlock) : Bool :=
  block.size == 0

/-- Read a register. -/
def read (block : MappedBlock) (width : Width) (offset : Nat) : Except Fault (BitVec width.bits) :=
  if offset + width.bytes ≤ block.size then
    .ok (BitVec.ofNat _ (Memory.load block.memory offset width.bytes))
  else
    .error .outOfBounds

/-- Write a register. -/
def write (block : MappedBlock) (width : Width) (offset : Nat) (value : BitVec width.bits) :
    Except Fault MappedBlock :=
  if offset + width.bytes ≤ block.size then
    .ok ⟨Memory.store block.memory offset (LittleEndian.bytes width.bytes value.toNat)⟩
  else
    .error .outOfBounds

end MappedBlock

end SdHost
