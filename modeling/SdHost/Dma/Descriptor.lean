import SdHost.Error
import SdHost.Register.Field

/-!
# Descriptors

A controller that moves data by itself follows a table of descriptors, each of which names one
physically contiguous run of bytes. A descriptor with a 32-bit address is a double word: the low
word holds attributes and length, the high word holds the address.

The length field has sixteen bits, and zero stands for the longest run.

* `Descriptor.ofBytes?_toBytes`: a descriptor comes back from its bytes.
* `Descriptor.byteLength_withByteLength`: every length a descriptor can express is read back.

## Modelled functions

* `Descriptor.transfer?`, `Descriptor.setByteLength`: `transfer` and `set_byte_len`, which assert that the
  descriptor can express the length;
* `Descriptor.byteLength`: `byte_len`;
* `Descriptor.toBytes`, `Descriptor.ofBytes?`: `to_bytes` and `from_bytes`.
-/

namespace SdHost

/-- A descriptor with a 32-bit address. -/
abbrev Descriptor := DoubleWord

namespace Descriptor

/-- The controller may use the descriptor. -/
def valid : Field 64 := .flag 0

/-- The table ends with this descriptor. -/
def last : Field 64 := .flag 1

/-- Reaching the descriptor raises an interrupt. -/
def interrupt : Field 64 := .flag 2

/-- What the controller does with the descriptor. -/
def action : Field 64 := ⟨3, 3⟩

/-- High bits of the length, for controllers that know longer runs. -/
def lengthUpper : Field 64 := ⟨6, 10⟩

/-- Low bits of the length. -/
def length : Field 64 := ⟨16, 16⟩

/-- Bus address of the first byte. -/
def address : Field 64 := ⟨32, 32⟩

/-- The fields of the double word. -/
def layout : Layout where
  name := "Adma2Descriptor"
  bits := 64
  fields := [
    ("valid", valid),
    ("end", last),
    ("interrupt", interrupt),
    ("action", action),
    ("length_upper", lengthUpper),
    ("length", length),
    ("address", address)]

/-- Value of `action` that moves data. -/
def moveData : Nat := 4

/-- The most bytes one descriptor can move. -/
def maxLength : Nat := 0x10000

/-- Number of bytes in a descriptor with a 32-bit address. -/
def size32 : Nat := 8

/-- Number of bytes in a descriptor with a 64-bit address. -/
def size64 : Nat := 12

/-- Replace the length, which must be one that the descriptor can express. -/
def withByteLength (bytes : Nat) (descriptor : Descriptor) : Descriptor :=
  length.set bytes (lengthUpper.set 0 descriptor)

/-- A valid descriptor that moves data. -/
def transfer (target : Word) (bytes : Nat) : Descriptor :=
  withByteLength bytes (address.set target.toNat (action.set moveData (valid.put true 0)))

/-- The number of bytes that the descriptor moves. -/
def byteLength (descriptor : Descriptor) : Nat :=
  match length.get descriptor with
  | 0 => maxLength
  | bytes + 1 => bytes + 1

/-- Refuse a length that no descriptor can express. -/
def checkLength (bytes : Nat) : Except Fault Unit :=
  if 0 < bytes ∧ bytes ≤ maxLength then .ok () else .error .badLength

/-- Replace the length, after checking it. -/
def setByteLength (bytes : Nat) (descriptor : Descriptor) : Except Fault Descriptor := do
  checkLength bytes
  return withByteLength bytes descriptor

/-- A valid descriptor that moves data, after checking the length. -/
def transfer? (target : Word) (bytes : Nat) : Except Fault Descriptor := do
  checkLength bytes
  return transfer target bytes

/-- The descriptor as it lies in memory. -/
def toBytes (descriptor : Descriptor) : List Byte :=
  LittleEndian.bytes size32 descriptor.toNat

/-- The descriptor that starts a run of bytes, if the run is long enough. Of a descriptor with a
64-bit address this gives the attributes, the length and the low word of the address. -/
def ofBytes? (run : List Byte) : Option Descriptor :=
  if size32 ≤ run.length then some (BitVec.ofNat 64 (LittleEndian.value (run.take size32)))
  else none

/-- A descriptor comes back from its bytes. -/
theorem ofBytes?_toBytes (descriptor : Descriptor) :
    ofBytes? (toBytes descriptor) = some descriptor := by
  have hlen : (toBytes descriptor).length = size32 := LittleEndian.length_bytes _ _
  have htake : (toBytes descriptor).take size32 = toBytes descriptor :=
    List.take_of_length_le (Nat.le_of_eq hlen)
  rw [ofBytes?, if_pos (Nat.le_of_eq hlen.symm), htake, toBytes, LittleEndian.value_bytes]
  congr 1
  apply BitVec.eq_of_toNat_eq
  have hlt := descriptor.isLt
  have hsize : 8 * size32 = 64 := rfl
  rw [hsize, BitVec.toNat_ofNat, BitVec.toNat_ofNat, Nat.mod_mod, Nat.mod_eq_of_lt hlt]

/-- Every length that a descriptor can express is read back. -/
theorem byteLength_withByteLength (bytes : Nat) (descriptor : Descriptor) (hpos : 0 < bytes)
    (hmax : bytes ≤ maxLength) : byteLength (withByteLength bytes descriptor) = bytes := by
  have hget : length.get (withByteLength bytes descriptor) = (BitVec.ofNat 16 bytes).toNat :=
    Field.get_set length (by decide) bytes _
  simp only [byteLength, hget]
  unfold maxLength at *
  by_cases hfull : bytes = 0x10000
  · subst hfull; rfl
  · obtain ⟨n, rfl⟩ : ∃ n, bytes = n + 1 := ⟨bytes - 1, by omega⟩
    rw [BitVec.toNat_ofNat, Nat.mod_eq_of_lt (by omega)]

end Descriptor

end SdHost
