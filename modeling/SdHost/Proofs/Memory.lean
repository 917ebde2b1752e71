import Mathlib
import SdHost.Register.Basic

/-!
# Runs of bytes

How numbers split over runs of bytes, and how memory is written and read in parts.

* `LittleEndian.bytes_add`: the layout of a number in `m + n` bytes is the layout of its low part
  in `m` bytes followed by that of the rest;
* `LittleEndian.bytes_toNat_ofNat_value`: a register as wide as a run of bytes carries the run
  without loss;
* `Memory.store_append`: storing two runs one after the other is storing them as one.
-/

namespace SdHost

namespace LittleEndian

/-- A number splits into the bytes of its low part and those of the rest. -/
theorem bytes_add (m n value : Nat) :
    bytes (m + n) value = bytes m value ++ bytes n (value / 256 ^ m) := by
  induction m generalizing value with
  | zero => simp [bytes]
  | succ m ih =>
    rw [Nat.succ_add, bytes, bytes, ih, List.cons_append, Nat.div_div_eq_div_mul, ← Nat.pow_succ']

theorem value_lt (run : List Byte) : value run < 256 ^ run.length := by
  induction run with
  | nil => simp [value]
  | cons byte rest ih =>
    have hbyte := byte.isLt
    rw [value, List.length_cons, Nat.pow_succ]
    omega

theorem value_bytes_of_lt {count n : Nat} (h : n < 256 ^ count) : value (bytes count n) = n := by
  rw [value_bytes, BitVec.toNat_ofNat, Nat.pow_mul, Nat.mod_eq_of_lt h]

/-- A register that is as wide as a run of bytes carries the run without loss. -/
theorem bytes_toNat_ofNat_value (width : Width) {run : List Byte}
    (hrun : run.length = width.bytes) :
    bytes width.bytes (BitVec.ofNat width.bits (value run)).toNat = run := by
  have hlt := value_lt run
  have hbits : 256 ^ run.length = 2 ^ width.bits := by
    rw [hrun, width.bits_eq, Nat.pow_mul]
  rw [BitVec.toNat_ofNat, Nat.mod_eq_of_lt (hbits ▸ hlt), ← hrun, bytes_value]

theorem ofNat_value_bytes_toNat {width : Width} (raw : BitVec width.bits) :
    BitVec.ofNat width.bits (value (bytes width.bytes raw.toNat)) = raw := by
  have hpow : (256 : Nat) ^ width.bytes = 2 ^ width.bits := by
    rw [width.bits_eq, Nat.pow_mul]
  rw [value_bytes_of_lt (hpow ▸ raw.isLt), BitVec.ofNat_toNat, BitVec.setWidth_eq]

end LittleEndian

namespace Memory

/-- Two runs stored one after the other are stored as one. -/
theorem store_append (memory : Memory) (offset : Nat) (first second : List Byte) :
    store memory offset (first ++ second) =
      store (store memory offset first) (offset + first.length) second := by
  induction first generalizing memory offset with
  | nil => rfl
  | cons byte rest ih =>
    rw [List.cons_append, store, store, ih, List.length_cons]
    congr 1
    omega

/-- A run that covers the start of the memory replaces as many bytes as it has. -/
theorem toList_store_zero {memory : Memory} {run : List Byte} (h : run.length ≤ memory.size) :
    (store memory 0 run).toList = run ++ memory.toList.drop run.length := by
  rw [toList_store memory 0 run (by omega), List.take_zero, List.nil_append, Nat.zero_add]

theorem toList_extract (memory : Memory) (offset count : Nat) :
    (memory.extract offset (offset + count)).toList = (memory.toList.drop offset).take count := by
  rw [Array.toList_extract, List.extract_eq_take_drop, Nat.add_sub_cancel_left]

theorem slice?_of_le {memory : Memory} {offset count : Nat} (h : offset + count ≤ memory.size) :
    slice? memory offset count = some (memory.extract offset (offset + count)) :=
  if_pos h

theorem slice?_eq_some_iff {memory part : Memory} {offset count : Nat} :
    slice? memory offset count = some part ↔
      offset + count ≤ memory.size ∧ memory.extract offset (offset + count) = part := by
  unfold slice?
  split <;> simp_all

end Memory

end SdHost
