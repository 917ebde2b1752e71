/-!
# Bytes and memory

The words a controller works with, the memory it shares with the processor, and the
little-endian layout of numbers in that memory.

* `LittleEndian.value_bytes`: reading back the bytes of a number gives the number, as far as
  the bytes hold it.
* `LittleEndian.bytes_value`: every run of bytes is the layout of the number it stands for.
* `Memory.toList_store`: a run of bytes stored inside the memory replaces exactly the bytes it
  covers.
-/

namespace SdHost

/-- Eight bits. -/
abbrev Byte := BitVec 8

/-- Sixteen bits. -/
abbrev HalfWord := BitVec 16

/-- Thirty-two bits, the widest access a controller knows. -/
abbrev Word := BitVec 32

/-- Sixty-four bits. -/
abbrev DoubleWord := BitVec 64

/-- A contiguous run of bytes, such as a data buffer or a descriptor table. -/
abbrev Memory := Array Byte

namespace Word

/-- The sum of two words, unless it needs a thirty-third bit. -/
def checkedAdd (a b : Word) : Option Word :=
  if a.toNat + b.toNat < 0x100000000 then some (a + b) else none

end Word

namespace LittleEndian

/-- The lowest `count` bytes of a number, least significant byte first. -/
def bytes : (count value : Nat) → List Byte
  | 0, _ => []
  | count + 1, value => BitVec.ofNat 8 value :: bytes count (value / 256)

/-- The number a run of bytes stands for, least significant byte first. -/
def value : List Byte → Nat
  | [] => 0
  | byte :: rest => byte.toNat + 256 * value rest

@[simp]
theorem length_bytes (count n : Nat) : (bytes count n).length = count := by
  induction count generalizing n with
  | zero => rfl
  | succ count ih => simp [bytes, ih]

/-- A number comes back from its bytes, less what does not fit in them. -/
theorem value_bytes (count n : Nat) :
    value (bytes count n) = (BitVec.ofNat (8 * count) n).toNat := by
  rw [BitVec.toNat_ofNat]
  induction count generalizing n with
  | zero => simp [bytes, value, Nat.mod_one]
  -- one digit is split off the bottom, and the others are those of the quotient
  | succ count ih =>
    have hpow : 2 ^ (8 * (count + 1)) = 256 * 2 ^ (8 * count) := by
      rw [Nat.mul_succ, Nat.pow_add, Nat.mul_comm]
    simp only [bytes, value, BitVec.toNat_ofNat, ih]
    rw [hpow, Nat.mod_mul]

/-- Every run of bytes is the layout of the number it stands for. -/
theorem bytes_value (run : List Byte) : bytes run.length (value run) = run := by
  induction run with
  | nil => rfl
  | cons byte rest ih =>
    have hbyte := byte.isLt
    have hdiv : (byte.toNat + 256 * value rest) / 256 = value rest := by omega
    have hmod : BitVec.ofNat 8 (byte.toNat + 256 * value rest) = byte := by
      apply BitVec.eq_of_toNat_eq
      simp only [BitVec.toNat_ofNat]
      omega
    simp only [List.length_cons, bytes, value, hdiv, hmod, ih]

end LittleEndian

namespace Memory

/-- Memory of a given size in which every byte is zero. -/
def zeroed (size : Nat) : Memory :=
  Array.replicate size 0

/-- Overwrite memory from `offset` on with a run of bytes. What would land past the end of the
memory is dropped. -/
def store (memory : Memory) (offset : Nat) : List Byte → Memory
  | [] => memory
  | byte :: rest => store (memory.setIfInBounds offset byte) (offset + 1) rest

/-- The number laid out in the `count` bytes at `offset`. -/
def load (memory : Memory) (offset count : Nat) : Nat :=
  LittleEndian.value (memory.extract offset (offset + count)).toList

/-- The `count` bytes at `offset`, if the memory holds them all. -/
def slice? (memory : Memory) (offset count : Nat) : Option Memory :=
  if offset + count ≤ memory.size then some (memory.extract offset (offset + count)) else none

@[simp]
theorem size_store (memory : Memory) (offset : Nat) (run : List Byte) :
    (store memory offset run).size = memory.size := by
  induction run generalizing memory offset with
  | nil => rfl
  | cons byte rest ih => simp [store, ih]

/-- A byte read after a store comes from the stored run where the run covers it. -/
theorem getElem?_store (memory : Memory) (offset : Nat) (run : List Byte) (i : Nat) :
    (store memory offset run)[i]? =
      if offset ≤ i ∧ i < offset + run.length ∧ i < memory.size then run[i - offset]?
      else memory[i]? := by
  induction run generalizing memory offset with
  | nil =>
    have h : ¬ (offset ≤ i ∧ i < offset + ([] : List Byte).length ∧ i < memory.size) := by
      simp only [List.length_nil]; omega
    rw [if_neg h]; rfl
  | cons byte rest ih =>
    simp only [store, ih, Array.size_setIfInBounds, List.length_cons]
    -- the first byte of the run, then the rest of it, then everything else
    by_cases hat : i = offset
    · subst hat
      have hnot : ¬ (i + 1 ≤ i ∧ i < i + 1 + rest.length ∧ i < memory.size) := by omega
      rw [if_neg hnot]
      by_cases hsize : i < memory.size
      · simp [hsize]
      · simp [hsize]
    · by_cases hin : offset + 1 ≤ i ∧ i < offset + 1 + rest.length ∧ i < memory.size
      · have hin' : offset ≤ i ∧ i < offset + (rest.length + 1) ∧ i < memory.size := by omega
        have hsub : i - offset = (i - (offset + 1)) + 1 := by omega
        simp only [if_pos hin, if_pos hin', hsub, List.getElem?_cons_succ]
      · have hin' : ¬ (offset ≤ i ∧ i < offset + (rest.length + 1) ∧ i < memory.size) := by omega
        simp only [if_neg hin, if_neg hin']
        exact Array.getElem?_setIfInBounds_ne (Ne.symm hat)

/-- A run stored inside the memory replaces exactly the bytes it covers. -/
theorem toList_store (memory : Memory) (offset : Nat) (run : List Byte)
    (h : offset + run.length ≤ memory.size) :
    (store memory offset run).toList =
      memory.toList.take offset ++ run ++ memory.toList.drop (offset + run.length) := by
  apply List.ext_getElem?
  intro i
  have hlen : (memory.toList.take offset).length = offset := by
    simp only [List.length_take, Array.length_toList]; omega
  rw [Array.getElem?_toList, getElem?_store]
  -- before the run, within it, and after it
  by_cases hlow : i < offset
  · have hout : ¬ (offset ≤ i ∧ i < offset + run.length ∧ i < memory.size) := by omega
    rw [if_neg hout, List.append_assoc, List.getElem?_append_left (by omega),
      List.getElem?_take_of_lt hlow, Array.getElem?_toList]
  · by_cases hmid : i < offset + run.length
    · have hin : offset ≤ i ∧ i < offset + run.length ∧ i < memory.size := by omega
      rw [if_pos hin, List.append_assoc, List.getElem?_append_right (by omega), hlen,
        List.getElem?_append_left (by omega)]
    · have hout : ¬ (offset ≤ i ∧ i < offset + run.length ∧ i < memory.size) := by omega
      rw [if_neg hout, List.getElem?_append_right (by rw [List.length_append]; omega),
        List.length_append, hlen, List.getElem?_drop, Array.getElem?_toList]
      congr 1
      omega

end Memory

end SdHost
