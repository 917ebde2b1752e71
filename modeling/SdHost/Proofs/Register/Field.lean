import Mathlib
import SdHost.Register.Field

/-!
# Field algebra

Reading single bits, and reading a field out of a part of its word.

* `Field.and_mask_eq_zero_iff`: a flag is off exactly if its word has no bit of its mask;
* `Field.test_put`, `Field.test_set_of_disjoint`: a flag that was put reads back, and setting
  another field leaves it alone;
* `Field.set_set`: a field that is set twice is set to the second number;
* `Field.get_truncate`, `Field.test_truncate`: a field that lies in the low part of a word can be
  read from that part alone.
-/

namespace SdHost.Field

variable {bits : Nat}

@[simp]
theorem test_zero (f : Field bits) : f.test 0 = false :=
  BitVec.getLsbD_zero

/-- A flag is off exactly if the word has no bit of its mask. -/
theorem and_mask_eq_zero_iff (f : Field bits) (hwidth : f.width = 1) (raw : BitVec bits) :
    raw &&& f.mask = 0 ↔ f.test raw = false := by
  constructor
  · intro hzero
    by_cases hlt : f.lsb < bits
    · have hcovers : f.Covers f.lsb := ⟨Nat.le_refl _, by omega⟩
      have hbit : (raw &&& f.mask).getLsbD f.lsb = false := by
        rw [hzero]
        exact BitVec.getLsbD_zero
      rwa [BitVec.getLsbD_and, getLsbD_mask, decide_eq_true ⟨hlt, hcovers⟩, Bool.and_true] at hbit
    · exact BitVec.getLsbD_of_ge raw _ (by omega)
  · intro htest
    refine BitVec.eq_of_getLsbD_eq fun i hi => ?_
    rw [BitVec.getLsbD_and, getLsbD_mask]
    by_cases hcovers : f.Covers i
    · -- the flag has one bit only
      obtain rfl : f.lsb = i := by unfold Covers at hcovers; omega
      rw [test] at htest
      simp [htest]
    · simp [hcovers]

theorem test_put (f : Field bits) (hf : f.Fits) (hwidth : f.width = 1) (on : Bool)
    (raw : BitVec bits) : f.test (f.put on raw) = on := by
  have hcovers : f.Covers f.lsb := ⟨Nat.le_refl _, by omega⟩
  have hlt : f.lsb < bits := by unfold Fits at hf; omega
  rw [test, put, getLsbD_set, if_pos hcovers, Nat.sub_self]
  cases on <;> simp [hlt]

/-- Setting one field leaves a flag outside it alone. -/
theorem test_set_of_disjoint (f g : Field bits) (h : f.Disjoint g) (hwidth : f.width = 1)
    (value : Nat) (raw : BitVec bits) : f.test (g.set value raw) = f.test raw := by
  have hcovers : ¬ g.Covers f.lsb := by
    unfold Disjoint at h; unfold Covers; omega
  rw [test, getLsbD_set, if_neg hcovers, test]

theorem test_put_of_disjoint (f g : Field bits) (h : f.Disjoint g) (hwidth : f.width = 1)
    (on : Bool) (raw : BitVec bits) : f.test (g.put on raw) = f.test raw :=
  test_set_of_disjoint f g h hwidth _ raw

theorem get_put_of_disjoint (f g : Field bits) (h : f.Disjoint g) (on : Bool)
    (raw : BitVec bits) : f.get (g.put on raw) = f.get raw :=
  get_set_of_disjoint f g h _ raw

/-- A field that was set to a number it has room for reads back that number. -/
theorem get_set_of_lt (f : Field bits) (hf : f.Fits) {value : Nat} (h : value < 2 ^ f.width)
    (raw : BitVec bits) : f.get (f.set value raw) = value := by
  rw [get_set f hf, BitVec.toNat_ofNat, Nat.mod_eq_of_lt h]

/-- Only the last of two numbers that a field is set to counts. -/
theorem set_set (f : Field bits) (value value' : Nat) (raw : BitVec bits) :
    f.set value (f.set value' raw) = f.set value raw := by
  refine BitVec.eq_of_getLsbD_eq fun i _ => ?_
  rw [getLsbD_set, getLsbD_set, getLsbD_set]
  by_cases hcovers : f.Covers i <;> simp [hcovers]

private theorem getLsbD_truncate {n i : Nat} (raw : BitVec bits) (hi : i < n) :
    (BitVec.ofNat bits (raw.toNat % 2 ^ n)).getLsbD i = raw.getLsbD i := by
  rw [BitVec.getLsbD_ofNat, Nat.testBit_mod_two_pow, BitVec.testBit_toNat]
  by_cases hbits : i < bits
  · simp [hi, hbits]
  · simp [hbits, BitVec.getLsbD_of_ge raw i (by omega)]

/-- A field in the low part of a word can be read from that part alone. -/
theorem get_truncate (f : Field bits) {n : Nat} (hf : f.lsb + f.width ≤ n) (raw : BitVec bits) :
    f.get (BitVec.ofNat bits (raw.toNat % 2 ^ n)) = f.get raw := by
  apply Nat.eq_of_testBit_eq
  intro i
  rw [get, get, BitVec.testBit_toNat, BitVec.testBit_toNat, BitVec.getLsbD_extractLsb',
    BitVec.getLsbD_extractLsb']
  by_cases hi : i < f.width
  · rw [getLsbD_truncate raw (by omega)]
  · simp [hi]

theorem test_truncate (f : Field bits) {n : Nat} (hf : f.lsb < n) (raw : BitVec bits) :
    f.test (BitVec.ofNat bits (raw.toNat % 2 ^ n)) = f.test raw :=
  getLsbD_truncate raw hf

end SdHost.Field
