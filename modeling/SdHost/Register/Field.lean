import SdHost.Memory

/-!
# Bit fields

A register is a machine word in which named runs of neighbouring bits have a meaning of their
own. A `Field` is such a run; reading it gives a number, and setting it replaces its bits by
the low bits of a number and leaves every other bit alone.

* `Field.get_set`: a field that was set reads back the number, as far as its bits hold it.
* `Field.get_set_of_disjoint`: setting one field leaves the others as they were.
* `Field.set_set_of_disjoint`: the order in which two fields are set does not matter.
-/

namespace SdHost

/-- A run of neighbouring bits in a word of `bits` bits. -/
structure Field (bits : Nat) where
  /-- Position of the lowest bit. -/
  lsb : Nat
  /-- Number of bits. -/
  width : Nat
  deriving DecidableEq, Repr

namespace Field

variable {bits : Nat}

/-- The field made of one bit. -/
def flag (bit : Nat) : Field bits :=
  ⟨bit, 1⟩

/-- Whether a bit position belongs to the field. -/
def Covers (f : Field bits) (i : Nat) : Prop :=
  f.lsb ≤ i ∧ i < f.lsb + f.width

instance (f : Field bits) (i : Nat) : Decidable (f.Covers i) :=
  inferInstanceAs (Decidable (_ ∧ _))

/-- The word in which exactly the bits of the field are one. -/
def mask (f : Field bits) : BitVec bits :=
  (BitVec.allOnes f.width).setWidth bits <<< f.lsb

/-- The number the bits of the field stand for. -/
def get (f : Field bits) (raw : BitVec bits) : Nat :=
  (raw.extractLsb' f.lsb f.width).toNat

/-- Whether the lowest bit of the field is one. -/
def test (f : Field bits) (raw : BitVec bits) : Bool :=
  raw.getLsbD f.lsb

/-- Replace the bits of the field by the lowest bits of a number. What the field has no room for
is dropped. -/
def set (f : Field bits) (value : Nat) (raw : BitVec bits) : BitVec bits :=
  (raw &&& ~~~f.mask) ||| ((BitVec.ofNat bits value <<< f.lsb) &&& f.mask)

/-- Set the field to one or to zero. -/
def put (f : Field bits) (on : Bool) (raw : BitVec bits) : BitVec bits :=
  f.set on.toNat raw

/-- No bit belongs to both fields. -/
def Disjoint (f g : Field bits) : Prop :=
  f.lsb + f.width ≤ g.lsb ∨ g.lsb + g.width ≤ f.lsb

instance (f g : Field bits) : Decidable (f.Disjoint g) :=
  inferInstanceAs (Decidable (_ ∨ _))

/-- The field lies inside its word. -/
def Fits (f : Field bits) : Prop :=
  f.lsb + f.width ≤ bits

instance (f : Field bits) : Decidable f.Fits :=
  inferInstanceAs (Decidable (_ ≤ _))

theorem getLsbD_mask (f : Field bits) (i : Nat) :
    f.mask.getLsbD i = decide (i < bits ∧ f.Covers i) := by
  rw [Bool.eq_iff_iff]
  simp only [mask, BitVec.getLsbD_shiftLeft, BitVec.getLsbD_setWidth, BitVec.getLsbD_allOnes,
    Bool.and_eq_true, Bool.not_eq_true', decide_eq_true_eq, decide_eq_false_iff_not]
  unfold Covers
  omega

/-- A bit of the field after a set comes from the number, every other bit from the word. -/
theorem getLsbD_set (f : Field bits) (value : Nat) (raw : BitVec bits) (i : Nat) :
    (f.set value raw).getLsbD i =
      if f.Covers i then decide (i < bits) && value.testBit (i - f.lsb) else raw.getLsbD i := by
  simp only [set, BitVec.getLsbD_or, BitVec.getLsbD_and, BitVec.getLsbD_not, getLsbD_mask,
    BitVec.getLsbD_shiftLeft, BitVec.getLsbD_ofNat]
  by_cases hc : f.Covers i
  · by_cases hi : i < bits
    · have hl : ¬ i < f.lsb := by have := hc.1; omega
      have hs : i - f.lsb < bits := by omega
      simp [hc, hi, hl, hs]
    · simp [hc, hi]
  · by_cases hi : i < bits
    · simp [hc, hi]
    · have hr : raw.getLsbD i = false := BitVec.getLsbD_of_ge raw i (by omega)
      simp [hc, hi, hr]

/-- A field that was set reads back the number, as far as its bits hold it. -/
theorem get_set (f : Field bits) (hf : f.Fits) (value : Nat) (raw : BitVec bits) :
    f.get (f.set value raw) = (BitVec.ofNat f.width value).toNat := by
  apply Nat.eq_of_testBit_eq
  intro i
  rw [BitVec.toNat_ofNat, Nat.testBit_mod_two_pow, get, BitVec.testBit_toNat, BitVec.getLsbD_extractLsb',
    getLsbD_set]
  by_cases hi : i < f.width
  · have hc : f.Covers (f.lsb + i) := ⟨by omega, by omega⟩
    have hb : f.lsb + i < bits := by unfold Fits at hf; omega
    simp [hi, hc, hb]
  · simp [hi]

/-- Setting one field leaves the others as they were. -/
theorem get_set_of_disjoint (f g : Field bits) (h : f.Disjoint g) (value : Nat)
    (raw : BitVec bits) : f.get (g.set value raw) = f.get raw := by
  apply Nat.eq_of_testBit_eq
  intro i
  rw [get, get, BitVec.testBit_toNat, BitVec.testBit_toNat, BitVec.getLsbD_extractLsb',
    BitVec.getLsbD_extractLsb', getLsbD_set]
  by_cases hi : i < f.width
  · have hc : ¬ g.Covers (f.lsb + i) := by unfold Disjoint at h; unfold Covers; omega
    simp [hc]
  · simp [hi]

/-- The order in which two fields are set does not matter. -/
theorem set_set_of_disjoint (f g : Field bits) (h : f.Disjoint g) (a b : Nat)
    (raw : BitVec bits) : f.set a (g.set b raw) = g.set b (f.set a raw) := by
  apply BitVec.eq_of_getLsbD_eq
  intro i _
  simp only [getLsbD_set]
  by_cases hc : f.Covers i
  · have hg : ¬ g.Covers i := by
      unfold Disjoint at h; unfold Covers at hc ⊢; omega
    simp [hc, hg]
  · simp [hc]

end Field

/-- What a field shows. -/
inductive Reading where
  /-- A number. -/
  | number (value : Nat)
  /-- Whether something holds. -/
  | flag (on : Bool)
  deriving DecidableEq, Repr

/-- What the field shows in a word. A field of one bit is a flag. -/
def Field.reading {bits : Nat} (f : Field bits) (raw : BitVec bits) : Reading :=
  if f.width = 1 then .flag (f.test raw) else .number (f.get raw)

/-- The fields of a register, each with the name it is known by. -/
structure Layout where
  /-- Name of the register. -/
  name : String
  /-- Number of bits in the register. -/
  bits : Nat
  /-- The fields, lowest first. -/
  fields : List (String × Field bits)

namespace Layout

/-- The field of a given name. -/
def field? (layout : Layout) (name : String) : Option (Field layout.bits) :=
  (layout.fields.find? fun named => named.1 == name).map Prod.snd

/-- What each field shows in a word. -/
def readings (layout : Layout) (raw : BitVec layout.bits) : List (String × Reading) :=
  layout.fields.map fun (name, f) => (name, f.reading raw)

end Layout

end SdHost
