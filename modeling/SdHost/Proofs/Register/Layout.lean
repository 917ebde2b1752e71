import SdHost.Proofs.Register.Field
import SdHost.Register.Catalogue

/-!
# Fields that keep apart

The setters of a register take numbers of a whole machine word, or flags. A number that is too wide for its
field is cut off, and none of it reaches a neighbouring field. That the setters of a register can be called
in any number and in any order therefore needs two facts about its layout only: each field lies inside the
word, and no two of them share a bit.

The module introduces:

* `Layout.WellFormed`: these two facts, and that no two fields have the same name;
* `Layout.Assignment`: a call of a setter;
* `layout.assign`: some calls, one after the other.

Main statement: `Layout.fields_keep_apart`, for all layouts of the catalogue.
-/

namespace SdHost

/-! ## What a setter is given -/

namespace Reading

/-- The number that a setter is given. A flag counts as one or zero. -/
def toNat : Reading → Nat
  | .number value => value
  | .flag on => on.toNat

/-- What is left of it in a field of so many bits. -/
def truncate (width : Nat) : Reading → Reading
  | .number value => .number (value % 2 ^ width)
  | .flag on => .flag on

end Reading

namespace Field

variable {bits : Nat}

/-- A flag is set to on or off, and any other field to a number. -/
def Takes (f : Field bits) : Reading → Prop
  | .number _ => f.width ≠ 1
  | .flag _ => f.width = 1

instance (f : Field bits) : DecidablePred f.Takes
  | .number _ => inferInstanceAs (Decidable (_ ≠ _))
  | .flag _ => inferInstanceAs (Decidable (_ = _))

theorem Disjoint.symm {f g : Field bits} (h : f.Disjoint g) : g.Disjoint f :=
  Or.symm h

/-- A field shows what it was set to, as far as it has room for it. -/
theorem reading_set {f : Field bits} (hf : f.Fits) {argument : Reading} (htakes : f.Takes argument)
    (raw : BitVec bits) : f.reading (f.set argument.toNat raw) = argument.truncate f.width := by
  cases argument with
  | number value =>
    rw [reading, if_neg htakes, get_set f hf, BitVec.toNat_ofNat]
    rfl
  | flag on =>
    have hwidth : f.width = 1 := htakes
    rw [reading, if_pos hwidth]
    exact congrArg _ (test_put f hf hwidth on raw)

theorem reading_set_of_disjoint {f g : Field bits} (h : f.Disjoint g) (value : Nat)
    (raw : BitVec bits) : f.reading (g.set value raw) = f.reading raw := by
  unfold reading
  split
  next hflag => rw [test_set_of_disjoint f g h hflag]
  next => rw [get_set_of_disjoint f g h]

end Field

namespace Layout

/-! ## Layouts -/

/-- Two fields have different names, and no bit belongs to both. -/
def Apart {bits : Nat} (first second : String × Field bits) : Prop :=
  first.1 ≠ second.1 ∧ first.2.Disjoint second.2

instance {bits : Nat} (first second : String × Field bits) : Decidable (Apart first second) :=
  inferInstanceAs (Decidable (_ ∧ _))

instance {bits : Nat} : Std.Symm (@Apart bits) where
  symm _ _ h := ⟨h.1.symm, h.2.symm⟩

/-- The fields lie inside the word, and any two of them are apart. -/
structure WellFormed (layout : Layout) : Prop where
  fits : ∀ named ∈ layout.fields, named.2.Fits
  apart : layout.fields.Pairwise Apart

instance : DecidablePred WellFormed := fun _ =>
  decidable_of_iff (_ ∧ _) ⟨fun h => ⟨h.1, h.2⟩, fun h => ⟨h.fits, h.apart⟩⟩

theorem wellFormed_of_mem_catalogue : ∀ layout ∈ catalogue, layout.WellFormed := by
  decide +kernel

variable {layout : Layout}

namespace WellFormed

variable {first second : String × Field layout.bits}

/-- A name tells which field is meant. -/
theorem eq_of_name_eq (h : layout.WellFormed) (hfirst : first ∈ layout.fields)
    (hsecond : second ∈ layout.fields) (hname : first.1 = second.1) : first = second := by
  by_contra hne
  exact (h.apart.forall hfirst hsecond hne).1 hname

/-- Fields of different names share no bit. -/
theorem disjoint_of_name_ne (h : layout.WellFormed) (hfirst : first ∈ layout.fields)
    (hsecond : second ∈ layout.fields) (hname : first.1 ≠ second.1) :
    first.2.Disjoint second.2 := by
  have hne : first ≠ second := fun heq => hname (congrArg Prod.fst heq)
  exact (h.apart.forall hfirst hsecond hne).2

end WellFormed

/-! ## Calls of setters -/

/-- A call of a setter. -/
structure Assignment (layout : Layout) where
  /-- The field that is set, with its name. -/
  target : String × Field layout.bits
  /-- It is a field of the layout. -/
  mem : target ∈ layout.fields
  /-- What it is set to. -/
  argument : Reading
  /-- The field is set to such things. -/
  takes : target.2.Takes argument

/-- Make the call. -/
def Assignment.apply (assignment : layout.Assignment) (raw : BitVec layout.bits) :
    BitVec layout.bits :=
  assignment.target.2.set assignment.argument.toNat raw

/-- Make some calls, one after the other. -/
def assign (layout : Layout) (assignments : List layout.Assignment) (raw : BitVec layout.bits) :
    BitVec layout.bits :=
  assignments.foldl (fun raw assignment => assignment.apply raw) raw

/-- What the field of a name is set to by the last of some calls that set it. -/
def lastArgument? (name : String) (assignments : List layout.Assignment) : Option Reading :=
  (assignments.filter fun assignment => assignment.target.1 = name).getLast?.map Assignment.argument

theorem assign_concat (assignments : List layout.Assignment) (last : layout.Assignment)
    (raw : BitVec layout.bits) :
    layout.assign (assignments ++ [last]) raw = last.apply (layout.assign assignments raw) := by
  rw [assign, List.foldl_concat, assign]

theorem lastArgument?_concat (name : String) (assignments : List layout.Assignment)
    (last : layout.Assignment) :
    lastArgument? name (assignments ++ [last]) =
      if last.target.1 = name then some last.argument else lastArgument? name assignments := by
  unfold lastArgument?
  split
  next hname => simp [List.filter_append, hname]
  next hname => simp [List.filter_append, hname]

namespace WellFormed

/-- A field shows what the last call gave it, or what it showed at first if there was none. -/
theorem reading_assign (h : layout.WellFormed) {named : String × Field layout.bits}
    (hnamed : named ∈ layout.fields) (assignments : List layout.Assignment)
    (raw : BitVec layout.bits) :
    named.2.reading (layout.assign assignments raw) =
      ((lastArgument? named.1 assignments).map (Reading.truncate named.2.width)).getD
        (named.2.reading raw) := by
  -- induction from the back, for it is the last call that counts
  induction assignments using List.reverseRecOn with
  | nil => rfl
  | append_singleton earlier last ih =>
    rw [assign_concat, lastArgument?_concat]
    split
    next hname =>
      obtain rfl := h.eq_of_name_eq last.mem hnamed hname
      exact Field.reading_set (h.fits _ hnamed) last.takes _
    next hname =>
      have hdisjoint := h.disjoint_of_name_ne hnamed last.mem (Ne.symm hname)
      rw [Assignment.apply, Field.reading_set_of_disjoint hdisjoint, ih]

theorem apply_apply (h : layout.WellFormed) {first second : layout.Assignment}
    (hname : first.target.1 ≠ second.target.1) (raw : BitVec layout.bits) :
    first.apply (second.apply raw) = second.apply (first.apply raw) :=
  Field.set_set_of_disjoint _ _ (h.disjoint_of_name_ne first.mem second.mem hname) _ _ raw

end WellFormed

/-- A bit that no call is about is left alone. -/
theorem getLsbD_assign {assignments : List layout.Assignment} {i : Nat}
    (hi : ∀ assignment ∈ assignments, ¬ assignment.target.2.Covers i) (raw : BitVec layout.bits) :
    (layout.assign assignments raw).getLsbD i = raw.getLsbD i := by
  induction assignments using List.reverseRecOn with
  | nil => rfl
  | append_singleton earlier last ih =>
    obtain ⟨hearlier, hlast⟩ := List.forall_mem_append.mp hi
    rw [assign_concat, Assignment.apply, Field.getLsbD_set, if_neg (hlast _ List.mem_cons_self),
      ih hearlier]

/-- **Fields do not spill.** Take a register of any layout of the catalogue with any content, and any calls of
its setters, one after the other, with any arguments. Each field then shows what the last call of its setter
gave it, cut off to its width, or what it showed at first if its setter was not called. Bits that belong to
none of the fields that were set are as they were. And two calls to setters of different fields come to the
same in either order. -/
theorem fields_keep_apart (hlayout : layout ∈ catalogue) (raw : BitVec layout.bits) :
    (∀ assignments : List layout.Assignment,
      (∀ named ∈ layout.fields, named.2.reading (layout.assign assignments raw) =
        ((lastArgument? named.1 assignments).map (Reading.truncate named.2.width)).getD
          (named.2.reading raw)) ∧
      ∀ i, (∀ assignment ∈ assignments, ¬ assignment.target.2.Covers i) →
        (layout.assign assignments raw).getLsbD i = raw.getLsbD i) ∧
    ∀ first second : layout.Assignment, first.target.1 ≠ second.target.1 →
      first.apply (second.apply raw) = second.apply (first.apply raw) := by
  have hformed := wellFormed_of_mem_catalogue layout hlayout
  refine ⟨fun assignments => ⟨fun named hnamed => ?_, fun i hi => ?_⟩, fun first second hname => ?_⟩
  · exact hformed.reading_assign hnamed assignments raw
  · exact getLsbD_assign hi raw
  · exact hformed.apply_apply hname raw

/-- A command word is given an index, then a data phase, then an index that its field has no room for. -/
def overlongIndex : List CommandWord.layout.Assignment := [
  ⟨("index", CommandWord.index), by decide +kernel, .number 17, by decide⟩,
  ⟨("data_present", CommandWord.dataPresent), by decide +kernel, .flag true, by decide⟩,
  ⟨("index", CommandWord.index), by decide +kernel, .number 0xFF, by decide⟩]

/-- The index is the low part of the last one, the data phase stays, and so do the fields and the unused bits
below. -/
theorem fields_keep_apart_overlong_index :
    let word := CommandWord.layout.assign overlongIndex 0x0003
    CommandWord.layout ∈ catalogue ∧ CommandWord.index.reading word = .number 0x3F ∧
      CommandWord.dataPresent.reading word = .flag true ∧
      CommandWord.responseType.reading word = .number 3 ∧ word.getLsbD 2 = false := by
  have hlayout : CommandWord.layout ∈ catalogue := by simp [catalogue]
  obtain ⟨hshown, hkept⟩ := (fields_keep_apart hlayout 0x0003).1 overlongIndex
  refine ⟨hlayout, ?_, ?_, ?_, ?_⟩
  · exact (hshown ("index", CommandWord.index) (by decide +kernel)).trans (by decide +kernel)
  · exact (hshown ("data_present", CommandWord.dataPresent) (by decide +kernel)).trans
      (by decide +kernel)
  · exact (hshown ("response_type", CommandWord.responseType) (by decide +kernel)).trans
      (by decide +kernel)
  · exact (hkept 2 (by decide +kernel)).trans (by decide +kernel)

end Layout

end SdHost
