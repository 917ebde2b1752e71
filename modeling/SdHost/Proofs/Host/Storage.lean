import SdHost.Proofs.Host.History
import SdHost.Proofs.Memory

/-!
# Registers that keep what is written

Hardware is free to answer every read as it likes. Many registers just keep what is written to
them, and what such a register holds after a run can be told from the accesses of the run.

The module introduces:

* `StoredRegister host register`: the register of the host keeps what is written to it;
* `RegisterFile.host`: surroundings in which all registers do.

`StoredRegister.value_of_written` says what a register holds after a run that writes it, and
`StoredRegister.value_of_unreached` what it holds after one that does not.
-/

namespace SdHost

/-- The query may change what the register holds: it writes a byte of it. -/
def Query.Reaches {width : Width} (register : Register width) : Query → Prop
  | .write other offset _ =>
    offset < register.offset + width.bytes ∧ register.offset < offset + other.bytes
  | _ => False

instance {width : Width} (register : Register width) :
    (query : Query) → Decidable (query.Reaches register)
  | .write _ _ _ => inferInstanceAs (Decidable (_ ∧ _))
  | .barrier | .read _ _ | .delay _ | .property _ | .context | .runPassive | .streamWrite _
  | .streamFlush | .streamRead _ | .allocate _ | .release _ | .complete _ _ => isFalse id

/-- Only an access can change what a register holds. -/
theorem Event.isAccess_of_reaches {width : Width} {register : Register width} {event : Event}
    (h : event.query.Reaches register) : event.isAccess = true := by
  obtain ⟨query, reply⟩ := event
  cases query with
  | write => rfl
  | _ => exact h.elim

/-- The places that some events write, each with the width of the access. -/
def writes (events : List Event) : List (Width × Nat) :=
  events.filterMap fun event =>
    match event.query with
    | .write width offset _ => some (width, offset)
    | _ => none

/-- The place and the register have no byte in common. -/
def Register.isApart {width : Width} (register : Register width) (place : Width × Nat) : Bool :=
  decide (place.2 + place.1.bytes ≤ register.offset ∨ register.offset + width.bytes ≤ place.2)

/-- A write to such a place does not change what the register holds. -/
theorem Register.not_reaches_of_isApart {width other : Width} {register : Register width}
    {offset : Nat} (h : register.isApart (other, offset) = true) (value : BitVec other.bits) :
    ¬ (Query.write other offset value).Reaches register := by
  have hapart := of_decide_eq_true h
  rintro ⟨hbefore, hafter⟩
  simp only at hapart
  omega

/-- Events that write other places only do not change what the register holds. -/
theorem unreached_of_writes {width : Width} {register : Register width} {events : List Event}
    (h : (writes events).all register.isApart = true) :
    ∀ event ∈ events, ¬ event.query.Reaches register := by
  rintro ⟨query, reply⟩ hevent hreach
  cases query with
  | write other offset value =>
    have hplace : (other, offset) ∈ writes events := List.mem_filterMap.mpr ⟨_, hevent, rfl⟩
    exact Register.not_reaches_of_isApart (List.all_eq_true.mp h _ hplace) value hreach
  | _ => exact hreach

variable {σ α : Type} {width : Width}

/-- A register of a host that keeps what is written to it. -/
structure StoredRegister (host : Host σ) (register : Register width) where
  /-- What the register holds. -/
  value : σ → BitVec width.bits
  /-- A read gives what the register holds. -/
  read_reply : ∀ state, (host.answer (.read width register.offset) state).1 = value state
  /-- After a write the register holds what was written. -/
  value_write : ∀ new state,
    value (host.answer (.write width register.offset new) state).2 = new
  /-- Nothing else changes it. -/
  value_other : ∀ query state, ¬ query.Reaches register →
    value (host.answer query state).2 = value state

namespace StoredRegister

variable {host : Host σ} {register : Register width} (stored : StoredRegister host register)

/-- A run that does not write the register leaves it alone. -/
theorem value_of_unreached (program : Program α) (state : σ)
    (h : ∀ event ∈ (program.history host state).filter Event.isAccess,
      ¬ event.query.Reaches register) :
    stored.value (program.run host state).2 = stored.value state := by
  induction program generalizing state with
  | done => rfl
  | fault => rfl
  | ask query next ih =>
    rw [Program.history_ask] at h
    -- the first query leaves the register alone, whether it is an access or not
    have hquery : ¬ query.Reaches register := by
      intro hreach
      have haccess : Event.isAccess ⟨query, (host.answer query state).1⟩ = true :=
        Event.isAccess_of_reaches hreach
      exact h _ (List.mem_filter.mpr ⟨List.mem_cons_self, haccess⟩) hreach
    have hrest := ih (host.answer query state).1 (host.answer query state).2 fun event hevent =>
      h event (((List.sublist_cons_self _ _).filter _).mem hevent)
    rw [Program.run_ask, hrest, stored.value_other query state hquery]

/-- After a run the register holds what was written to it last. -/
theorem value_of_written {program : Program α} {state : σ} (before : List Event)
    {later : List Event} {new : BitVec width.bits}
    (h : (program.history host state).filter Event.isAccess =
      before ++ ⟨.write width register.offset new, ()⟩ :: later)
    (hlater : ∀ event ∈ later, ¬ event.query.Reaches register) :
    stored.value (program.run host state).2 = new := by
  induction program generalizing state before with
  | done => simp at h
  | fault => simp at h
  | ask query next ih =>
    rw [Program.history_ask, List.filter_cons] at h
    split at h
    · cases before with
      | nil =>
        -- this is the write, and what comes after it leaves the register alone
        obtain ⟨hevent, hrest⟩ := List.cons.inj h
        obtain rfl : query = .write width register.offset new := congrArg Event.query hevent
        rw [Program.run_ask, stored.value_of_unreached, stored.value_write]
        rwa [hrest]
      | cons event before => exact ih _ before (List.cons.inj h).2
    · exact ih _ before h

end StoredRegister

namespace RegisterFile

/-- What the bytes from an offset on stand for. -/
def value (file : Nat → Byte) (width : Width) (offset : Nat) : BitVec width.bits :=
  BitVec.ofNat _ (LittleEndian.value ((List.range width.bytes).map fun i => file (offset + i)))

/-- Replace the bytes from an offset on. -/
def store (file : Nat → Byte) (width : Width) (offset : Nat) (new : BitVec width.bits) :
    Nat → Byte :=
  fun i => if offset ≤ i then (LittleEndian.bytes width.bytes new.toNat)[i - offset]?.getD (file i)
    else file i

/-- Surroundings with registers that keep what is written to them, and with nothing else: no
memory to be had, and no way to the firmware. -/
def host : Host (Nat → Byte) where
  answer query file :=
    match query with
    | .read width offset => (value file width offset, file)
    | .write width offset new => ((), store file width offset new)
    | .property message => ((.error .notFound, message), file)
    | .context => (.passive, file)
    | .runPassive => (1, file)
    | .streamWrite _ => (none, file)
    | .streamFlush => (false, file)
    | .streamRead _ => (none, file)
    | .allocate _ => (none, file)
    | .barrier => ((), file)
    | .delay _ => ((), file)
    | .release _ => ((), file)
    | .complete _ _ => ((), file)

theorem value_store (file : Nat → Byte) (width : Width) (offset : Nat) (new : BitVec width.bits) :
    value (store file width offset new) width offset = new := by
  have hbytes : (List.range width.bytes).map (fun i => store file width offset new (offset + i)) =
      LittleEndian.bytes width.bytes new.toNat := by
    refine List.ext_getElem (by simp) fun i _ hi => ?_
    simp [store, List.getElem?_eq_getElem hi]
  rw [value, hbytes, LittleEndian.ofNat_value_bytes_toNat]

/-- A write leaves alone what it does not overlap. -/
theorem value_store_of_disjoint (file : Nat → Byte) {width width' : Width} {offset offset' : Nat}
    (new : BitVec width'.bits)
    (h : ¬ (offset' < offset + width.bytes ∧ offset < offset' + width'.bytes)) :
    value (store file width' offset' new) width offset = value file width offset := by
  have hsame : ∀ i ∈ List.range width.bytes,
      store file width' offset' new (offset + i) = file (offset + i) := by
    intro i hi
    have hlt := List.mem_range.mp hi
    rw [store]
    split
    · -- the byte lies after those that are written
      rw [List.getElem?_eq_none (by rw [LittleEndian.length_bytes]; omega), Option.getD_none]
    · rfl
  rw [value, value, List.map_congr_left hsame]

/-- Every register is one that keeps what is written to it. -/
def stored (register : Register width) : StoredRegister host register where
  value file := RegisterFile.value file width register.offset
  read_reply _ := rfl
  value_write new file := value_store file width register.offset new
  value_other query file hother := by
    cases query with
    | write other offset new => exact value_store_of_disjoint file new hother
    | _ => rfl

end RegisterFile

end SdHost
