import SdHost.Proofs.Host.Along
import SdHost.Proofs.Host.Storage

/-!
# A block of registers that keeps what is written

Where every register of a block keeps what is written to it, the block as a whole can be told bit by
bit: a read shows the bits from its place on, a write replaces them, and every other bit is as it was.

The module introduces:

* `RegisterFile.bit`: one bit of the block, counted from its start;
* `StoredBlock host`: the registers of the host keep what is written to them;
* `StoredBlock.Makes`: what a program makes of a block, wherever it starts from.

`StoredBlock.Makes.bind` and the rules for each way of accessing a register take such a statement apart
along the program.
-/

namespace SdHost

namespace LittleEndian

/-- The bits of a number are those of its bytes. -/
theorem testBit_value (run : List Byte) (i : Nat) :
    (value run).testBit i = (run[i / 8]?.getD 0).getLsbD (i % 8) := by
  induction run generalizing i with
  | nil => simp [value]
  | cons byte rest ih =>
    have hbyte : byte.toNat < 2 ^ 8 := byte.isLt
    rw [value, Nat.add_comm, show 256 = 2 ^ 8 from rfl, Nat.testBit_two_pow_mul_add _ hbyte]
    split
    case isTrue hlt =>
      rw [Nat.div_eq_of_lt hlt, Nat.mod_eq_of_lt hlt, BitVec.testBit_toNat]
      rfl
    case isFalse hge =>
      obtain ⟨i, rfl⟩ := Nat.exists_eq_add_of_le' (Nat.le_of_not_lt hge)
      rw [Nat.add_sub_cancel, ih, Nat.add_div_right _ (by decide), Nat.add_mod_right,
        List.getElem?_cons_succ]

/-- The bits of the bytes are those of the number. -/
theorem getLsbD_bytes (count n i : Nat) :
    ((bytes count n)[i / 8]?.getD 0).getLsbD (i % 8) = (decide (i < 8 * count) && n.testBit i) := by
  rw [← testBit_value, value_bytes, BitVec.testBit_toNat, BitVec.getLsbD_ofNat]

end LittleEndian

namespace RegisterFile

/-- One bit of the block, counted from its start. -/
def bit (file : Nat → Byte) (place : Nat) : Bool :=
  (file (place / 8)).getLsbD (place % 8)

/-- Blocks with the same bits are the same. -/
theorem eq_of_bit_eq {file file' : Nat → Byte} (h : ∀ place, bit file place = bit file' place) :
    file = file' := by
  funext offset
  refine BitVec.eq_of_getLsbD_eq fun i hi => ?_
  have hdiv : (8 * offset + i) / 8 = offset := by omega
  have hmod : (8 * offset + i) % 8 = i := by omega
  have hbit := h (8 * offset + i)
  rwa [bit, bit, hdiv, hmod] at hbit

/-- A register shows the bits from its place on. -/
theorem getLsbD_value (file : Nat → Byte) (width : Width) (offset i : Nat) :
    (value file width offset).getLsbD i = (decide (i < width.bits) && bit file (8 * offset + i)) := by
  rw [value, BitVec.getLsbD_ofNat, LittleEndian.testBit_value]
  by_cases hi : i < width.bits
  · have hbyte : i / 8 < width.bytes := by
      rw [width.bits_eq] at hi
      omega
    have hdiv : (8 * offset + i) / 8 = offset + i / 8 := by omega
    have hmod : (8 * offset + i) % 8 = i % 8 := by omega
    rw [bit, hdiv, hmod, List.getElem?_map, List.getElem?_range hbyte]
    rfl
  · rw [decide_eq_false hi, Bool.false_and, Bool.false_and]

/-- A write replaces the bits from its place on, and leaves all others. -/
theorem bit_store (file : Nat → Byte) (width : Width) (offset : Nat) (new : BitVec width.bits)
    (place : Nat) :
    bit (store file width offset new) place =
      if 8 * offset ≤ place ∧ place < 8 * offset + width.bits then
        new.getLsbD (place - 8 * offset)
      else bit file place := by
  have hbits := width.bits_eq
  rw [bit, store]
  by_cases hoffset : offset ≤ place / 8
  · obtain ⟨i, rfl⟩ : ∃ i, place = 8 * offset + i := ⟨place - 8 * offset, by omega⟩
    have hdiv : (8 * offset + i) / 8 - offset = i / 8 := by omega
    have hmod : (8 * offset + i) % 8 = i % 8 := by omega
    rw [if_pos hoffset, hdiv, hmod, Nat.add_sub_cancel_left]
    by_cases hi : i < width.bits
    · have hbyte : i / 8 < (LittleEndian.bytes width.bytes new.toNat).length := by
        rw [LittleEndian.length_bytes]
        omega
      have hread := LittleEndian.getLsbD_bytes width.bytes new.toNat i
      rw [List.getElem?_eq_getElem hbyte, Option.getD_some] at hread
      rw [if_pos ⟨by omega, by omega⟩, List.getElem?_eq_getElem hbyte, Option.getD_some, hread,
        decide_eq_true (by omega), Bool.true_and, BitVec.testBit_toNat]
    · -- the byte lies after those that are written
      rw [if_neg (by omega), List.getElem?_eq_none (by rw [LittleEndian.length_bytes]; omega),
        Option.getD_none, bit, hmod]
  · rw [if_neg hoffset, if_neg (by omega), bit]

/-- A write elsewhere leaves a register alone. -/
theorem value_store_of_isApart {width width' : Width} {register : Register width} {offset : Nat}
    (h : register.isApart (width', offset) = true) (file : Nat → Byte) (new : BitVec width'.bits) :
    value (store file width' offset new) width register.offset =
      value file width register.offset :=
  value_store_of_disjoint file new (Register.not_reaches_of_isApart h new)

/-- Of two writes to a register the second counts. -/
theorem store_store (file : Nat → Byte) (width : Width) (offset : Nat)
    (first second : BitVec width.bits) :
    store (store file width offset first) width offset second = store file width offset second := by
  refine eq_of_bit_eq fun place => ?_
  rw [bit_store, bit_store, bit_store]
  split <;> rfl

/-- What a register holds anyway may be written back. -/
theorem store_value (file : Nat → Byte) (width : Width) (offset : Nat) :
    store file width offset (value file width offset) = file := by
  refine eq_of_bit_eq fun place => ?_
  rw [bit_store]
  split
  case isTrue h =>
    rw [getLsbD_value, decide_eq_true (by omega), Bool.true_and, Nat.add_sub_cancel' h.1]
  case isFalse => rfl

end RegisterFile

/-- What a query makes of a block of registers that keeps what is written. -/
def Query.store (query : Query) (file : Nat → Byte) : Nat → Byte :=
  match query with
  | .write width offset value => RegisterFile.store file width offset value
  | _ => file

variable {σ α β : Type} {width : Width}

/-- The registers of a host keep what is written to them. -/
structure StoredBlock (host : Host σ) where
  /-- What the registers hold. -/
  file : σ → Nat → Byte
  /-- A read gives what a register holds. -/
  read_reply : ∀ width offset state,
    (host.answer (.read width offset) state).1 = RegisterFile.value (file state) width offset
  /-- A write stores, and nothing else changes what the registers hold. -/
  file_answer : ∀ query state, file (host.answer query state).2 = query.store (file state)

/-- The block of surroundings that have nothing else. -/
def RegisterFile.block : StoredBlock RegisterFile.host where
  file file := file
  read_reply _ _ _ := rfl
  file_answer query file := by cases query <;> rfl

namespace StoredBlock

variable {host : Host σ} (block : StoredBlock host)

/-- A program comes to its end with a value and makes one block of another, wherever it starts from. -/
def Makes (program : Program α) (file : Nat → Byte) (value : α) (file' : Nat → Byte) : Prop :=
  ∀ state, block.file state = file →
    ∃ after, program.run host state = (.ok value, after) ∧ block.file after = file'

theorem makes_done (value : α) (file : Nat → Byte) : block.Makes (.done value) file value file :=
  fun state hfile => ⟨state, rfl, hfile⟩

variable {block}

theorem Makes.bind {program : Program α} {next : α → Program β} {file between after : Nat → Byte}
    {value : α} {value' : β} (h : block.Makes program file value between)
    (hnext : block.Makes (next value) between value' after) :
    block.Makes (program >>= next) file value' after := by
  intro state hfile
  obtain ⟨state', hrun, hbetween⟩ := h state hfile
  obtain ⟨state'', hrun', hafter⟩ := hnext state' hbetween
  exact ⟨state'', by rw [Program.run_bind_of_ok hrun, hrun'], hafter⟩

variable (block)

theorem makes_read (register : Register width) (file : Nat → Byte) :
    block.Makes register.read file (RegisterFile.value file width register.offset) file := by
  intro state hfile
  have hbarrier : block.file (host.answer .barrier state).2 = file :=
    (block.file_answer _ _).trans hfile
  refine ⟨_, Prod.ext (congrArg Except.ok ?_) rfl, (block.file_answer _ _).trans hbarrier⟩
  exact (block.read_reply _ _ _).trans (by rw [hbarrier])

theorem makes_write (register : Register width) (value : BitVec width.bits) (file : Nat → Byte) :
    block.Makes (register.write value) file ()
      (RegisterFile.store file width register.offset value) := by
  intro state hfile
  have hbarrier : block.file (host.answer .barrier state).2 = file :=
    (block.file_answer _ _).trans hfile
  refine ⟨_, rfl, (block.file_answer _ _).trans ?_⟩
  rw [hbarrier]
  rfl

theorem makes_modify (register : Register width) (change : BitVec width.bits → BitVec width.bits)
    (file : Nat → Byte) :
    block.Makes (register.modify change) file () (RegisterFile.store file width register.offset
      (change (RegisterFile.value file width register.offset))) :=
  (block.makes_read register file).bind (block.makes_write register _ file)

theorem makes_delay (microseconds : Word) (file : Nat → Byte) :
    block.Makes (Program.delay microseconds) file () file :=
  fun _ hfile => ⟨_, rfl, (block.file_answer _ _).trans hfile⟩

section Tasks

variable {block} {τ : Type} {file between after : Nat → Byte}

theorem Makes.start_program {program : Program α} {value : α}
    (h : block.Makes program file value after) (state : τ) :
    block.Makes ((liftM program : Task τ α).start state) file (.ok value, state) after := by
  rw [Task.start_program]
  exact h.bind (block.makes_done _ _)

theorem Makes.start_attempt {attempt : Attempt α} {result : Except Error α}
    (h : block.Makes attempt.run file result after) (state : τ) :
    block.Makes ((liftM attempt : Task τ α).start state) file (result, state) after := by
  rw [Task.start_attempt]
  exact h.bind (block.makes_done _ _)

theorem Makes.start_bind {task : Task τ α} {next : α → Task τ β} {state state' : τ} {value : α}
    {outcome : Except Error β × τ} (h : block.Makes (task.start state) file (.ok value, state') between)
    (hnext : block.Makes ((next value).start state') between outcome after) :
    block.Makes ((task >>= next).start state) file outcome after := by
  rw [Task.start_bind]
  exact h.bind hnext

end Tasks

/-- What comes after a program is asked of the block that the program makes. -/
theorem Makes.along_bind {block : StoredBlock host} {P : Query → σ → Prop} {program : Program α}
    {next : α → Program β} {file between : Nat → Byte} {value : α} {state : σ}
    (h : block.Makes program file value between) (hstate : block.file state = file)
    (halong : program.Along host P state)
    (hnext : ∀ state, block.file state = between → (next value).Along host P state) :
    (program >>= next).Along host P state := by
  obtain ⟨after, hrun, hafter⟩ := h state hstate
  refine (Program.along_bind program next state).mpr ⟨halong, ?_⟩
  rw [hrun]
  rintro _ _ ⟨⟩
  exact hnext after hafter

end StoredBlock

end SdHost
