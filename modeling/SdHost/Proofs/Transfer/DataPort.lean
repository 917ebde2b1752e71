import SdHost.Proofs.Host.History
import SdHost.Proofs.Memory
import SdHost.Slot.Transfer

/-!
# Blocks through the data window

Seen through the data window a card is a queue of bytes in either direction, out of which an access
takes as many bytes as it is wide, or into which it puts as many. Whole words and single bytes may
be mixed.

The module introduces:

* `FifoPort host`: a host behind whose data window there is such a queue;
* `port.Moved taken given`: between two states of the host so many bytes went each way;
* `port.Run`: a program comes to its end and moves so many bytes each way, with the rule
  `FifoPort.Run.bind` for one program after another.

`FifoPort.run_readBlock` and `FifoPort.run_writeBlock` tell what becomes of a block, whatever its
size.
-/

namespace SdHost

/-- The query is an access to the data window. -/
def Query.usesDataPort : Query → Bool
  | .read _ offset => offset == RegisterMap.dataWindow.offset
  | .write _ offset _ => offset == RegisterMap.dataWindow.offset
  | _ => false

/-- Behind the data window there is a queue of bytes to be read, and one of bytes that were
written. -/
structure FifoPort {σ : Type} (host : Host σ) where
  /-- The bytes that are still to be read, the next one first. -/
  input : σ → List Byte
  /-- The bytes that were written so far. -/
  output : σ → List Byte
  /-- A read shows the next bytes, little endian. -/
  read_reply : ∀ (width : Width) (state : σ), width.bytes ≤ (input state).length →
    (host.answer (.read width RegisterMap.dataWindow.offset) state).1 =
      BitVec.ofNat width.bits (LittleEndian.value ((input state).take width.bytes))
  /-- A read takes the bytes that it shows. -/
  read_input : ∀ (width : Width) (state : σ), width.bytes ≤ (input state).length →
    input (host.answer (.read width RegisterMap.dataWindow.offset) state).2 =
      (input state).drop width.bytes
  /-- A read writes nothing. -/
  read_output : ∀ (width : Width) (state : σ), width.bytes ≤ (input state).length →
    output (host.answer (.read width RegisterMap.dataWindow.offset) state).2 = output state
  /-- A write takes nothing. -/
  write_input : ∀ (width : Width) (value : BitVec width.bits) (state : σ),
    input (host.answer (.write width RegisterMap.dataWindow.offset value) state).2 = input state
  /-- A write appends its bytes, little endian. -/
  write_output : ∀ (width : Width) (value : BitVec width.bits) (state : σ),
    output (host.answer (.write width RegisterMap.dataWindow.offset value) state).2 =
      output state ++ LittleEndian.bytes width.bytes value.toNat
  /-- Nothing else takes bytes. -/
  other_input : ∀ (query : Query) (state : σ), query.usesDataPort = false →
    input (host.answer query state).2 = input state
  /-- Nothing else writes bytes. -/
  other_output : ∀ (query : Query) (state : σ), query.usesDataPort = false →
    output (host.answer query state).2 = output state

namespace FifoPort

variable {σ : Type} {host : Host σ} (port : FifoPort host)

/-- Between two states some bytes were taken and some were given. -/
structure Moved (taken given : List Byte) (state after : σ) : Prop where
  /-- The bytes that were taken are those that came next. -/
  input_eq : port.input state = taken ++ port.input after
  /-- The bytes that were given came after those that were there. -/
  output_eq : port.output after = port.output state ++ given

variable {port} {taken taken' given given' : List Byte} {state middle after : σ}

theorem Moved.refl (state : σ) : port.Moved [] [] state state :=
  ⟨rfl, (List.append_nil _).symm⟩

theorem Moved.trans (h : port.Moved taken given state middle)
    (h' : port.Moved taken' given' middle after) :
    port.Moved (taken ++ taken') (given ++ given') state after where
  input_eq := by rw [h.input_eq, h'.input_eq, List.append_assoc]
  output_eq := by rw [h'.output_eq, h.output_eq, List.append_assoc]

theorem Moved.trans_quiet (h : port.Moved taken given state middle)
    (h' : port.Moved [] [] middle after) : port.Moved taken given state after := by
  simpa only [List.append_nil] using h.trans h'

theorem moved_of_other {query : Query} (hquery : query.usesDataPort = false) (state : σ) :
    port.Moved [] [] state (host.answer query state).2 where
  input_eq := (port.other_input query state hquery).symm
  output_eq := by rw [port.other_output query state hquery, List.append_nil]

variable {α β : Type}

/-- A program that leaves the data window alone moves nothing through it. -/
theorem moved_of_history {program : Program α}
    (h : ∀ event ∈ program.history host state, event.query.usesDataPort = false) :
    port.Moved [] [] state (program.run host state).2 := by
  induction program generalizing state with
  | done => exact Moved.refl state
  | fault => exact Moved.refl state
  | ask query next ih =>
    obtain ⟨hquery, hrest⟩ := List.forall_mem_cons.mp h
    exact (moved_of_other hquery state).trans (ih _ hrest)

variable (port) in
/-- Started in a state, a program comes to an end with a value in another state, and in between it
takes and gives some bytes. -/
structure Run (program : Program α) (state : σ) (value : α) (taken given : List Byte)
    (after : σ) : Prop where
  /-- The program comes to its end. -/
  run_eq : program.run host state = (.ok value, after)
  /-- The bytes that it moves. -/
  moved : port.Moved taken given state after

theorem Run.done (value : α) (state : σ) :
    port.Run (.done value) state value [] [] state :=
  ⟨rfl, Moved.refl state⟩

/-- One program after another moves the bytes of both, one after the other. -/
theorem Run.bind {program : Program α} {next : α → Program β} {value : α} {value' : β}
    (h : port.Run program state value taken given middle)
    (h' : port.Run (next value) middle value' taken' given' after) :
    port.Run (program >>= next) state value' (taken ++ taken') (given ++ given') after where
  run_eq := by rw [Program.run_bind_of_ok h.run_eq, h'.run_eq]
  moved := h.moved.trans h'.moved

theorem Run.bind_done {program : Program α} {next : α → Program β} {value : α} {value' : β}
    (h : port.Run program state value taken given after) (hnext : next value = .done value') :
    port.Run (program >>= next) state value' taken given after where
  run_eq := by rw [Program.run_bind_of_ok h.run_eq, hnext, Program.run_done]
  moved := h.moved

/-- A program that is sure to leave the data window alone moves nothing. -/
theorem run_of_ensures {program : Program α} {value : α}
    (h : program.Ensures (fun _ => True) fun events outcome =>
      (∀ event ∈ events, event.query.usesDataPort = false) ∧ outcome = .ok value) (state : σ) :
    ∃ after, port.Run program state value [] [] after := by
  have hany : host.Always fun _ => True := fun _ _ => trivial
  obtain ⟨hquiet, hvalue⟩ := h.run hany state
  exact ⟨(program.run host state).2, Prod.ext hvalue rfl, moved_of_history hquiet⟩

theorem run_ask {query : Query} {next : query.Reply → Program α} {value : α}
    (hquery : query.usesDataPort = false)
    (h : ∃ after, port.Run (next (host.answer query state).1) (host.answer query state).2 value
      taken given after) :
    ∃ after, port.Run (.ask query next) state value taken given after := by
  obtain ⟨after, hrun, hmoved⟩ := h
  exact ⟨after, hrun, (moved_of_other hquery state).trans hmoved⟩

variable (port) in
/-- A barrier moves nothing. -/
theorem run_barrier (state : σ) :
    ∃ after, port.Run Program.barrier state () [] [] after :=
  ⟨_, rfl, moved_of_other rfl state⟩

theorem run_readUnfenced {width : Width} (register : Register width)
    (hoffset : register.offset = RegisterMap.dataWindow.offset) {value : BitVec width.bits}
    (hvalue : LittleEndian.bytes width.bytes value.toNat = taken)
    (htaken : taken <+: port.input state) :
    ∃ after, port.Run register.readUnfenced state value taken [] after := by
  obtain ⟨rest, hrest⟩ := htaken
  have hlength : taken.length = width.bytes := by rw [← hvalue, LittleEndian.length_bytes]
  have hroom : width.bytes ≤ (port.input state).length := by
    rw [← hrest, List.length_append]
    omega
  have htake : (port.input state).take width.bytes = taken := by
    rw [← hrest, List.take_left' hlength]
  have hdrop : (port.input state).drop width.bytes = rest := by
    rw [← hrest, List.drop_left' hlength]
  -- the value, what is left to be read, and what was written, in this order
  refine ⟨(host.answer (.read width register.offset) state).2, ?_, ?_, ?_⟩
  · show (Except.ok (host.answer (.read width register.offset) state).1, _) = _
    rw [hoffset, port.read_reply width state hroom, htake, ← hvalue,
      LittleEndian.ofNat_value_bytes_toNat]
  · rw [hoffset, port.read_input width state hroom, hdrop, hrest]
  · rw [hoffset, port.read_output width state hroom, List.append_nil]

theorem run_writeUnfenced {width : Width} (register : Register width)
    (hoffset : register.offset = RegisterMap.dataWindow.offset) {value : BitVec width.bits}
    (hvalue : LittleEndian.bytes width.bytes value.toNat = given) (state : σ) :
    ∃ after, port.Run (register.writeUnfenced value) state () [] given after := by
  refine ⟨_, rfl, ?_, ?_⟩
  · rw [hoffset, port.write_input, List.nil_append]
  · rw [hoffset, port.write_output, hvalue]

/-- An access with a barrier in front moves what it moves without. -/
theorem Run.fenced {program : Program α} {value : α}
    (h : ∀ state, taken <+: port.input state →
      ∃ after, port.Run program state value taken given after)
    (htaken : taken <+: port.input state) :
    ∃ after, port.Run (Program.barrier >>= fun _ => program) state value taken given after := by
  -- the barrier takes nothing, so that what comes next is still the same
  obtain ⟨middle, hbarrier⟩ := run_barrier port state
  have hinput := hbarrier.moved.input_eq
  rw [List.nil_append] at hinput
  obtain ⟨after, hprogram⟩ := h middle (hinput ▸ htaken)
  exact ⟨after, hbarrier.bind hprogram⟩

/-! ## Blocks -/

open Transfer

/-- What is left to be taken once a first part was taken. -/
theorem Moved.suffix_prefix {rest : List Byte} (h : port.Moved taken given state after)
    (htaken : taken ++ rest <+: port.input state) : rest <+: port.input after := by
  rw [h.input_eq] at htaken
  exact (List.prefix_append_right_inj taken).mp htaken

/-- Reading words takes four bytes each. -/
theorem run_readWords {words : Nat} (block : Memory) (hlength : taken.length = 4 * words)
    (htaken : taken <+: port.input state) :
    ∃ after, port.Run (readWords words block) state (block ++ taken) taken [] after := by
  induction words generalizing block state taken with
  | zero =>
    obtain rfl : taken = [] := List.length_eq_zero_iff.mp hlength
    have hblock : block ++ ([] : List Byte) = block := by simp
    rw [hblock]
    exact ⟨state, Run.done block state⟩
  | succ words ih =>
    -- four bytes come with the first word, the others after it
    obtain ⟨first, rest, rfl, hfirst⟩ : ∃ first rest, taken = first ++ rest ∧ first.length = 4 :=
      ⟨taken.take 4, taken.drop 4, (List.take_append_drop 4 taken).symm, by simp; omega⟩
    rw [List.length_append] at hlength
    have hblock : block ++ (first ++ rest) = block ++ first ++ rest := by
      apply Array.toList_inj.mp
      simp
    have hword := LittleEndian.bytes_toNat_ofNat_value .word hfirst
    obtain ⟨middle, hread⟩ := run_readUnfenced RegisterMap.dataWindow rfl hword
      ((List.prefix_append first rest).trans htaken)
    obtain ⟨after, hwords⟩ := ih (block ++ first) (by omega)
      (hread.moved.suffix_prefix htaken)
    have hstep : readWords words (block ++ LittleEndian.bytes 4
        (BitVec.ofNat 32 (LittleEndian.value first)).toNat) = readWords words (block ++ first) :=
      congrArg (fun bytes : List Byte => readWords words (block ++ bytes)) hword
    rw [hblock]
    exact ⟨after, hread.bind (hstep ▸ hwords)⟩

theorem run_readBytes {bytes : Nat} (block : Memory) (hlength : taken.length = bytes)
    (htaken : taken <+: port.input state) :
    ∃ after, port.Run (readBytes bytes block) state (block ++ taken) taken [] after := by
  induction bytes generalizing block state taken with
  | zero =>
    obtain rfl : taken = [] := List.length_eq_zero_iff.mp hlength
    have hblock : block ++ ([] : List Byte) = block := by simp
    rw [hblock]
    exact ⟨state, Run.done block state⟩
  | succ bytes ih =>
    obtain ⟨byte, rest, rfl⟩ := List.exists_cons_of_length_eq_add_one hlength
    have hblock : block ++ (byte :: rest) = block.push byte ++ rest := by
      apply Array.toList_inj.mp
      simp
    have hbyte : LittleEndian.bytes 1 byte.toNat = [byte] := by
      simp [LittleEndian.bytes]
    obtain ⟨middle, hread⟩ := Run.fenced
      (fun state htaken => run_readUnfenced RegisterMap.dataWindowByte rfl hbyte htaken)
      ((List.prefix_append [byte] rest).trans htaken)
    obtain ⟨after, hbytes⟩ := ih (block.push byte) (by simpa using hlength)
      (hread.moved.suffix_prefix htaken)
    rw [hblock]
    exact ⟨after, hread.bind hbytes⟩

/-- Reading a block takes as many bytes as the block has. -/
theorem run_readBlock (htaken : taken <+: port.input state) :
    ∃ after, port.Run (readBlock taken.length) state taken.toArray taken [] after := by
  have hempty (run : List Byte) : (#[] : Memory) ++ run = run.toArray := by
    apply Array.toList_inj.mp
    simp
  rw [readBlock]
  cases hwords : taken.length / 4 with
  | zero =>
    -- too short for a word
    have hbytes : taken.length = taken.length % 4 := by omega
    rw [← hempty taken]
    exact run_readBytes #[] hbytes htaken
  | succ words =>
    obtain ⟨front, tail, rfl, hfront⟩ : ∃ front tail, taken = front ++ tail ∧
        front.length = 4 * (words + 1) :=
      ⟨taken.take (4 * (words + 1)), taken.drop (4 * (words + 1)),
        (List.take_append_drop _ taken).symm, by rw [List.length_take]; omega⟩
    have htail : tail.length = (front ++ tail).length % 4 := by
      rw [List.length_append] at hwords ⊢
      omega
    -- first the barrier, then the words, then the bytes that are left
    obtain ⟨first, hbarrier⟩ := run_barrier port state
    have hinput := hbarrier.moved.suffix_prefix htaken
    obtain ⟨middle, hfrontRun⟩ := run_readWords #[] hfront
      ((List.prefix_append front tail).trans hinput)
    obtain ⟨after, htailRun⟩ := run_readBytes front.toArray htail
      (hfrontRun.moved.suffix_prefix hinput)
    have hblock : (front ++ tail).toArray = front.toArray ++ tail := by
      apply Array.toList_inj.mp
      simp
    rw [hempty] at hfrontRun
    rw [hblock]
    exact ⟨after, hbarrier.bind (hfrontRun.bind htailRun)⟩

theorem run_writeBytes (run : List Byte) (state : σ) :
    ∃ after, port.Run (writeBytes run) state () [] run after := by
  induction run generalizing state with
  | nil => exact ⟨state, Run.done () state⟩
  | cons byte rest ih =>
    have hbyte : LittleEndian.bytes 1 byte.toNat = [byte] := by
      simp [LittleEndian.bytes]
    obtain ⟨middle, hwrite⟩ := Run.fenced
      (fun state _ => run_writeUnfenced RegisterMap.dataWindowByte rfl hbyte state)
      (List.nil_prefix : [] <+: port.input state)
    obtain ⟨after, hrest⟩ := ih middle
    exact ⟨after, hwrite.bind hrest⟩

variable (port) in
/-- Writing a block gives its bytes. -/
theorem run_writeBlock (run : List Byte) (state : σ) :
    ∃ after, port.Run (writeBlock run) state () [] run after := by
  fun_induction writeBlock run generalizing state with
  | case1 a b c d word e f g h rest _ ih =>
    -- another whole word follows
    have hword : LittleEndian.bytes 4 word.toNat = [a, b, c, d] :=
      LittleEndian.bytes_toNat_ofNat_value .word rfl
    obtain ⟨middle, hwrite⟩ :=
      run_writeUnfenced RegisterMap.dataWindow rfl hword state
    obtain ⟨after, hrest⟩ := ih middle
    exact ⟨after, hwrite.bind hrest⟩
  | case2 a b c d word rest _ _ ih =>
    -- this is the last whole word, which has the barrier
    have hword : LittleEndian.bytes 4 word.toNat = [a, b, c, d] :=
      LittleEndian.bytes_toNat_ofNat_value .word rfl
    obtain ⟨middle, hwrite⟩ := Run.fenced
      (fun state _ => run_writeUnfenced RegisterMap.dataWindow rfl hword state)
      (List.nil_prefix : [] <+: port.input state)
    obtain ⟨after, hrest⟩ := ih middle
    exact ⟨after, hwrite.bind hrest⟩
  | case3 tail => exact run_writeBytes tail state

end FifoPort

end SdHost
