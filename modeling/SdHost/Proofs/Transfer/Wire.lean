import SdHost.Proofs.Host.Storage
import SdHost.Proofs.Transfer.DataPhase

/-!
# Commands on the wire

A command goes out as a run of register writes. Which writes these are, and what the two words that
describe the command say, follows from the command and from who moves its data.

The module introduces:

* `CommandWord.Describes`, `TransferMode.Describes`: what the two words say about a command;
* `Transfer.awaited`: the events that a command waits for;
* `Transfer.Pointed`: how the controller is pointed at the data of a command before it is sent.

`accepted_command_on_wire` says what is sent for a command that is accepted, whatever state the slot
is in.
-/

namespace SdHost

open SdHost.Task (Maintains)

/-- The command word says which command it sends, which response the card gives, and whether there is
a data phase. -/
structure CommandWord.Describes (word : HalfWord) (command : Command) : Prop where
  index_eq : CommandWord.index.get word = command.index.toNat
  commandType_eq : CommandWord.commandType.get word = command.commandType.select
  noResponse_iff : CommandWord.responseType.get word = CommandWord.noResponse ↔
    command.responseType = .none
  longResponse_iff : CommandWord.responseType.get word = CommandWord.longResponse ↔
    command.responseType = .r2
  shortResponse_iff : CommandWord.responseType.get word = CommandWord.shortResponse ↔
    command.responseType ∈ [.r1, .r3, .r4, .r5, .r6]
  busyResponse_iff : CommandWord.responseType.get word = CommandWord.busyResponse ↔
    command.responseType ∈ [.r1b, .r5b]
  crcCheck_iff : CommandWord.crcCheck.test word = true ↔
    command.responseType ∉ [.none, .r3, .r4]
  indexCheck_iff : CommandWord.indexCheck.test word = true ↔
    command.responseType ∉ [.none, .r2, .r3, .r4]
  dataPresent_iff : CommandWord.dataPresent.test word = true ↔ command.transferType ≠ .none

/-- The transfer mode says who moves the data of a command, which way, and whether there is more than
one block of it. -/
structure TransferMode.Describes (mode : HalfWord) (command : Command) (dma : Bool) : Prop where
  dmaEnable_eq : TransferMode.dmaEnable.test mode = dma
  directionRead_iff : TransferMode.directionRead.test mode = true ↔
    command.transferType ≠ .none ∧ command.direction = some .read
  multipleBlock_iff : TransferMode.multipleBlock.test mode = true ↔
    command.transferType ≠ .none ∧ 1 < command.blockCount
  blockCountEnable_iff : TransferMode.blockCountEnable.test mode = true ↔
    command.transferType ≠ .none ∧ 1 < command.blockCount

namespace Command

theorem select_responseType_lt (responseType : ResponseType) :
    responseType.select < 2 ^ CommandWord.responseType.width := by
  cases responseType <;> decide

theorem select_commandType_lt (commandType : CommandType) :
    commandType.select < 2 ^ CommandWord.commandType.width := by
  cases commandType <;> decide

section Word

variable (command : Command) (dataPresent : Bool)

/-! ### Reading the command word -/

theorem get_index_word (hindex : command.index.toNat < 64) :
    CommandWord.index.get (command.word dataPresent) = command.index.toNat := by
  have hlt : command.index.toNat < 2 ^ CommandWord.index.width := hindex
  simp (disch := first | decide | assumption) only [word, Field.get_put_of_disjoint,
    Field.get_set_of_disjoint, Field.get_set_of_lt]

theorem get_commandType_word :
    CommandWord.commandType.get (command.word dataPresent) = command.commandType.select := by
  have hlt := select_commandType_lt command.commandType
  simp (disch := first | decide | assumption) only [word, Field.get_put_of_disjoint,
    Field.get_set_of_disjoint, Field.get_set_of_lt]

theorem get_responseType_word :
    CommandWord.responseType.get (command.word dataPresent) = command.responseType.select := by
  have hlt := select_responseType_lt command.responseType
  simp (disch := first | decide | assumption) only [word, Field.get_put_of_disjoint,
    Field.get_set_of_lt]

theorem test_crcCheck_word :
    CommandWord.crcCheck.test (command.word dataPresent) = command.responseType.hasChecksum := by
  simp (disch := decide) only [word, Field.test_put_of_disjoint, Field.test_put]

theorem test_indexCheck_word :
    CommandWord.indexCheck.test (command.word dataPresent) = command.responseType.hasIndex := by
  simp (disch := decide) only [word, Field.test_put_of_disjoint, Field.test_put]

theorem test_dataPresent_word :
    CommandWord.dataPresent.test (command.word dataPresent) = dataPresent := by
  simp (disch := decide) only [word, Field.test_put]

end Word

/-- No field of the command word is overwritten by another. -/
theorem describes_word {command : Command} {dataPresent : Bool}
    (hindex : command.index.toNat < 64)
    (hdata : dataPresent = true ↔ command.transferType ≠ .none) :
    CommandWord.Describes (command.word dataPresent) command := by
  have hresponse := command.get_responseType_word dataPresent
  have hcrc := command.test_crcCheck_word dataPresent
  have hcheck := command.test_indexCheck_word dataPresent
  constructor
  case index_eq => exact command.get_index_word dataPresent hindex
  case commandType_eq => exact command.get_commandType_word dataPresent
  case dataPresent_iff => rwa [test_dataPresent_word]
  -- the response decides the rest
  all_goals
    simp only [hresponse, hcrc, hcheck]
    cases command.responseType <;> decide

/-- No field of the transfer mode is overwritten by another. -/
theorem describes_transferMode {command : Command} {direction : Direction} (dma : Bool)
    (htype : command.transferType ≠ .none) (hdirection : command.direction = some direction) :
    TransferMode.Describes (command.transferMode direction dma) command dma := by
  have hread : (direction == Direction.read) = true ↔ command.direction = some .read := by
    rw [hdirection, beq_iff_eq, Option.some_inj]
  by_cases hseveral : 1 < command.blockCount
  · have hmode : command.transferMode direction dma =
        TransferMode.autoCmd.set TransferMode.stopAutomatically
          (TransferMode.multipleBlock.put true (TransferMode.blockCountEnable.put true
            (TransferMode.dmaEnable.put dma
              (TransferMode.directionRead.put (direction == .read) 0)))) :=
      if_pos (decide_eq_true hseveral)
    rw [hmode]
    constructor <;>
      simp (disch := decide) only [Field.test_set_of_disjoint, Field.test_put_of_disjoint,
        Field.test_put, hread, hseveral, htype, ne_eq, not_false_iff, and_self, true_and]
  · -- what announces several blocks is left at zero
    have hmode : command.transferMode direction dma =
        TransferMode.dmaEnable.put dma (TransferMode.directionRead.put (direction == .read) 0) :=
      if_neg (Bool.not_eq_true _ ▸ decide_eq_false hseveral)
    rw [hmode]
    constructor <;>
      simp (disch := decide) only [Field.test_put_of_disjoint, Field.test_put, Field.test_zero,
        hread, hseveral, htype, ne_eq, not_false_iff, true_and, and_false, reduceCtorEq]

theorem describes_zero {command : Command} (htype : command.transferType = .none) :
    TransferMode.Describes 0 command false := by
  constructor <;> simp only [Field.test_zero, htype, ne_eq, not_true, false_and, Bool.false_eq_true]

end Command

namespace Transfer

variable {Allowed : Event → Prop}

/-- The events that a command waits for: its own end, the end of a busy response, and the first event of
its data phase. -/
def awaited (command : Command) (dma : Bool) : Word :=
  commandComplete ||| (if command.responseType.isBusy then transferComplete else 0) |||
    if command.transferType = .none then 0
    else if dma then transferComplete
    else command.direction.elim 0 bufferReady

/-- How the controller is pointed at the data of a command, with the accesses that this takes and with
the slot as it is afterwards. -/
inductive Pointed (command : Command) (slot : Slot) :
    Option (Direction × DataPhase) → List Event → Prop
  /-- There is no data phase. -/
  | nothing (htype : command.transferType = .none) : Pointed command slot none []
  /-- The processor moves the data. -/
  | window {direction : Direction} (htype : command.transferType ≠ .none)
      (hdirection : command.direction = some direction) (hmethod : command.method = .pio)
      (hprogress : slot.bounceInProgress = none) :
      Pointed command slot (some (direction, { dma := false, events := bufferReady direction })) []
  /-- The data goes through bounce pages. -/
  | bounce {direction : Direction} {pages : BouncePages} (htype : command.transferType ≠ .none)
      (hdirection : command.direction = some direction) (hmethod : command.method = .pio)
      (hprogress : slot.bounceInProgress = some direction) (hpages : slot.bounce = some pages) :
      Pointed command slot (some (direction, { dma := true, events := transferComplete }))
        [⟨.write .word RegisterMap.admaAddress.offset pages.tableAddress, ()⟩]
  /-- The controller moves the data, following the table of a scatter/gather list. -/
  | table {direction : Direction} {table : TableMemory} (htype : command.transferType ≠ .none)
      (hdirection : command.direction = some direction) (hmethod : command.method = .scatterGather)
      (htable : command.table = some table) :
      Pointed command slot (some (direction, { dma := true, events := transferComplete }))
        (tableEvents slot.capabilities.address64 table.address)

/-- Data that the processor should move is left for the data window, or the controller is pointed at the
bounce pages. -/
theorem ensures_setUpPio_pointed {t : Transfer} {command : Command} {direction : Direction}
    (hfresh : t.slot.bounceInProgress = none) (htype : command.transferType ≠ .none)
    (hdirection : command.direction = some direction) (hmethod : command.method = .pio) :
    ((setUpPio command direction).start t).Ensures (fun _ => True) fun events outcome =>
      ∀ phase t', outcome = .ok (.ok phase, t') →
        Pointed command t'.slot (some (direction, phase)) (events.filter Event.isAccess) := by
  rcases Nat.lt_or_ge command.data.size command.length with hshort | hroom
  · rw [start_setUpPio_of_lt hshort]
    rintro _ _ ⟨⟩
  have hreserve : Maintains (fun event => event.isAccess = false)
      (fun t => t.slot.bounceInProgress = none) (reservePages command.length) :=
    maintains_reservePages (fun _ => Event.isAccess_of_allocates) (fun _ _ h => h) _
  rw [start_setUpPio hroom, Program.ensures_bind]
  refine (hreserve t hfresh).mono ?_
  rintro events (cause | ⟨cause | reserved, t'⟩) ⟨hevents, hkept⟩
  · rintro _ _ ⟨⟩
  · rintro _ _ ⟨⟩
  have hpio : ∀ phase t'', (Except.ok (Except.ok { dma := false, events := bufferReady direction },
      t') : Except Fault (Except Error DataPhase × Transfer)) = .ok (.ok phase, t'') →
      Pointed command t''.slot (some (direction, phase)) (events.filter Event.isAccess) := by
    rintro _ _ ⟨⟩
    rw [filter_isAccess_eq_nil hevents]
    exact .window htype hdirection hmethod (hkept _ _ rfl)
  cases reserved with
  | false => simpa only [Program.ensures_done, List.append_nil] using hpio
  | true =>
  cases hbounce : t'.slot.bounce with
  | none => simpa only [Program.ensures_done, List.append_nil, hbounce] using hpio
  | some pages =>
  simp only [List.filter_append, filter_isAccess_eq_nil hevents, List.nil_append, hbounce]
  cases hprepare : pages.prepare command.length with
  | error cause =>
    simp only [setUpBounce, hprepare, Task.start_bind, Task.start_ofExcept_error,
      Program.fault_bind, Program.ensures_fault]
    rintro _ _ ⟨⟩
  | ok pages' =>
  cases direction with
  | read =>
    rw [start_setUpBounce_read hprepare]
    rintro _ _ _ _ ⟨⟩
    exact .bounce htype hdirection hmethod rfl rfl
  | write =>
    cases hsource : (command.writeBuffer?.bind fun buffer =>
        Memory.slice? buffer 0 command.length) with
    | none =>
      rw [start_setUpBounce_refused hprepare hsource]
      rintro _ _ ⟨⟩
    | some source =>
      rw [start_setUpBounce_write hprepare hsource]
      rintro _ _ _ _ ⟨⟩
      -- what is copied into the pages does not move their table
      change Pointed command _ _
        [⟨.write .word RegisterMap.admaAddress.offset (pages'.fill source).tableAddress, ()⟩]
      exact .bounce htype hdirection hmethod rfl rfl

/-- Whatever the slot, a data phase that is set up is one that the controller is pointed at. -/
theorem ensures_setUpDataPhase_pointed {t : Transfer} (hfresh : t.slot.bounceInProgress = none) :
    ((setUpDataPhase t.request.command).start t).Ensures (fun _ => True) fun events outcome =>
      ∀ phase t', outcome = .ok (.ok phase, t') →
        Pointed t.request.command t'.slot phase (events.filter Event.isAccess) := by
  by_cases htype : t.request.command.transferType = .none
  · rw [start_setUpDataPhase_none htype]
    rintro _ _ ⟨⟩
    exact .nothing htype
  cases hcheck : t.request.command.checkDataPhase with
  | error cause =>
    rw [start_setUpDataPhase_refused htype hcheck]
    rintro _ _ ⟨⟩
  | ok direction =>
  obtain ⟨hdirection, -⟩ := of_checkDataPhase hcheck
  cases hmethod : t.request.command.method with
  | pio =>
    rw [start_setUpDataPhase_pio htype hmethod hcheck, Program.ensures_bind]
    refine (ensures_setUpPio_pointed hfresh htype hdirection hmethod).mono ?_
    rintro events (cause | ⟨cause | phase, t'⟩) hset
    · rintro _ _ ⟨⟩
    · rintro _ _ ⟨⟩
    · rintro _ _ ⟨⟩
      rw [List.append_nil]
      exact hset _ _ rfl
  | scatterGather =>
    rw [start_setUpDataPhase_scatterGather htype hmethod hcheck, Program.ensures_bind]
    refine (ensures_setUpScatterGather t.request.command t).mono ?_
    rintro events (cause | ⟨cause | phase, t'⟩) hset
    · rintro _ _ ⟨⟩
    · rintro _ _ ⟨⟩
    · obtain ⟨rfl, elements, table, info, memory, -, htable, -, rfl, rfl⟩ := hset
      rintro _ _ ⟨⟩
      rw [List.append_nil, filter_isAccess_tableEvents]
      exact .table htype hdirection hmethod htable

/-- A command that is accepted is sent, and its events are noted, with the controller pointed at its
data. -/
theorem ensures_sendCommand_pointed (t : Transfer) :
    (sendCommand.start t).Ensures (fun _ => True) fun events outcome =>
      ∀ progress t', outcome = .ok (.ok progress, t') → progress = .pending ∧
        ∃ phase addresses, Pointed t.request.command t'.slot phase addresses ∧
          events.filter Event.isAccess = addresses ++ commandEvents t.request.command phase ∧
          t'.request.requiredEvents = firstEvents t.request.command phase := by
  rw [start_sendCommand, Program.ensures_bind]
  refine (ensures_setUpDataPhase_pointed (t := t.fresh) rfl).mono ?_
  rintro events (cause | ⟨cause | phase, t'⟩) hset
  · rintro _ _ ⟨⟩
  · rintro _ _ ⟨⟩
  simp only [Program.ensures_bind]
  refine (ensures_writeCommand _ t.request.command phase).mono ?_
  rintro later _ ⟨rfl, rfl⟩ progress t'' ⟨⟩
  refine ⟨rfl, phase, _, hset _ t' rfl, ?_, rfl⟩
  rw [List.append_nil, List.filter_append]
  rfl

/-! ## What the pointing comes to -/

/-- The controller moves the data of a data phase. -/
def movesData (phase : Option (Direction × DataPhase)) : Bool :=
  phase.any fun set => set.2.dma

/-- The controller gets an address just when it moves the data. The address is that of the table of the
bounce pages, or that of the scatter/gather list, which may take two words. -/
structure Addressed (command : Command) (slot : Slot) (dma : Bool) (addresses : List Event) :
    Prop where
  dma_iff : dma = true ↔ command.transferType ≠ .none ∧
    (command.method = .scatterGather ∨ slot.bounceInProgress ≠ none)
  nothing : dma = false → addresses = []
  bounce : dma = true → command.method = .pio → ∃ pages, slot.bounce = some pages ∧
    addresses = [⟨.write .word RegisterMap.admaAddress.offset pages.tableAddress, ()⟩]
  table : dma = true → command.method = .scatterGather → ∃ table, command.table = some table ∧
    addresses = tableEvents slot.capabilities.address64 table.address

namespace Pointed

variable {command : Command} {slot : Slot} {phase : Option (Direction × DataPhase)}
  {addresses : List Event}

theorem addressed (h : Pointed command slot phase addresses) :
    Addressed command slot (movesData phase) addresses := by
  cases h with
  | nothing htype => constructor <;> simp [movesData, htype]
  | window htype hdirection hmethod hprogress =>
    constructor <;> simp [movesData, hmethod, hprogress]
  | bounce htype hdirection hmethod hprogress hpages =>
    constructor <;> simp [movesData, htype, hmethod, hprogress, hpages]
  | table htype hdirection hmethod htable =>
    constructor <;> simp [movesData, htype, hmethod, htable]

theorem isSome_iff (h : Pointed command slot phase addresses) :
    phase.isSome = true ↔ command.transferType ≠ .none := by
  cases h <;> simp_all

theorem describes_mode (h : Pointed command slot phase addresses) :
    TransferMode.Describes (mode command phase) command (movesData phase) := by
  cases h with
  | nothing htype => exact Command.describes_zero htype
  | window htype hdirection | bounce htype hdirection | table htype hdirection =>
    exact Command.describes_transferMode _ htype hdirection

theorem firstEvents_eq (h : Pointed command slot phase addresses) :
    firstEvents command phase = awaited command (movesData phase) := by
  cases h <;> simp_all [firstEvents, awaited, movesData]

end Pointed

end Transfer

/-- What is sent for a command that is accepted. The address of the data comes first, if the controller
moves the data; after it come the registers of the command, of which only the last, the command word,
waits for the others. Nothing is read and nothing is waited for. -/
theorem accepted_command_on_wire {σ : Type} {host : Host σ} {slot slot' : Slot}
    {request request' : Request} {progress : Progress} {state after : σ}
    (htype : request.requestType ≠ .startTransfer) (hindex : request.command.index.toNat < 64)
    (hrun : (slot.issueRequest request).run host state =
      (.ok (.ok progress, slot', request'), after)) :
    progress = .pending ∧ slot'.capabilities = slot.capabilities ∧
      ∃ (dma : Bool) (addresses : List Event) (mode word : HalfWord),
        (∀ event ∈ (slot.issueRequest request).history host state, event.transfers = true) ∧
        ((slot.issueRequest request).history host state).filter Event.isAccess = addresses ++ [
          ⟨.write .word RegisterMap.sdmaAddress.offset 0, ()⟩,
          ⟨.write .half RegisterMap.blockSize.offset request.command.blockSize, ()⟩,
          ⟨.write .half RegisterMap.blockCount.offset request.command.blockCount, ()⟩,
          ⟨.write .word RegisterMap.argument.offset request.command.argument, ()⟩,
          ⟨.write .half TransferMode.register.offset mode, ()⟩,
          ⟨.barrier, ()⟩,
          ⟨.write .half CommandWord.register.offset word, ()⟩] ∧
        Transfer.Addressed request.command slot' dma addresses ∧
        TransferMode.Describes mode request.command dma ∧
        CommandWord.Describes word request.command ∧
        request'.requiredEvents = Transfer.awaited request.command dma := by
  have hsend := Slot.run_step_of_issueRequest hrun
  rw [Transfer.start_step, if_neg htype] at hsend
  obtain ⟨rfl, phase, addresses, hpointed, hfilter, hevents⟩ :=
    (Transfer.ensures_sendCommand_pointed _).of_run hsend _ _ rfl
  have hmaintains : Maintains (fun event => event.transfers = true)
      (fun t => t.slot.capabilities = slot.capabilities) Transfer.sendCommand := by
    refine Transfer.maintains_sendCommand (fun _ h => h) (fun _ _ h => h) ?_ fun _ _ h => h
    exact Transfer.maintains_setUpPio (fun _ h => h) fun _ _ _ h => h
  obtain ⟨hquiet, hkept⟩ := (hmaintains (Transfer.begun { slot, request }) rfl).of_run hsend
  rw [Slot.issueRequest_eq_sendCommand htype, Program.history_bind_done]
  exact ⟨rfl, hkept _ _ rfl, _, addresses, _, _, hquiet, hfilter, hpointed.addressed,
    hpointed.describes_mode, Command.describes_word hindex hpointed.isSome_iff,
    hevents.trans hpointed.firstEvents_eq⟩

namespace TwoBlocks

/-- A slot whose controller takes addresses of two words. -/
def slot : Slot where
  controller := .standard false
  capabilities := { address64 := true }

/-- A write of two blocks out of memory beyond 4 GiB, with its table there too. -/
def request : Request :=
  .new (({ index := 25, argument := 8, responseType := .r1b } : Command).withElements 4 .write
    [⟨0x100000000, 8⟩] ⟨Memory.zeroed 24, 0x100002000⟩)

end TwoBlocks

/-- Both halves of the address of the table go out before the command does. -/
theorem accepted_command_on_wire_two_blocks :
    TwoBlocks.request.requestType ≠ .startTransfer ∧ TwoBlocks.request.command.index.toNat < 64 ∧
      ∃ slot' request' after mode word,
        (TwoBlocks.slot.issueRequest TwoBlocks.request).run RegisterFile.host (fun _ => 0) =
          (.ok (.ok .pending, slot', request'), after) ∧
        ((TwoBlocks.slot.issueRequest TwoBlocks.request).history RegisterFile.host
            fun _ => 0).filter Event.isAccess = [
          ⟨.write .word 0x58 0x2000, ()⟩, ⟨.write .word 0x5C 1, ()⟩, ⟨.write .word 0 0, ()⟩,
          ⟨.write .half 0x04 4, ()⟩, ⟨.write .half 0x06 2, ()⟩, ⟨.write .word 0x08 8, ()⟩,
          ⟨.write .half 0x0C mode, ()⟩, ⟨.barrier, ()⟩, ⟨.write .half 0x0E word, ()⟩] ∧
        TransferMode.Describes mode TwoBlocks.request.command true ∧
        CommandWord.Describes word TwoBlocks.request.command ∧
        request'.requiredEvents = 0x3 := by
  have htype : TwoBlocks.request.requestType ≠ .startTransfer := by decide
  have hindex : TwoBlocks.request.command.index.toNat < 64 := by decide
  have hrun : ∃ slot' request' after,
      (TwoBlocks.slot.issueRequest TwoBlocks.request).run RegisterFile.host (fun _ => 0) =
        (.ok (.ok .pending, slot', request'), after) := ⟨_, _, _, rfl⟩
  obtain ⟨slot', request', after, hrun⟩ := hrun
  obtain ⟨-, hcapabilities, dma, addresses, mode, word, -, hfilter, haddressed, hmode, hword,
    hevents⟩ := accepted_command_on_wire htype hindex hrun
  have hdma : dma = true := haddressed.dma_iff.mpr ⟨by decide, .inl rfl⟩
  obtain ⟨table, htable, haddresses⟩ := haddressed.table hdma rfl
  cases htable
  rw [hcapabilities] at haddresses
  subst haddresses hdma
  exact ⟨htype, hindex, slot', request', after, mode, word, hrun, hfilter, hmode, hword, hevents⟩

end SdHost
