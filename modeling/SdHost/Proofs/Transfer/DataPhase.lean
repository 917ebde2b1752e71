import SdHost.Proofs.Dma.Table
import SdHost.Proofs.Transfer.Bounce

/-!
# How data phases are set up

A command is sent with its data phase set up in one of three ways: for the data window, for the bounce
pages, or for the table of a scatter/gather list. A command that is refused leaves the registers alone.

The module introduces:

* `Command.TableWritten`: what was provided for the table of a scatter/gather list, once it was written;
* `Transfer.tableEvents`: the accesses that point the controller at the table of a scatter/gather list;
* `Transfer.SetUp`: how the data phase of a command can come to be set up.

Main statements:

* `Transfer.ensures_sendCommand`: the accesses that a command is sent with;
* `Slot.sent_of_issueRequest`: what is known of a command with a data phase that was accepted.
-/

namespace SdHost

/-- What was provided for the table of a scatter/gather list, once its memory was written. -/
def Command.TableWritten (command : Command) (table? : Option TableMemory) : Prop :=
  ∃ (table : TableMemory) (memory : Memory), command.table = some table ∧
    memory.size = table.memory.size ∧ table? = some { table with memory }

namespace Transfer

variable {Allowed : Event → Prop}

/-! ## Setting up a scatter/gather list -/

/-- The accesses that point the controller at the table of a scatter/gather list. The upper half of the
address has a register only where addresses are wide. -/
def tableEvents (wide : Bool) (address : DoubleWord) : List Event :=
  ⟨.write .word RegisterMap.admaAddress.offset (address.setWidth 32), ()⟩ ::
    if wide then
      [⟨.write .word RegisterMap.admaAddressHigh.offset ((address >>> 32).setWidth 32), ()⟩]
    else []

theorem filter_isAccess_tableEvents (wide : Bool) (address : DoubleWord) :
    (tableEvents wide address).filter Event.isAccess = tableEvents wide address := by
  cases wide <;> rfl

/-- The table is built before the controller is pointed at it. If it cannot be built, the registers are
left alone, and the memory for the table is all that may have been written. -/
theorem ensures_setUpScatterGather (command : Command) (t : Transfer) :
    ((setUpScatterGather command).start t).Ensures Allowed fun events outcome =>
      match outcome with
      | .ok (.ok phase, t') => phase = { dma := true, events := transferComplete } ∧
          ∃ elements table info memory, command.elements = some elements ∧
            command.table = some table ∧
            DescriptorTable.build elements t.slot.capabilities.address64 table.memory =
              .ok (.ok info, memory) ∧
            t' = { t with request.command.table := some { table with memory } } ∧
            events = tableEvents t.slot.capabilities.address64 table.address
      | .ok (.error _, t') => events = [] ∧ ∃ table, t' = { t with request.command.table := table } ∧
          (table = t.request.command.table ∨ command.TableWritten table)
      | .error _ => events = [] := by
  simp only [setUpScatterGather, Task.start_bind, Task.start_get, Program.done_bind]
  split
  · exact ⟨rfl, _, rfl, .inl rfl⟩
  cases hfilter : command.elements.filter fun elements => !elements.isEmpty with
  | none => exact ⟨rfl, _, rfl, .inl rfl⟩
  | some elements =>
  cases htable : command.table with
  | none => exact ⟨rfl, _, rfl, .inl rfl⟩
  | some table =>
  obtain ⟨helements, -⟩ := Option.filter_eq_some_iff.mp hfilter
  simp only [Task.start_bind, start_require_some, Program.done_bind]
  cases hbuild : DescriptorTable.build elements t.slot.capabilities.address64 table.memory with
  | error cause => rfl
  | ok built =>
  obtain ⟨cause | info, memory⟩ := built
  · exact ⟨rfl, _, rfl, .inr ⟨table, memory, htable, DescriptorTable.size_build hbuild, rfl⟩⟩
  -- the table was built, and the address goes to the registers in one part or in two
  cases hwide : t.slot.capabilities.address64 with
  | false =>
    intro _ _
    exact ⟨rfl, elements, table, info, memory, helements, rfl, hwide ▸ hbuild, rfl, rfl⟩
  | true =>
    intro _ _ _ _
    exact ⟨rfl, elements, table, info, memory, helements, rfl, hwide ▸ hbuild, rfl, rfl⟩

/-! ## Checking a data phase -/

/-- A data phase is refused, or it is as many whole blocks as the block count says. -/
theorem checkBlocks_cases (command : Command) :
    command.checkBlocks = .error .notSupported ∨ command.checkBlocks = .ok () ∧
      command.blockSize.toNat * command.blockCount.toNat = command.length := by
  rw [Command.checkBlocks]
  split
  · exact .inl rfl
  next hwhole =>
  dsimp only
  split
  next hcount =>
    refine .inr ⟨rfl, ?_⟩
    rw [← hcount.2, Nat.mul_div_cancel']
    exact Nat.dvd_of_mod_eq_zero (not_not.mp (not_or.mp hwhole).2)
  next => exact .inl rfl

/-- A data phase is refused, or it is as many whole blocks as the block count says, and it is known
which way it flows. -/
theorem checkDataPhase_cases (command : Command) :
    command.checkDataPhase = .error .notSupported ∨ ∃ direction,
      command.checkDataPhase = .ok direction ∧ command.direction = some direction ∧
      command.blockSize.toNat * command.blockCount.toNat = command.length := by
  rw [Command.checkDataPhase]
  split
  · exact .inl rfl
  rcases checkBlocks_cases command with hblocks | ⟨hblocks, hlength⟩
  · rw [hblocks]
    exact .inl rfl
  rw [hblocks]
  cases hdirection : command.direction with
  | none => exact .inl rfl
  | some direction => exact .inr ⟨direction, rfl, rfl, hlength⟩

/-- What is known of a data phase that was not refused. -/
theorem of_checkDataPhase {command : Command} {direction : Direction}
    (h : command.checkDataPhase = .ok direction) :
    command.direction = some direction ∧
      command.blockSize.toNat * command.blockCount.toNat = command.length := by
  rcases checkDataPhase_cases command with hrefused | ⟨other, hother, hknown⟩
  · rw [hrefused] at h
    cases h
  · rw [hother] at h
    cases h
    exact hknown

/-! ## Sending a command -/

/-- The ways in which the data phase of a command can be set up, each with the accesses to the
registers that it takes, and with what is left of the slot and the request. -/
inductive SetUp (command : Command) (direction : Direction) (t : Transfer) :
    DataPhase → List Event → Prop
  /-- The processor moves the data, or it goes through bounce pages. -/
  | pio {phase : DataPhase} {accesses : List Event} (hmethod : command.method = .pio)
      (hcommand : t.request.command = command) (hroom : command.length ≤ command.data.size)
      (hphase : PioPhase command direction t.slot phase accesses) :
      SetUp command direction t phase accesses
  /-- The controller moves the data, following the table of the scatter/gather list. -/
  | scatterGather {elements : List Element} {table : TableMemory} {info : DescriptorTable.Info}
      {memory : Memory} (hmethod : command.method = .scatterGather)
      (helements : command.elements = some elements) (htable : command.table = some table)
      (hbuild : DescriptorTable.build elements t.slot.capabilities.address64 table.memory =
        .ok (.ok info, memory))
      (hcommand : t.request.command = { command with table := some { table with memory } }) :
      SetUp command direction t { dma := true, events := transferComplete }
        (tableEvents t.slot.capabilities.address64 table.address)

/-- Only the slot and the command matter. -/
theorem SetUp.congr {command : Command} {direction : Direction} {t t' : Transfer}
    {phase : DataPhase} {accesses : List Event} (h : SetUp command direction t phase accesses)
    (hslot : t'.slot = t.slot) (hrequest : t'.request.command = t.request.command) :
    SetUp command direction t' phase accesses := by
  obtain ⟨slot, request⟩ := t
  obtain ⟨slot', request'⟩ := t'
  cases hslot
  cases h with
  | pio hmethod hcommand hroom hphase =>
    exact .pio hmethod (hrequest.trans hcommand) hroom hphase
  | scatterGather hmethod helements htable hbuild hcommand =>
    exact .scatterGather hmethod helements htable hbuild (hrequest.trans hcommand)

/-- A data phase that passes the check is set up in one of these ways, or else nothing is done to the
registers. -/
theorem ensures_setUpDataPhase {t : Transfer} {direction : Direction}
    (h : t.request.command.method = .pio → t.slot.PagesCover)
    (htype : t.request.command.transferType ≠ .none)
    (hcheck : t.request.command.checkDataPhase = .ok direction) :
    ((setUpDataPhase t.request.command).start t).Ensures Allowed fun events outcome =>
      match outcome with
      | .ok (.ok phase, t') => t.slot.SameButPages t'.slot ∧ ∃ set,
          phase = some (direction, set) ∧
          SetUp t.request.command direction t' set (events.filter Event.isAccess)
      | .ok (.error _, _) => events.filter Event.isAccess = []
      | .error _ => events.filter Event.isAccess = [] := by
  cases hmethod : t.request.command.method with
  | pio =>
    rw [start_setUpDataPhase_pio htype hmethod hcheck, Program.ensures_bind]
    refine (ensures_setUpPio (h hmethod) t.request.command direction).mono ?_
    rintro events (cause | ⟨cause | phase, t'⟩) hset
    · exact hset
    · simp only [Program.ensures_done, Except.map, List.append_nil]
      exact hset.2
    · obtain ⟨hrepaged, hrequest, hroom, hphase⟩ := hset
      simp only [Program.ensures_done, Except.map, List.append_nil]
      exact ⟨hrepaged.slot_eq, phase, rfl, .pio hmethod (by rw [hrequest]) hroom hphase⟩
  | scatterGather =>
    rw [start_setUpDataPhase_scatterGather htype hmethod hcheck, Program.ensures_bind]
    refine (ensures_setUpScatterGather t.request.command t).mono ?_
    rintro events (cause | ⟨cause | phase, t'⟩) hset
    · rw [hset]
      rfl
    · simp only [Program.ensures_done, Except.map, List.append_nil]
      rw [hset.1]
      rfl
    · obtain ⟨rfl, elements, table, info, memory, helements, htable, hbuild, rfl, rfl⟩ := hset
      simp only [Program.ensures_done, Except.map, List.append_nil, filter_isAccess_tableEvents]
      exact ⟨rfl, _, rfl, .scatterGather hmethod helements htable hbuild rfl⟩

/-- A command is sent with the accesses that set up its data phase, and after them those that send it.
A command that is refused leaves the registers alone. -/
theorem ensures_sendCommand {t : Transfer}
    (h : t.request.command.method = .pio → t.slot.PagesCover) :
    (sendCommand.start t).Ensures Allowed fun events outcome =>
      match outcome with
      | .ok (.ok progress, t') => progress = .pending ∧ t.slot.SameButPages t'.slot ∧
          (t.request.command.transferType = .none ∧ t'.request.command = t.request.command ∧
              events.filter Event.isAccess = commandEvents t.request.command none ∨
            t.request.command.transferType ≠ .none ∧ ∃ direction phase accesses,
              t.request.command.checkDataPhase = .ok direction ∧
              SetUp t.request.command direction t' phase accesses ∧
              events.filter Event.isAccess =
                accesses ++ commandEvents t.request.command (some (direction, phase)))
      | _ => events.filter Event.isAccess = [] := by
  have hfresh : t.slot.SameButPages t.fresh.slot := rfl
  rw [start_sendCommand, Program.ensures_bind]
  by_cases htype : t.request.command.transferType = .none
  · -- nothing is set up, and the accesses are those of the command alone
    rw [start_setUpDataPhase_none htype, Program.ensures_done]
    simp only [Program.ensures_bind]
    refine (ensures_writeCommand Allowed t.request.command none).mono ?_
    rintro events _ ⟨rfl, rfl⟩
    exact ⟨rfl, hfresh, .inl ⟨htype, rfl, rfl⟩⟩
  cases hcheck : t.request.command.checkDataPhase with
  | error cause =>
    rw [start_setUpDataPhase_refused htype hcheck, Program.ensures_done]
    rfl
  | ok direction =>
    refine (ensures_setUpDataPhase (t := t.fresh) h htype hcheck).mono ?_
    rintro events (cause | ⟨cause | phase, t'⟩) hset
    · exact hset
    · simp only [Program.ensures_done, List.append_nil]
      exact hset
    obtain ⟨hslot, set, rfl, hsetUp⟩ := hset
    simp only [Program.ensures_bind]
    refine (ensures_writeCommand Allowed t.request.command (some (direction, set))).mono ?_
    rintro later _ ⟨rfl, rfl⟩
    -- the mask of events that is noted then has nothing to do with the data phase
    refine ⟨rfl, hfresh.trans hslot, .inr ⟨htype, direction, set, _, rfl,
      hsetUp.congr rfl rfl, ?_⟩⟩
    simp only [List.append_nil, List.filter_append]
    rfl

end Transfer

namespace Slot

variable {σ : Type} {host : Host σ} {slot slot' : Slot} {request request' : Request}
  {progress : Progress} {state after : σ}

/-- The first step of a request sends its command. -/
theorem issueRequest_eq_sendCommand (htype : request.requestType ≠ .startTransfer) :
    slot.issueRequest request =
      Transfer.sendCommand.start (Transfer.begun { slot, request }) >>= fun outcome =>
        .done (outcome.1, outcome.2.slot, outcome.2.request) := by
  rw [issueRequest_eq, Transfer.start_step, if_neg htype]

/-- A command with a data phase that was accepted was checked, and its data phase was set up before it
was sent. -/
theorem sent_of_issueRequest (h : request.command.method = .pio → slot.PagesCover)
    (htype : request.requestType ≠ .startTransfer) (hdata : request.command.transferType ≠ .none)
    (hrun : (slot.issueRequest request).run host state =
      (.ok (.ok progress, slot', request'), after)) :
    progress = .pending ∧ slot.SameButPages slot' ∧ ∃ direction phase accesses,
      request.command.checkDataPhase = .ok direction ∧
      Transfer.SetUp request.command direction { slot := slot', request := request' } phase
        accesses ∧
      ((slot.issueRequest request).history host state).filter Event.isAccess =
        accesses ++ Transfer.commandEvents request.command (some (direction, phase)) := by
  have hsend := run_step_of_issueRequest hrun
  rw [Transfer.start_step, if_neg htype] at hsend
  obtain ⟨hprogress, hslot,
      ⟨hnone, -⟩ | ⟨-, direction, phase, accesses, hcheck, hset, hfilter⟩⟩ :=
    (Transfer.ensures_sendCommand (t := Transfer.begun { slot, request }) h).of_run hsend
  · exact absurd hnone hdata
  · rw [issueRequest_eq_sendCommand htype, Program.history_bind_done]
    exact ⟨hprogress, hslot, direction, phase, accesses, hcheck, hset, hfilter⟩

end Slot

end SdHost
