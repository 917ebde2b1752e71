import SdHost.Proofs.Host.Storage
import SdHost.Proofs.Transfer.DataPhase

/-!
# Where the controller looks for its table

Before a command with a scatter/gather list is sent, the controller is pointed at the table that was
built for it. The address of the table has sixty-four bits, and where addresses are one word only its
low half is written.

The module introduces:

* `Register.wordsWritten`: what a run writes to a register;
* `tablePointer`: the address that the words in the two registers of the table make up;
* `Slot.CanFollow`: what it takes for a command with a scatter/gather list to be accepted.

`pointer_of_issueRequest` says when the pointer is the address of the table, and that the address has no
say in whether the command is accepted.
-/

namespace SdHost

/-- The words that are written to a register, in order. -/
def Register.wordsWritten (register : Register .word) (events : List Event) : List Word :=
  events.filterMap fun event =>
    match event.query with
    | .write .word offset value => if offset = register.offset then some value else none
    | _ => none

/-- Only accesses to the registers write to one. -/
theorem Register.wordsWritten_filter_isAccess (register : Register .word) (events : List Event) :
    register.wordsWritten (events.filter Event.isAccess) = register.wordsWritten events := by
  rw [wordsWritten, List.filterMap_filter]
  refine List.filterMap_congr fun event _ => ?_
  obtain ⟨query, reply⟩ := event
  cases query <;> rfl

/-- Where the controller looks for its table: the last words written to the two registers of its
address, where a register that was not written counts as zero. -/
def tablePointer (events : List Event) : DoubleWord :=
  (RegisterMap.admaAddressHigh.wordsWritten events).getLastD 0 ++
    (RegisterMap.admaAddress.wordsWritten events).getLastD 0

/-- The number that two words make up. -/
theorem toNat_words (high low : Word) :
    (high ++ low : DoubleWord).toNat = high.toNat * 0x100000000 + low.toNat := by
  have hlow := low.isLt
  refine (BitVec.toNat_append high low).trans ?_
  rw [Nat.shiftLeft_eq, Nat.mul_comm, ← Nat.two_pow_add_eq_or_of_lt hlow]

/-- An address is made up of its halves. -/
theorem halves_append (address : DoubleWord) :
    ((address >>> 32).setWidth 32 ++ address.setWidth 32 : DoubleWord) = address := by
  have hlt := address.isLt
  rw [← BitVec.toNat_inj, toNat_words, BitVec.toNat_setWidth, BitVec.toNat_ushiftRight,
    Nat.shiftRight_eq_div_pow, BitVec.toNat_setWidth]
  omega

/-- The low half alone is the address if there is nothing in the other. -/
theorem low_half_eq_iff (address : DoubleWord) :
    ((0 : Word) ++ address.setWidth 32 : DoubleWord) = address ↔
      address.toNat < 0x100000000 := by
  have hzero : (0 : Word).toNat = 0 := rfl
  rw [← BitVec.toNat_inj, toNat_words, BitVec.toNat_setWidth, hzero]
  omega

namespace Transfer

/-- The words that point the controller at a table are the only ones written there when a command is
sent. -/
theorem wordsWritten_tableEvents (wide : Bool) (address : DoubleWord) (command : Command)
    (phase : Option (Direction × DataPhase)) :
    let events := tableEvents wide address ++ commandEvents command phase
    RegisterMap.admaAddress.wordsWritten events = [address.setWidth 32] ∧
      RegisterMap.admaAddressHigh.wordsWritten events =
        if wide then [(address >>> 32).setWidth 32] else [] := by
  cases wide <;> exact ⟨rfl, rfl⟩

end Transfer

/-- A list that a table was built for has elements. -/
theorem DescriptorTable.ne_nil_of_build {elements : List Element} {wide : Bool} {memory table : Memory}
    {info : Info}
    (h : build elements wide memory = .ok (.ok info, table)) : elements ≠ [] := by
  rintro rfl
  cases h

/-- The data phase of a command can be moved along a table: its blocks are right, the controller
follows tables, and there is a scatter/gather list that the table has room for. -/
structure Slot.CanFollow (slot : Slot) (command : Command) : Prop where
  /-- The registers can describe the data phase. -/
  phase : ∃ direction, command.checkDataPhase = .ok direction
  /-- The controller follows tables. -/
  supported : slot.controller.supportsScatterGather = true
  /-- The table can be built. -/
  built : ∃ elements table info memory, command.elements = some elements ∧
    command.table = some table ∧
    DescriptorTable.build elements slot.capabilities.address64 table.memory =
      .ok (.ok info, memory)

/-- Only the controller and the capabilities of the slot matter. -/
theorem Slot.CanFollow.congr {slot slot' : Slot} {command : Command} (h : slot.CanFollow command)
    (hcontroller : slot'.controller = slot.controller)
    (hcapabilities : slot'.capabilities = slot.capabilities) : slot'.CanFollow command where
  phase := h.phase
  supported := hcontroller ▸ h.supported
  built := hcapabilities ▸ h.built

/-- The table can be built for the list and the memory of the command. -/
theorem Slot.CanFollow.exists_build {slot : Slot} {command : Command} {elements : List Element}
    {table : TableMemory} (h : slot.CanFollow command) (helements : command.elements = some elements)
    (htable : command.table = some table) :
    ∃ info memory, DescriptorTable.build elements slot.capabilities.address64 table.memory =
      .ok (.ok info, memory) := by
  obtain ⟨_, _, info, memory, helements', htable', hbuild⟩ := h.built
  cases helements.symm.trans helements'
  cases htable.symm.trans htable'
  exact ⟨info, memory, hbuild⟩

namespace Transfer

variable {Allowed : Event → Prop}

/-- The controller is pointed at a table if it can follow one, whatever the address of the table is. -/
theorem ensures_setUpScatterGather_accepted {command : Command} {direction : Direction}
    (hcheck : command.checkDataPhase = .ok direction) (t : Transfer) :
    ((setUpScatterGather command).start t).Ensures Allowed fun _ outcome =>
      (∃ phase t', outcome = .ok (.ok phase, t')) ↔ t.slot.CanFollow command := by
  simp only [setUpScatterGather, Task.start_bind, Task.start_get, Program.done_bind]
  -- each check that fails is a part of `CanFollow` that does not hold
  split
  next hnone =>
    refine iff_of_false (by simp) fun h => ?_
    simp [h.supported] at hnone
  next hsupported =>
  cases hfilter : command.elements.filter fun elements => !elements.isEmpty with
  | none =>
    refine iff_of_false (by simp) fun h => ?_
    obtain ⟨elements, table, info, memory, helements, -, hbuild⟩ := h.built
    have hne := DescriptorTable.ne_nil_of_build hbuild
    simp [helements, hne] at hfilter
  | some elements =>
  obtain ⟨helements, -⟩ := Option.filter_eq_some_iff.mp hfilter
  cases htable : command.table with
  | none =>
    refine iff_of_false (by simp) fun h => ?_
    obtain ⟨-, table, -, -, -, htable', -⟩ := h.built
    simp [htable] at htable'
  | some table =>
  simp only [Task.start_bind, start_require_some, Program.done_bind]
  cases hbuild : DescriptorTable.build elements t.slot.capabilities.address64 table.memory with
  | error cause =>
    refine iff_of_false (by simp) fun h => ?_
    obtain ⟨_, _, hbuilt⟩ := h.exists_build helements htable
    simp [hbuild] at hbuilt
  | ok built =>
  obtain ⟨cause | info, memory⟩ := built
  · refine iff_of_false (by rintro ⟨_, _, ⟨⟩⟩) fun h => ?_
    obtain ⟨_, _, hbuilt⟩ := h.exists_build helements htable
    simp [hbuild] at hbuilt
  have hfollow : t.slot.CanFollow command :=
    ⟨⟨direction, hcheck⟩, by simpa using hsupported, elements, table, info, memory, helements,
      htable, hbuild⟩
  -- what is left are the writes of the address, in one part or in two
  cases hwide : t.slot.capabilities.address64 with
  | false =>
    intro _ _
    exact iff_of_true ⟨_, _, rfl⟩ hfollow
  | true =>
    intro _ _ _ _
    exact iff_of_true ⟨_, _, rfl⟩ hfollow

/-- A command with a scatter/gather list is sent exactly if a table can be followed for it. -/
theorem ensures_sendCommand_accepted {t : Transfer}
    (hmethod : t.request.command.method = .scatterGather)
    (hdata : t.request.command.transferType ≠ .none) :
    (sendCommand.start t).Ensures Allowed fun _ outcome =>
      (∃ progress t', outcome = .ok (.ok progress, t')) ↔ t.slot.CanFollow t.request.command := by
  refine ensures_sendCommand_of_setUp ?_
  cases hcheck : t.request.command.checkDataPhase with
  | error cause =>
    rw [start_setUpDataPhase_refused hdata hcheck, Program.ensures_done]
    refine iff_of_false (by rintro ⟨_, _, ⟨⟩⟩) fun h => ?_
    obtain ⟨direction, hphase⟩ := h.phase
    simp [hcheck] at hphase
  | ok direction =>
    rw [start_setUpDataPhase_scatterGather hdata hmethod hcheck, Program.ensures_bind]
    have hfresh : t.fresh.slot.CanFollow t.request.command ↔ t.slot.CanFollow t.request.command :=
      ⟨fun h => h.congr rfl rfl, fun h => h.congr rfl rfl⟩
    refine (ensures_setUpScatterGather_accepted hcheck t.fresh).mono ?_
    rintro events (cause | ⟨cause | phase, t'⟩) hfollow
    · exact iff_of_false (by simp) (hfresh.not.mp (hfollow.not.mp (by simp)))
    · exact iff_of_false (by rintro ⟨_, _, ⟨⟩⟩)
        (hfresh.not.mp (hfollow.not.mp (by rintro ⟨_, _, ⟨⟩⟩)))
    · exact iff_of_true ⟨_, _, rfl⟩ (hfresh.mp (hfollow.mp ⟨_, _, rfl⟩))

end Transfer

namespace Slot

variable {σ : Type} {host : Host σ} {slot slot' : Slot} {request request' : Request}
  {progress : Progress} {state after : σ}

/-- A command with a scatter/gather list is accepted exactly if a table can be followed for it,
whatever the surroundings answer. -/
theorem accepted_iff_canFollow (hmethod : request.command.method = .scatterGather)
    (htype : request.requestType ≠ .startTransfer) (hdata : request.command.transferType ≠ .none) :
    (∃ progress slot' request' after,
      (slot.issueRequest request).run host state = (.ok (.ok progress, slot', request'), after)) ↔
      slot.CanFollow request.command := by
  have hsend : (Transfer.sendCommand.start (Transfer.begun { slot, request })).Ensures
      (fun _ => True) fun _ outcome =>
        (∃ progress t', outcome = .ok (.ok progress, t')) ↔ slot.CanFollow request.command :=
    Transfer.ensures_sendCommand_accepted hmethod hdata
  rw [issueRequest_eq_sendCommand htype, Program.run_bind]
  rcases hrun : (Transfer.sendCommand.start (Transfer.begun { slot, request })).run host state with
    ⟨cause | ⟨result, t'⟩, after⟩
  · rw [← hsend.of_run hrun]
    simp
  · rw [← hsend.of_run hrun]
    simp

end Slot

/-- The same request with its table at another address. -/
def Request.tableAt (address : DoubleWord) (request : Request) : Request :=
  { request with
    command.table := request.command.table.map fun table => { table with address } }

/-- Whether a table can be followed does not depend on where it is. -/
theorem Slot.CanFollow.tableAt {slot : Slot} {request : Request}
    (h : slot.CanFollow request.command) (address : DoubleWord) :
    slot.CanFollow (request.tableAt address).command := by
  obtain ⟨elements, table, info, memory, helements, htable, hbuild⟩ := h.built
  refine ⟨h.phase, h.supported, elements, { table with address }, info, memory, helements, ?_, hbuild⟩
  rw [Request.tableAt, htable]
  rfl

/-- **Where the controller looks for its table.** Take a command with a scatter/gather list that is
accepted, on a slot in any state. Of the address of its table, the low half is written to one register,
and the high half to the other if addresses are wide and else not at all. So the controller looks for
the table where it is exactly if addresses are wide or the table lies below 4 GiB.

The address has no say in whether the command is accepted: the same command is accepted with its table
at any other address. -/
theorem pointer_of_issueRequest {σ : Type} {host : Host σ} {slot slot' : Slot}
    {request request' : Request} {progress : Progress} {state after : σ}
    (hmethod : request.command.method = .scatterGather)
    (htype : request.requestType ≠ .startTransfer) (hdata : request.command.transferType ≠ .none)
    (hrun : (slot.issueRequest request).run host state =
      (.ok (.ok progress, slot', request'), after)) :
    (∃ (table : TableMemory) (memory : Memory),
      request.command.table = some table ∧
      request'.command.table = some { table with memory } ∧
      let history := (slot.issueRequest request).history host state
      RegisterMap.admaAddress.wordsWritten history = [table.address.setWidth 32] ∧
      RegisterMap.admaAddressHigh.wordsWritten history =
        (if slot.capabilities.address64 then [(table.address >>> 32).setWidth 32] else []) ∧
      (tablePointer history = table.address ↔
        slot.capabilities.address64 = true ∨ table.address.toNat < 0x100000000)) ∧
    ∀ address : DoubleWord, ∃ progress slot' request' after,
      (slot.issueRequest (request.tableAt address)).run host state =
        (.ok (.ok progress, slot', request'), after) := by
  have hfollow : slot.CanFollow request.command :=
    (Slot.accepted_iff_canFollow hmethod htype hdata).mp ⟨_, _, _, _, hrun⟩
  refine ⟨?_, fun address => ?_⟩
  · have hpio : request.command.method = .pio → slot.PagesCover := by
      rw [hmethod]
      rintro ⟨⟩
    obtain ⟨-, hslot, direction, phase, accesses, -, hset, hfilter⟩ :=
      Slot.sent_of_issueRequest hpio htype hdata hrun
    have hsame : slot'.capabilities = slot.capabilities := by rw [hslot]
    -- a command with a list has one way to set its data phase up
    cases hset with
    | pio hother => exact absurd (hother.symm.trans hmethod) (by decide)
    | @scatterGather elements table info memory _ helements htable hbuild hcommand =>
    obtain ⟨hlow, hhigh⟩ := Transfer.wordsWritten_tableEvents slot'.capabilities.address64
      table.address request.command (some (direction, _))
    rw [← hfilter, Register.wordsWritten_filter_isAccess] at hlow hhigh
    -- the width is that of the slot before, as sending changes its bounce pages only
    rw [hsame] at hhigh
    refine ⟨table, memory, htable, by rw [hcommand], hlow, hhigh, ?_⟩
    rw [tablePointer, hlow, hhigh]
    cases slot.capabilities.address64 with
    | true => exact iff_of_true (halves_append _) (.inl rfl)
    | false => simpa using low_half_eq_iff table.address
  · have hmethod' : (request.tableAt address).command.method = .scatterGather := hmethod
    exact (Slot.accepted_iff_canFollow hmethod' htype hdata).mpr (hfollow.tableAt address)

namespace TableAbove

/-- A slot of a controller with wide addresses, or with addresses of one word. -/
def slot (wide : Bool) : Slot where
  controller := .standard false
  capabilities := { address64 := wide }

/-- A read of one block, with the memory for its table beyond 4 GiB. -/
def request : Request :=
  .new (({ index := 17, argument := 0, responseType := .r1 } : Command).withElements 512 .read
    [⟨0x10000, 512⟩] ⟨Memory.zeroed 12, 0x100002000⟩)

end TableAbove

/-- With wide addresses, the controller looks for the table beyond 4 GiB, where it is. -/
theorem pointer_of_issueRequest_wide :
    ∃ slot' request' after,
      ((TableAbove.slot true).issueRequest TableAbove.request).run RegisterFile.host (fun _ => 0) =
        (.ok (.ok .pending, slot', request'), after) ∧
      tablePointer (((TableAbove.slot true).issueRequest TableAbove.request).history
        RegisterFile.host fun _ => 0) = 0x100002000 := by
  obtain ⟨slot', request', after, hrun⟩ : ∃ slot' request' after,
      ((TableAbove.slot true).issueRequest TableAbove.request).run RegisterFile.host (fun _ => 0) =
        (.ok (.ok .pending, slot', request'), after) := ⟨_, _, _, rfl⟩
  obtain ⟨⟨table, memory, htable, -, -, -, hpointer⟩, -⟩ :=
    pointer_of_issueRequest rfl (by decide) (by decide) hrun
  cases htable
  exact ⟨slot', request', after, hrun, hpointer.mpr (.inl rfl)⟩

/-- With addresses of one word, the same command is accepted, and the controller looks for the table
4 GiB below where it is. -/
theorem pointed_below_table :
    ∃ slot' request' after,
      ((TableAbove.slot false).issueRequest TableAbove.request).run RegisterFile.host (fun _ => 0) =
        (.ok (.ok .pending, slot', request'), after) ∧
      TableAbove.request.command.table.map TableMemory.address = some 0x100002000 ∧
      tablePointer (((TableAbove.slot false).issueRequest TableAbove.request).history
        RegisterFile.host fun _ => 0) = 0x2000 :=
  ⟨_, _, _, rfl, rfl, rfl⟩

end SdHost
