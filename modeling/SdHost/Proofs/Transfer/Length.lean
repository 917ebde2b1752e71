import SdHost.Proofs.Host.Storage
import SdHost.Proofs.Slot.InUse
import SdHost.Proofs.Transfer.DataPhase

/-!
# How much a data phase moves

A command carries the length of its data phase three times: as a number, as blocks of some size, and
with the memory that the data is in. The blocks are checked against the number, and so is a buffer. A
scatter/gather list is not.

`data_phase_length` says what this comes to for a command that is accepted, and what is refused.
-/

namespace SdHost

open DmaEngine (entries total)
open DescriptorTable (entrySize)
open Transfer (commandEvents tableEvents)

namespace Transfer

variable {command : Command} {direction : Direction} {t : Transfer} {phase : DataPhase}
  {accesses : List Event}

/-- Setting up a data phase writes whole words only. -/
theorem SetUp.not_mem_half (h : SetUp command direction t phase accesses) (offset : Nat)
    (value : HalfWord) : (⟨.write .half offset value, ()⟩ : Event) ∉ accesses := by
  cases h with
  | pio _ _ _ hphase =>
    cases hphase with
    | window => exact List.not_mem_nil
    | bounce =>
      rw [List.mem_singleton]
      rintro ⟨⟩
  | scatterGather =>
    -- one word of the address, or two
    intro hmem
    rcases List.mem_cons.mp hmem with hevent | hevent
    · cases hevent
    · split at hevent
      · cases List.mem_singleton.mp hevent
      · cases hevent

/-- The block size and the block count that are written are those of the command. -/
theorem SetUp.blocks_eq (h : SetUp command direction t phase accesses) {size count : HalfWord}
    (hsize : (⟨.write .half RegisterMap.blockSize.offset size, ()⟩ : Event) ∈
      accesses ++ commandEvents command (some (direction, phase)))
    (hcount : (⟨.write .half RegisterMap.blockCount.offset count, ()⟩ : Event) ∈
      accesses ++ commandEvents command (some (direction, phase))) :
    size = command.blockSize ∧ count = command.blockCount := by
  have hsize' := (List.mem_append.mp hsize).resolve_left (h.not_mem_half _ _)
  have hcount' := (List.mem_append.mp hcount).resolve_left (h.not_mem_half _ _)
  simp only [commandEvents, List.mem_cons, List.not_mem_nil, or_false] at hsize' hcount'
  refine ⟨?_, ?_⟩
  · rcases hsize' with h | h | h | h | h | h | h <;> cases h
    rfl
  · rcases hcount' with h | h | h | h | h | h | h <;> cases h
    rfl

/-- The path that was set up for the data leads to as many bytes as the data phase has, unless it is a
scatter/gather list. -/
theorem SetUp.room_of_pio (h : SetUp command direction t phase accesses)
    (hmethod : command.method = .pio) :
    command.length ≤ command.data.size ∧
      (phase.dma = true → ∃ pages, t.slot.bounce = some pages ∧
        accesses = [⟨.write .word RegisterMap.admaAddress.offset pages.tableAddress, ()⟩] ∧
        total (entries Descriptor.size32 pages.buffer.descriptors.size
          (pages.buffer.descriptors.toList.flatMap Descriptor.toBytes)) = some command.length) := by
  cases h with
  | scatterGather hother => exact absurd (hother.symm.trans hmethod) (by decide)
  | pio _ _ hroom hphase =>
    refine ⟨hroom, fun hdma => ?_⟩
    cases hphase with
    | window => cases hdma
    | bounce hpages _ hready _ => exact ⟨_, hpages, rfl, hready.covers.total⟩

/-- A scatter/gather list leads to as many bytes as its elements have. -/
theorem SetUp.total_of_scatterGather (h : SetUp command direction t phase accesses)
    (hmethod : command.method = .scatterGather) :
    ∃ (elements : List Element) (table : TableMemory) (info : DescriptorTable.Info)
        (memory : Memory), command.elements = some elements ∧ command.table = some table ∧
      t.request.command.table = some { table with memory } ∧
      accesses = tableEvents t.slot.capabilities.address64 table.address ∧
      total (entries (entrySize t.slot.capabilities.address64) info.descriptors memory.toList) =
        some (Element.total elements) := by
  cases h with
  | pio hother => exact absurd (hother.symm.trans hmethod) (by decide)
  | @scatterGather elements table info memory _ helements htable hbuild hcommand =>
    refine ⟨elements, table, info, memory, helements, htable, ?_, rfl,
      (DescriptorTable.total_build hbuild).1⟩
    rw [hcommand]

end Transfer

namespace Slot

variable {σ : Type} {host : Host σ} {slot : Slot} {request : Request} {cause : Error}

/-- A command whose data phase cannot be set up is refused, before anything is asked of the
surroundings. -/
theorem issueRequest_of_refused (htype : request.requestType ≠ .startTransfer)
    (hrefused : ∀ t, (Transfer.setUpDataPhase request.command).start t =
      .done (.error cause, t)) :
    ∃ slot' request', slot.issueRequest request = .done (.error cause, slot', request') := by
  rw [issueRequest_eq_sendCommand htype, Transfer.start_sendCommand]
  show ∃ slot' request', (Transfer.setUpDataPhase request.command).start _ >>= _ >>= _ = _
  rw [hrefused]
  exact ⟨_, _, rfl⟩

/-- A data phase that is not as long as its blocks, or longer than its buffer, is refused. -/
theorem issueRequest_of_mismatch (slot : Slot) (htype : request.requestType ≠ .startTransfer)
    (hdata : request.command.transferType ≠ .none)
    (hmismatch : request.command.blockSize.toNat * request.command.blockCount.toNat ≠
        request.command.length ∨
      request.command.method = .pio ∧ request.command.data.size < request.command.length) :
    ∃ slot' request', slot.issueRequest request = .done (.error .notSupported, slot', request') := by
  refine issueRequest_of_refused htype fun t => ?_
  rcases Transfer.checkDataPhase_cases request.command with
    hrefused | ⟨direction, hcheck, -, hblocks⟩
  · exact Transfer.start_setUpDataPhase_refused hdata hrefused t
  · -- the blocks are right, so it is the buffer that is too short
    obtain ⟨hmethod, hshort⟩ := hmismatch.resolve_left (not_not.mpr hblocks)
    rw [Transfer.start_setUpDataPhase_pio hdata hmethod hcheck, Transfer.start_setUpPio_of_lt hshort]
    rfl

end Slot

/-- **How much a data phase moves.** Take a command with a data phase, whatever its fields, for a slot of
any controller, whatever was done with it before. If the command is accepted, the block size and the
block count that are written make up its length. If the processor moves the data, the buffer is that
long, and if the data goes through bounce pages the controller is pointed at a table for exactly that
many bytes. If the controller follows a scatter/gather list, it is pointed at a table for as many bytes
as the elements of the list have, which nothing compares with the length.

A command whose blocks do not make up its length, or whose buffer is too short for it, is refused, and
nothing is asked of the surroundings. -/
theorem data_phase_length {σ : Type} {host : Host σ} {slot : Slot} {request : Request}
    (hslot : slot.InUse host) (htype : request.requestType ≠ .startTransfer)
    (hdata : request.command.transferType ≠ .none) (state : σ) :
    (∀ (progress : Progress) (slot' : Slot) (request' : Request) (after : σ),
      (slot.issueRequest request).run host state =
        (.ok (.ok progress, slot', request'), after) →
      ∃ direction phase accesses,
        ((slot.issueRequest request).history host state).filter Event.isAccess =
          accesses ++ commandEvents request.command (some (direction, phase)) ∧
        (∀ size count : HalfWord,
          (⟨.write .half RegisterMap.blockSize.offset size, ()⟩ : Event) ∈
            (slot.issueRequest request).history host state →
          (⟨.write .half RegisterMap.blockCount.offset count, ()⟩ : Event) ∈
            (slot.issueRequest request).history host state →
          size.toNat * count.toNat = request.command.length) ∧
        (request.command.method = .pio →
          request.command.length ≤ request.command.data.size ∧
          (phase.dma = true → ∃ pages, slot'.bounce = some pages ∧
            accesses = [⟨.write .word RegisterMap.admaAddress.offset pages.tableAddress, ()⟩] ∧
            total (entries Descriptor.size32 pages.buffer.descriptors.size
              (pages.buffer.descriptors.toList.flatMap Descriptor.toBytes)) =
                some request.command.length)) ∧
        (request.command.method = .scatterGather →
          ∃ (elements : List Element) (table : TableMemory) (info : DescriptorTable.Info)
              (memory : Memory), request.command.elements = some elements ∧
            request.command.table = some table ∧
            request'.command.table = some { table with memory } ∧
            accesses = tableEvents slot'.capabilities.address64 table.address ∧
            total (entries (entrySize slot'.capabilities.address64) info.descriptors
              memory.toList) = some (Element.total elements))) ∧
    (request.command.blockSize.toNat * request.command.blockCount.toNat ≠ request.command.length ∨
        request.command.method = .pio ∧ request.command.data.size < request.command.length →
      ∃ slot' request', (slot.issueRequest request).run host state =
          (.ok (.error .notSupported, slot', request'), state) ∧
        (slot.issueRequest request).history host state = []) := by
  refine ⟨fun progress slot' request' after hrun => ?_, fun hmismatch => ?_⟩
  · obtain ⟨-, -, direction, phase, accesses, hcheck, hset, hfilter⟩ :=
      Slot.sent_of_issueRequest (fun _ => Slot.pagesCover_of_inUse hslot) htype hdata hrun
    refine ⟨direction, phase, accesses, hfilter, ?_, hset.room_of_pio,
      hset.total_of_scatterGather⟩
    · intro size count hsize hcount
      -- only the accesses that send the command write these registers
      have hmem : ∀ {offset : Nat} {value : HalfWord},
          (⟨.write .half offset value, ()⟩ : Event) ∈
            (slot.issueRequest request).history host state →
          (⟨.write .half offset value, ()⟩ : Event) ∈
            accesses ++ commandEvents request.command (some (direction, phase)) := by
        intro offset value hevent
        rw [← hfilter]
        exact List.mem_filter.mpr ⟨hevent, rfl⟩
      obtain ⟨rfl, rfl⟩ := hset.blocks_eq (hmem hsize) (hmem hcount)
      exact (Transfer.of_checkDataPhase hcheck).2
  · obtain ⟨slot', request', hrefused⟩ :=
      slot.issueRequest_of_mismatch htype hdata hmismatch
    rw [hrefused]
    exact ⟨slot', request', rfl, rfl⟩

namespace TwoWords

/-- A slot that was just created. -/
def slot : Slot where
  controller := .standard false

/-- A read of two blocks of four bytes each. -/
def request : Request :=
  .new (({ index := 18, argument := 0, responseType := .r1 } : Command).withElements 4 .read
    [⟨0x10000, 8⟩] ⟨Memory.zeroed 16, 0x2000⟩)

/-- The same request, once its scatter/gather list was replaced by a shorter one. -/
def shortened : Request :=
  { request with command.elements := some [⟨0x10000, 4⟩] }

end TwoWords

/-- A read of two blocks into eight bytes of memory. -/
theorem data_phase_length_two_words :
    TwoWords.slot.InUse RegisterFile.host ∧ TwoWords.request.requestType ≠ .startTransfer ∧
      TwoWords.request.command.transferType ≠ .none ∧
      ∃ slot' request' after,
        (TwoWords.slot.issueRequest TwoWords.request).run RegisterFile.host (fun _ => 0) =
          (.ok (.ok .pending, slot', request'), after) ∧
        ∃ (info : DescriptorTable.Info) (memory : Memory),
          request'.command.table = some ⟨memory, 0x2000⟩ ∧
          total (entries (entrySize slot'.capabilities.address64) info.descriptors memory.toList) =
            some 8 := by
  have hslot : TwoWords.slot.InUse RegisterFile.host := .created rfl
  have hrun : ∃ slot' request' after,
      (TwoWords.slot.issueRequest TwoWords.request).run RegisterFile.host (fun _ => 0) =
        (.ok (.ok .pending, slot', request'), after) := ⟨_, _, _, rfl⟩
  obtain ⟨slot', request', after, hrun⟩ := hrun
  have htype : TwoWords.request.requestType ≠ .startTransfer := by decide
  have hdata : TwoWords.request.command.transferType ≠ .none := by decide
  obtain ⟨haccepted, -⟩ := data_phase_length hslot htype hdata fun _ => 0
  obtain ⟨_, _, _, -, -, -, hlist⟩ := haccepted _ _ _ _ hrun
  obtain ⟨elements, table, info, memory, helements, htable, hstored, -, htotal⟩ := hlist rfl
  cases helements
  cases htable
  exact ⟨hslot, htype, hdata, slot', request', after, hrun, info, memory, hstored, htotal⟩

/-- The request with the shorter list is accepted all the same. Two blocks are announced to the card,
and the controller has a table for one. -/
theorem accepted_with_short_list :
    ∃ slot' request' after info memory,
      (TwoWords.slot.issueRequest TwoWords.shortened).run RegisterFile.host (fun _ => 0) =
        (.ok (.ok .pending, slot', request'), after) ∧
      TwoWords.shortened.command.length = 8 ∧
      (⟨.write .half RegisterMap.blockSize.offset 4, ()⟩ : Event) ∈
        (TwoWords.slot.issueRequest TwoWords.shortened).history RegisterFile.host (fun _ => 0) ∧
      (⟨.write .half RegisterMap.blockCount.offset 2, ()⟩ : Event) ∈
        (TwoWords.slot.issueRequest TwoWords.shortened).history RegisterFile.host (fun _ => 0) ∧
      DescriptorTable.build [⟨0x10000, 4⟩] false (Memory.zeroed 16) = .ok (.ok info, memory) ∧
      request'.command.table = some ⟨memory, 0x2000⟩ ∧
      total (entries (entrySize false) info.descriptors memory.toList) = some 4 := by
  have hsize : ((TwoWords.slot.issueRequest TwoWords.shortened).history RegisterFile.host
      fun _ => 0)[2]? = some ⟨.write .half RegisterMap.blockSize.offset 4, ()⟩ := rfl
  have hcount : ((TwoWords.slot.issueRequest TwoWords.shortened).history RegisterFile.host
      fun _ => 0)[3]? = some ⟨.write .half RegisterMap.blockCount.offset 2, ()⟩ := rfl
  exact ⟨_, _, _, _, _, rfl, rfl, List.mem_of_getElem? hsize, List.mem_of_getElem? hcount, rfl, rfl,
    rfl⟩

end SdHost
