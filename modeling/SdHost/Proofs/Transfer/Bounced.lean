import SdHost.Bench.World
import SdHost.Proofs.Slot.Reachable
import SdHost.Proofs.Transfer.DataPhase

/-!
# Bounced data phases from end to end

A command that lets the controller move its data is one whose data goes through the bounce pages.
`bounce_data_phase` says what that comes to for the data: the controller visits the first bytes of
the pages, which hold the data if it is to be written, and from which the data is copied if it was
read.
-/

namespace SdHost

open DmaEngine (Entry)
open Transfer (commandEvents transferComplete)

variable {σ : Type}

/-- The event lets the controller move the data of the next command itself. -/
def Event.EnablesDma (event : Event) : Prop :=
  ∃ mode, event = ⟨.write .half TransferMode.register.offset mode, ()⟩ ∧
    TransferMode.dmaEnable.test mode = true

/-- The end of a step that has nothing left to do: the framework is told, and that is all. -/
def Slot.ending (slot : Slot) (request : Request) :
    Program (Except Error Progress × Slot × Request) :=
  let ended := { request with status := .success, completions := 1 }
  .ask (.complete ended .success) fun _ =>
    .done (.ok .completed, { slot with bounceInProgress := none }, ended)

namespace Transfer

/-- The transfer mode lets the controller move the data if the data phase was set up for that. -/
theorem test_dmaEnable_mode (command : Command) (direction : Direction) (phase : DataPhase) :
    TransferMode.dmaEnable.test (mode command (some (direction, phase))) = phase.dma := by
  have hput : ∀ raw, TransferMode.dmaEnable.test (TransferMode.dmaEnable.put phase.dma raw) =
      phase.dma :=
    TransferMode.dmaEnable.test_put (by decide) rfl phase.dma
  rw [mode, Command.transferMode]
  split
  · rw [Field.test_set_of_disjoint _ _ (by decide) rfl,
      Field.test_put_of_disjoint _ _ (by decide) rfl,
      Field.test_put_of_disjoint _ _ (by decide) rfl, hput]
  · exact hput _

/-- Of the accesses that send a command, only the one that writes the transfer mode can let the
controller move data. -/
theorem test_mode_of_mem_commandEvents {command : Command}
    {phase : Option (Direction × DataPhase)} {event : Event}
    (hevent : event ∈ commandEvents command phase) (hdma : event.EnablesDma) :
    TransferMode.dmaEnable.test (mode command phase) = true := by
  obtain ⟨value, rfl, htest⟩ := hdma
  simp only [commandEvents, List.mem_cons, List.not_mem_nil, or_false] at hevent
  rcases hevent with h | h | h | h | h | h | h <;> cases h
  exact htest

end Transfer

namespace Slot

variable {revision : Word} {host : Host σ} {slot slot' : Slot} {request request' : Request}
  {state after : σ}

/-- A command that lets the controller move its data was sent, after the controller was pointed at
the bounce pages. -/
theorem sent_of_enablesDma (hslot : slot.BounceReady revision)
    (hmethod : request.command.method = .pio) (htype : request.requestType ≠ .startTransfer)
    (hdma : ∃ event ∈ (slot.issueRequest request).history host state, event.EnablesDma) :
    ∃ slot' request' after pages direction,
      (slot.issueRequest request).run host state = (.ok (.ok .pending, slot', request'), after) ∧
      request'.command = request.command ∧ request.command.direction = some direction ∧
      slot'.bounce = some pages ∧ slot'.bounceInProgress = some direction ∧
      Transfer.PagesReady pages request.command direction ∧
      request.command.length ≤ request.command.data.size ∧
      ((slot.issueRequest request).history host state).filter Event.isAccess =
        ⟨.write .word RegisterMap.admaAddress.offset pages.tableAddress, ()⟩ ::
          commandEvents request.command
            (some (direction, { dma := true, events := transferComplete })) := by
  obtain ⟨event, hevent, henables⟩ := hdma
  rw [issueRequest_eq_sendCommand htype] at hevent ⊢
  rw [Program.history_bind_done] at hevent ⊢
  -- only an access can be what lets the controller move data
  have haccess : event ∈ ((Transfer.sendCommand.start (Transfer.begun { slot, request })).history
      host state).filter Event.isAccess := by
    obtain ⟨value, rfl, -⟩ := henables
    exact List.mem_filter.mpr ⟨hevent, rfl⟩
  cases hrun : (Transfer.sendCommand.start (Transfer.begun { slot, request })).run host state with
  | mk outcome after =>
  have hsent := (Transfer.ensures_sendCommand (t := Transfer.begun { slot, request })
    fun _ => hslot.pagesCover).of_run hrun
  rcases outcome with cause | ⟨cause | progress, t'⟩
  · rw [hsent] at haccess
    cases haccess
  · rw [hsent] at haccess
    cases haccess
  obtain ⟨rfl, -, ⟨-, -, hnone⟩ | ⟨-, direction, phase, accesses, hcheck, hset, hfilter⟩⟩ := hsent
  · -- a command without data phase does not let the controller move data
    rw [hnone] at haccess
    have htest : TransferMode.dmaEnable.test 0 = true :=
      Transfer.test_mode_of_mem_commandEvents haccess henables
    exact absurd htest (by decide)
  cases hset with
  | scatterGather hother => exact absurd (hother.symm.trans hmethod) (by decide)
  | pio _ hcommand hroom hphase =>
  rw [hfilter] at haccess
  cases hphase with
  | window =>
    -- neither does one whose data is left for the data window
    have htest := Transfer.test_mode_of_mem_commandEvents haccess henables
    rw [Transfer.test_dmaEnable_mode] at htest
    cases htest
  | bounce hpages hprogress hready _ =>
    refine ⟨t'.slot, t'.request, after, _, direction, ?_, hcommand,
      (Transfer.of_checkDataPhase hcheck).1, hpages, hprogress, hready, hroom, hfilter⟩
    rw [Program.run_bind_of_ok hrun]
    rfl

/-- Going on with a data phase that went through the bounce pages. -/
theorem issueRequest_eq_finishBounce (htype : request.requestType = .startTransfer)
    (hmethod : request.command.method = .pio) (hprogress : slot.bounceInProgress ≠ none) :
    slot.issueRequest request =
      Transfer.finishBounce.start { slot, request := request.beginStep } >>= fun outcome =>
        .done (outcome.1, outcome.2.slot, outcome.2.request) := by
  rw [issueRequest_eq, Transfer.start_step, if_pos htype, Transfer.start_continueData_bounce]
  · rfl
  · exact hmethod
  · exact hprogress

/-- After a write nothing is left to be done. -/
theorem issueRequest_eq_ending (htype : request.requestType = .startTransfer)
    (hmethod : request.command.method = .pio) (hprogress : slot.bounceInProgress = some .write) :
    slot.issueRequest request = slot.ending request := by
  have hne : slot.bounceInProgress ≠ none := by
    rw [hprogress]
    exact Option.some_ne_none _
  have hwrite : slot.bounceInProgress ≠ some .read := by
    rw [hprogress]
    decide
  rw [issueRequest_eq_finishBounce htype hmethod hne, Transfer.start_finishBounce_of_ne hwrite]
  rfl

/-- After a read the data is copied out of the pages, to the start of the buffer. -/
theorem issueRequest_eq_ending_read {pages : BouncePages} {buffer : Memory}
    (htype : request.requestType = .startTransfer) (hmethod : request.command.method = .pio)
    (hprogress : slot.bounceInProgress = some .read) (hpages : slot.bounce = some pages)
    (hdata : request.command.data = .read buffer) (hroom : request.command.length ≤ buffer.size)
    (hlength : request.command.length ≤ pages.buffer.data.size) :
    ∃ filled : Memory,
      filled.toList = pages.buffer.data.toList.take request.command.length ++
        buffer.toList.drop request.command.length ∧
      slot.issueRequest request =
        slot.ending { request with command.data := .read filled } := by
  have hne : slot.bounceInProgress ≠ none := by
    rw [hprogress]
    exact Option.some_ne_none _
  -- the pages have at least as many bytes as are copied
  have htake : (pages.buffer.data.toList.take request.command.length).length =
      request.command.length := List.length_take_of_le hlength
  refine ⟨Memory.store buffer 0 (pages.buffer.data.toList.take request.command.length), ?_, ?_⟩
  · rw [Memory.toList_store_zero (by rw [htake]; exact hroom), htake]
  · rw [issueRequest_eq_finishBounce htype hmethod hne,
      Transfer.start_finishBounce_read hprogress hpages hdata hroom hlength]
    rfl

end Slot

/-- **A bounced data phase moves the same bytes as the data window would.** Take any command of a slot
in use that lets the controller move its data, whatever went through the bounce pages before. The
controller is told, as the first access, where to find the descriptors. Following them up to the end
mark, it visits the first bytes of the data pages, one by one and in order, as many as the data phase
has. If the data is to be written, these bytes are those of the source.

When the framework then has the data phase ended, with whatever the controller stored in the pages,
nothing more is asked of the registers. What was read is copied to the start of the buffer, and the
rest of the buffer stays as it was. -/
theorem bounce_data_phase {host : Host σ} {revision : Word} {slot : Slot} {request : Request}
    {state : σ} (hreach : slot.Reachable host revision) (hmethod : request.command.method = .pio)
    (htype : request.requestType ≠ .startTransfer)
    (hdma : ∃ event ∈ (slot.issueRequest request).history host state, event.EnablesDma) :
    ∃ slot' request' after pages direction table,
      (slot.issueRequest request).run host state = (.ok (.ok .pending, slot', request'), after) ∧
      request'.command = request.command ∧ request.command.direction = some direction ∧
      slot'.bounce = some pages ∧
      -- the accesses, and what the controller makes of them
      ((slot.issueRequest request).history host state).filter Event.isAccess =
        ⟨.write .word RegisterMap.admaAddress.offset table, ()⟩ ::
          commandEvents request.command
            (some (direction, { dma := true, events := transferComplete })) ∧
      table.toNat =
        pages.buffer.descriptorAddress.toNat + (ChipRevision.busOffset revision).toNat ∧
      request.command.length ≤ pages.buffer.data.size ∧
      (DmaEngine.walk (DmaEngine.entries Descriptor.size32 pages.buffer.descriptors.size
        (pages.buffer.descriptors.toList.flatMap Descriptor.toBytes))).map
          (fun chunks => chunks.flatMap Chunk.addresses) =
        some ((List.range request.command.length).map fun i =>
          (pages.buffer.pageAddress (i / pageSize)).toNat +
            (ChipRevision.busOffset revision).toNat + i % pageSize) ∧
      (direction = .write → ∃ source, request.command.data = .write source ∧
        request.command.length ≤ source.size ∧
        pages.buffer.data.toList.take request.command.length =
          source.toList.take request.command.length) ∧
      -- the end of the data phase
      ∀ (later : Slot) (again : Request) (data : Memory),
        later.bounceInProgress = slot'.bounceInProgress →
        later.bounce = some { pages with buffer := { pages.buffer with data } } →
        data.size = pages.buffer.data.size →
        again.requestType = .startTransfer → again.command = request'.command →
        (direction = .write → later.issueRequest again = later.ending again) ∧
        ∀ buffer, direction = .read → again.command.data = .read buffer →
          ∃ filled : Memory, filled.toList = data.toList.take again.command.length ++
              buffer.toList.drop again.command.length ∧
            later.issueRequest again =
              later.ending { again with command.data := .read filled } := by
  have hslot := Slot.bounceReady_of_reachable hreach
  obtain ⟨slot', request', after, pages, direction, hrun, hcommand, hdirection, hpages, hprogress,
    hready, hroom, haccess⟩ := Slot.sent_of_enablesDma hslot hmethod htype hdma
  -- the pages are in order for the slot as the command left it, and so is their offset
  have hslot' : slot'.BounceReady revision :=
    Transfer.bounceReady_step.of_run hslot (Slot.run_step_of_issueRequest hrun)
  have hoffset : pages.busOffset = ChipRevision.busOffset revision :=
    (hslot'.covers pages hpages).1.trans hslot'.busOffset_eq
  have haddress : pages.busAddress = fun i => (pages.buffer.pageAddress (i / pageSize)).toNat +
      (ChipRevision.busOffset revision).toNat + i % pageSize := by
    funext i
    rw [BouncePages.busAddress, hoffset]
  -- the pages know the offset that the controller's addresses are told with
  have htable := hready.covers.toNat_tableAddress
  rw [hoffset] at htable
  have hwalk := hready.covers.walk
  rw [haddress] at hwalk
  refine ⟨slot', request', after, pages, direction, pages.tableAddress, hrun, hcommand, hdirection,
    hpages, haccess, htable, hready.covers.length_le_size, hwalk, hready.source_eq, ?_⟩
  intro later again data hlater hbounce hsize hagain hsame
  -- the note of what goes through the pages is what tells the two directions apart
  rw [hprogress] at hlater
  have hmethod' : again.command.method = .pio := by rw [hsame, hcommand, hmethod]
  have hlength : again.command.length = request.command.length := by rw [hsame, hcommand]
  refine ⟨?_, ?_⟩
  · rintro rfl
    exact Slot.issueRequest_eq_ending hagain hmethod' hlater
  · rintro buffer rfl hdata
    have hbuffer : again.command.length ≤ buffer.size := by
      rw [← hcommand, ← hsame, hdata] at hroom
      exact hroom
    -- the controller stored as many bytes as there were, so the copy fits on both sides
    have hfits : again.command.length ≤ data.size := by
      rw [hlength, hsize]
      exact hready.covers.length_le_size
    exact Slot.issueRequest_eq_ending_read hagain hmethod' hlater hbounce hdata hbuffer hfits

/-! ## A slot with one page -/

namespace OnePage

/-- A bench of which the registers tell a base clock, and which hands out buffers. -/
def world : Bench.World where
  registers := { bytes := Memory.store (Memory.zeroed registerBlockSize) 0x41 [1] }
  allocator := some {}

/-- The buffer that the bench hands out. -/
def buffer : BounceBuffer :=
  Bench.zeroedBuffer pageSize 1 0x08000000 0x09000000 0

/-- The buffer in use. -/
def pages : BouncePages where
  buffer := { buffer with
    descriptors := #[Descriptor.last.put true (Descriptor.transfer 0xC8000000 pageSize)] }
  capacity := pageSize
  endIndex := 0
  busOffset := 0xC0000000

/-- A slot that bounces all it can. -/
def slot : Slot where
  controller := .brcme88c 0
  options := { pioThreshold := 0, bounceSize := pageSize }

/-- The slot once it was brought up. -/
def slotUp : Slot :=
  { slot with
    busOffset := 0xC0000000
    bounce := some pages
    capabilities := (Controller.brcme88c 0).capabilities 0x100 0 0 0 false }

theorem new_buffer : BouncePages.new buffer 0xC0000000 = .ok pages := by
  have hsize : buffer.data.size = pageSize := Array.size_replicate
  have hone : pageSize / pageSize = 1 := Nat.div_self (by decide)
  simp only [BouncePages.new, hsize, hone]
  rfl

set_option maxRecDepth 4000 in
/-- Brought up, the slot has one page. -/
theorem exists_run_bringUp :
    ∃ after, ((Slot.bringUp registerBlockSize false).start slot).run Bench.World.host world =
      (.ok (.ok (), slotUp), after) := by
  have hsize : Slot.wholePages pageSize = .ok pageSize := by simp [Slot.wholePages, pageSize]
  have hnew : BouncePages.new buffer (slot.readied false).busOffset = .ok pages := new_buffer
  have hanswer : Bench.World.host.answer (.allocate pageSize) world =
      (some buffer, (Bench.World.host.answer (.allocate pageSize) world).2) := rfl
  have hbounce : (slot.readied false).controller.usesBounce = true := rfl
  rw [Slot.start_bringUp, if_neg (by decide), Slot.providePages, if_pos hbounce,
    Slot.run_allocateBounce, if_neg (by decide),
    show (slot.readied false).options.bounceSize = pageSize from rfl, hsize]
  simp only [Program.ofExcept, Program.done_bind, Program.ask_bind, Program.run_ask]
  rw [hanswer]
  dsimp only
  rw [hnew]
  exact ⟨_, rfl⟩

theorem reachable_slotUp : slotUp.Reachable Bench.World.host 0 := by
  obtain ⟨after, hrun⟩ := exists_run_bringUp
  exact .broughtUp rfl hrun

/-- A write of two bytes. -/
def request : Request :=
  .new (({ index := 25, argument := 0, responseType := .r1 } : Command).withBuffer 2
    (.write #[1, 2]))

/-- The same write, when the framework goes on with its data phase. -/
def next : Request :=
  { request with requestType := .startTransfer }

/-- A write of three bytes, to be sent once the first one is done. -/
def second : Request :=
  .new (({ index := 25, argument := 0, responseType := .r1 } : Command).withBuffer 3
    (.write #[3, 4, 5]))

theorem enablesDma_request :
    ∃ event ∈ (slotUp.issueRequest request).history Bench.World.host world,
      event.EnablesDma := by
  have hmode : ((slotUp.issueRequest request).history Bench.World.host world)[5]? =
      some ⟨.write .half TransferMode.register.offset 1, ()⟩ := rfl
  exact ⟨_, List.mem_of_getElem? hmode, 1, rfl, by decide⟩

/-- The first write is sent through the page, and so is the second one, once the first one is done. -/
theorem exists_runs :
    ∃ sent request₁ between again request₂ after,
      (slotUp.issueRequest request).run Bench.World.host world =
        (.ok (.ok .pending, sent, request₁), between) ∧
      sent.bounceInProgress = some .write ∧
      (sent.bounce.map fun pages => pages.buffer.handle) = some 0 ∧
      (({ sent with bounceInProgress := none } : Slot).issueRequest second).run Bench.World.host
        ((sent.ending next).run Bench.World.host between).2 =
          (.ok (.ok .pending, again, request₂), after) ∧
      (again.bounce.map fun pages => pages.buffer.handle) = some 0 ∧
      ((({ sent with bounceInProgress := none } : Slot).issueRequest second).history Bench.World.host
        ((sent.ending next).run Bench.World.host between).2)[5]? =
          some ⟨.write .half TransferMode.register.offset 1, ()⟩ :=
  ⟨_, _, _, _, _, _, rfl, rfl, rfl, rfl, rfl, rfl⟩

/-- Up to a page, what is visited is one address after another. -/
theorem map_range_of_le {buffer : BounceBuffer} {offset length : Nat} (h : length ≤ pageSize) :
    ((List.range length).map fun i =>
        (buffer.pageAddress (i / pageSize)).toNat + offset + i % pageSize) =
      (List.range length).map fun i => (buffer.pageAddress 0).toNat + offset + i := by
  refine List.map_congr_left fun i hi => ?_
  have hlt : i < pageSize := (List.mem_range.mp hi).trans_le h
  rw [Nat.div_eq_of_lt hlt, Nat.mod_eq_of_lt hlt]

end OnePage

/-- Two bytes, written through a page that was just allocated, and then three bytes through the same
page. -/
theorem bounce_data_phase_one_page :
    OnePage.slotUp.Reachable Bench.World.host 0 ∧
      ∃ sent request₁ between pages,
        (OnePage.slotUp.issueRequest OnePage.request).run Bench.World.host OnePage.world =
          (.ok (.ok .pending, sent, request₁), between) ∧
        sent.bounce = some pages ∧ pages.buffer.data.toList.take 2 = [1, 2] ∧
        (DmaEngine.walk (DmaEngine.entries Descriptor.size32 pages.buffer.descriptors.size
          (pages.buffer.descriptors.toList.flatMap Descriptor.toBytes))).map
            (fun chunks => chunks.flatMap Chunk.addresses) =
          some [(pages.buffer.pageAddress 0).toNat + 0xC0000000,
            (pages.buffer.pageAddress 0).toNat + 0xC0000001] ∧
        ∃ done request₂ after again request₃ last pages',
          (sent.issueRequest OnePage.next).run Bench.World.host between =
            (.ok (.ok .completed, done, request₂), after) ∧
          done.Reachable Bench.World.host 0 ∧ done.bounce = some pages ∧
          (done.issueRequest OnePage.second).run Bench.World.host after =
            (.ok (.ok .pending, again, request₃), last) ∧
          again.bounce = some pages' ∧ pages'.buffer.handle = pages.buffer.handle ∧
          pages'.buffer.data.toList.take 3 = [3, 4, 5] ∧
          (DmaEngine.walk (DmaEngine.entries Descriptor.size32 pages'.buffer.descriptors.size
            (pages'.buffer.descriptors.toList.flatMap Descriptor.toBytes))).map
              (fun chunks => chunks.flatMap Chunk.addresses) =
            some [(pages'.buffer.pageAddress 0).toNat + 0xC0000000,
              (pages'.buffer.pageAddress 0).toNat + 0xC0000001,
              (pages'.buffer.pageAddress 0).toNat + 0xC0000002] := by
  obtain ⟨sent, request₁, between, again, request₃, last, hsent, -, hhandle, hagain, hhandle',
    hmode⟩ := OnePage.exists_runs
  have hoffset : (ChipRevision.busOffset 0).toNat = 0xC0000000 := by decide
  -- the first command
  obtain ⟨_, _, _, pages, direction, table, hrun, hcommand, hdirection, hpages, -, -, -, hwalk,
    hsource, hend⟩ :=
      bounce_data_phase OnePage.reachable_slotUp rfl (by decide) OnePage.enablesDma_request
  cases hsent.symm.trans hrun
  cases hdirection
  obtain ⟨source, hdata, -, hbytes⟩ := hsource rfl
  cases hdata
  have hlength : OnePage.request.command.length = 2 := rfl
  rw [hlength, hoffset, OnePage.map_range_of_le (by decide)] at hwalk
  -- the end of its data phase
  have hending : sent.issueRequest OnePage.next = sent.ending OnePage.next :=
    (hend sent OnePage.next pages.buffer.data rfl hpages rfl rfl hcommand.symm).1 rfl
  have hdone : (sent.issueRequest OnePage.next).run Bench.World.host between =
      (.ok (.ok .completed, { sent with bounceInProgress := none }, _), _) :=
    congrArg (Program.run Bench.World.host · between) hending
  have hreachable : Slot.Reachable Bench.World.host 0 { sent with bounceInProgress := none } :=
    (OnePage.reachable_slotUp.issued hsent).issued hdone
  -- the second command
  obtain ⟨_, _, _, pages', direction', table', hrun', -, hdirection', hpages', -, -, -, hwalk',
    hsource', -⟩ := bounce_data_phase hreachable rfl (by decide)
      ⟨_, List.mem_of_getElem? hmode, 1, rfl, by decide⟩
  cases hagain.symm.trans hrun'
  cases hdirection'
  obtain ⟨source', hdata', -, hbytes'⟩ := hsource' rfl
  cases hdata'
  have hlength' : OnePage.second.command.length = 3 := rfl
  rw [hlength', hoffset, OnePage.map_range_of_le (by decide)] at hwalk'
  -- both went through the same page
  have hsame : pages'.buffer.handle = pages.buffer.handle := by
    rw [hpages] at hhandle
    rw [hpages'] at hhandle'
    exact Option.some.inj (hhandle'.trans hhandle.symm)
  exact ⟨OnePage.reachable_slotUp, sent, request₁, between, pages, hsent, hpages, hbytes, hwalk,
    _, _, _, again, request₃, last, pages', hdone, hreachable, hpages, hagain, hpages', hsame,
    hbytes', hwalk'⟩

end SdHost
