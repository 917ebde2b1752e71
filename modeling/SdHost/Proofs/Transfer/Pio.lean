import SdHost.Proofs.Bench.DataPort
import SdHost.Proofs.Transfer.Steps

/-!
# Data phases through the data window

A data phase that the processor moves is a run of issues: one that sends the command, and one for
each block. In between, interrupts come and the framework issues the request again.

The module introduces:

* `Scene`: a slot at work on a request in its surroundings, and what an issue makes of it;
* `Slot.Unbounced`: a transfer of some length is not to go through the bounce pages;
* `PioRun`: the scenes that come about by issuing a request again and again;
* `BlocksMoved`: what is true of a scene once so many blocks were moved.

`BlocksMoved.issue` is what one issue preserves, and `pio_data_phase` follows a run from the command
to the last block and beyond.
-/

namespace SdHost

variable {σ : Type}

/-- A slot at work on a request, and the state of its surroundings. -/
structure Scene (σ : Type) where
  /-- The slot. -/
  slot : Slot
  /-- The request. -/
  request : Request
  /-- The state of the surroundings. -/
  state : σ

namespace Scene

/-- What comes of issuing the request, and the scene after it. -/
def issue (scene : Scene σ) (host : Host σ) : Except Fault (Except Error Progress × Scene σ) :=
  match (scene.slot.issueRequest scene.request).run host scene.state with
  | (.ok (result, slot, request), state) => .ok (result, { slot, request, state })
  | (.error cause, _) => .error cause

theorem issue_of_run {scene : Scene σ} {host : Host σ} {result : Except Error Progress}
    {t : Transfer} {after : σ}
    (hrun : (Transfer.step.start { slot := scene.slot, request := scene.request }).run host
      scene.state = (.ok (result, t), after)) :
    scene.issue host =
      .ok (result, { slot := t.slot, request := t.request, state := after }) := by
  have hissue : scene.slot.issueRequest scene.request =
      Transfer.step.start { slot := scene.slot, request := scene.request } >>= fun outcome =>
        .done (outcome.1, outcome.2.slot, outcome.2.request) := rfl
  rw [issue, hissue, Program.run_bind_of_ok hrun, Program.run_done]

end Scene

/-- A transfer of `length` bytes is not to go through the bounce pages: the controller can do
without, or the transfer is a small one, or it is too large for the pages that are there and no
others are to be had. -/
def Slot.Unbounced (slot : Slot) (host : Host σ) (state : σ) (length : Nat) : Prop :=
  slot.controller.usesBounce = false ∨ length ≤ slot.options.pioThreshold ∨
    (∀ capacity, slot.bounceCapacity = some capacity → capacity < length) ∧
      ∃ size, Slot.wholePages length = .ok size ∧
        ∀ buffer, (host.answer (.allocate size) state).1 = some buffer →
          ∃ refused, BouncePages.new buffer slot.busOffset = .error refused

namespace Transfer

open FifoPort

variable {host : Host σ} {port : FifoPort host}

variable (port) in
/-- Where there are to be no bounce pages, none are reserved. -/
theorem run_reservePages {t : Transfer} {state : σ} {length : Nat}
    (h : t.slot.Unbounced host state length) :
    ∃ after, port.Run ((reservePages length).start t) state (.ok false, t) [] [] after := by
  rw [start_reservePages]
  rcases h with huses | hsmall | ⟨hcapacity, size, hsize, hrefused⟩
  · rw [if_pos (by simp [huses])]
    exact ⟨state, Run.done _ state⟩
  · rw [if_pos (by simp [hsmall])]
    exact ⟨state, Run.done _ state⟩
  · split
    · exact ⟨state, Run.done _ state⟩
    · have hfew : ¬ (t.slot.bounceCapacity.any fun capacity => decide (length ≤ capacity)) = true := by
        intro hany
        obtain ⟨capacity, hmem, hle⟩ := Option.any_eq_true .. |>.mp hany
        have := hcapacity capacity hmem
        simp at hle
        omega
      rw [if_neg hfew, Slot.run_allocateBounce, hsize, Program.ofExcept, Program.done_bind,
        Program.ask_bind]
      apply run_ask rfl
      -- the reply is a buffer that is of no use, if it is one at all
      cases hreply : (host.answer (.allocate size) state).1 with
      | none => exact ⟨_, Run.done _ _⟩
      | some buffer =>
        obtain ⟨refused, hnew⟩ := hrefused buffer hreply
        simp only [hnew]
        exact run_ask rfl ⟨_, Run.done _ _⟩

variable (port) in
/-- Sending a command leaves the data window alone. -/
theorem run_writeCommand (command : Command) (phase : Option (Direction × DataPhase)) (state : σ) :
    ∃ after, port.Run (writeCommand command phase) state () [] [] after := by
  refine run_of_ensures ((ensures_writeCommand _ command phase).mono ?_) state
  rintro events outcome ⟨rfl, rfl⟩
  refine ⟨?_, rfl⟩
  simp only [commandEvents, List.forall_mem_cons]
  exact ⟨rfl, rfl, rfl, rfl, rfl, rfl, rfl, by simp⟩

variable (port) in
/-- A command with a data phase that is not bounced is sent, and the data is left for the data
window. -/
theorem run_sendCommand {t : Transfer} {state : σ} {direction : Direction}
    (htype : t.request.command.transferType ≠ .none) (hmethod : t.request.command.method = .pio)
    (hcheck : t.request.command.checkDataPhase = .ok direction)
    (hroom : t.request.command.length ≤ t.request.command.data.size)
    (hbounce : t.slot.Unbounced host state t.request.command.length) :
    ∃ after, port.Run (sendCommand.start t) state
      (.ok .pending, { t.fresh with
        request.requiredEvents := firstEvents t.request.command
          (some (direction, { dma := false, events := bufferReady direction })) }) [] [] after := by
  -- no pages are reserved, and the accesses that send the command move no data
  obtain ⟨middle, hreserve⟩ := run_reservePages port (t := t.fresh) hbounce
  obtain ⟨after, hwrite⟩ := run_writeCommand port t.request.command
    (some (direction, { dma := false, events := bufferReady direction })) middle
  have hpio : port.Run ((setUpPio t.request.command direction).start t.fresh) state
      (.ok { dma := false, events := bufferReady direction }, t.fresh) [] [] middle := by
    rw [start_setUpPio hroom]
    exact hreserve.bind_done rfl
  have hphase : port.Run ((setUpDataPhase t.request.command).start t.fresh) state
      (.ok (some (direction, { dma := false, events := bufferReady direction })), t.fresh) [] []
      middle := by
    rw [start_setUpDataPhase_pio htype hmethod hcheck]
    exact hpio.bind_done rfl
  rw [start_sendCommand]
  exact ⟨after, hphase.bind (hwrite.bind_done rfl)⟩

theorem run_moveBlock_read {t : Transfer} {state : σ} {buffer : Memory} {taken : List Byte}
    (hdata : t.request.command.data = .read buffer)
    (hroom : t.request.command.cursor + t.request.command.blockSize.toNat ≤ buffer.size)
    (hlength : taken.length = t.request.command.blockSize.toNat)
    (htaken : taken <+: port.input state) :
    ∃ after, port.Run ((moveBlock t.request.command .read).start t) state
      (.ok (), { t with
        request.command.data := DataBuffer.read
          (Memory.store buffer t.request.command.cursor taken) }) taken [] after := by
  obtain ⟨after, hblock⟩ := run_readBlock htaken
  rw [start_moveBlock_read hdata hroom, ← hlength]
  exact ⟨after, hblock.bind_done rfl⟩

variable (port) in
/-- A block is written from the buffer. -/
theorem run_moveBlock_write {t : Transfer} {buffer : Memory}
    (hdata : t.request.command.data = .write buffer)
    (hroom : t.request.command.cursor + t.request.command.blockSize.toNat ≤ buffer.size)
    (state : σ) :
    ∃ after, port.Run ((moveBlock t.request.command .write).start t) state (.ok (), t) []
      ((buffer.toList.drop t.request.command.cursor).take t.request.command.blockSize.toNat)
      after := by
  obtain ⟨after, hblock⟩ := run_writeBlock port ((buffer.toList.drop
    t.request.command.cursor).take t.request.command.blockSize.toNat) state
  rw [start_moveBlock_write hdata hroom]
  exact ⟨after, hblock.bind_done rfl⟩

theorem run_continuePio {t t' : Transfer} {state after : σ} {direction : Direction}
    {taken given : List Byte} (hcount : t.request.command.blockCount ≠ 0)
    (hdirection : t.request.command.direction = some direction)
    (hblock : port.Run ((moveBlock t.request.command direction).start t) state (.ok (), t') taken
      given after) :
    port.Run (continuePio.start t) state
      (.ok .pending, { t' with request := blockMoved t'.request direction }) taken given after := by
  rw [start_continuePio hcount hdirection]
  exact hblock.bind_done rfl

end Transfer

namespace Command

theorem toNat_blocksIn {blocks : Nat} {blockSize : HalfWord} (hsize : 0 < blockSize.toNat)
    (hblocks : blocks ≤ 65535) : (blocksIn (blocks * blockSize.toNat) blockSize).toNat = blocks := by
  rw [blocksIn, Nat.mul_div_cancel _ hsize, if_pos (by omega), BitVec.toNat_ofNat]
  omega

/-- A data phase of whole blocks, as many and as large as the registers can describe, is
accepted. -/
theorem checkDataPhase_withBuffer {blocks : Nat} {blockSize : HalfWord} {data : DataBuffer}
    {direction : Direction} (command : Command) (hpos : 1 ≤ blockSize.toNat)
    (hmax : blockSize.toNat ≤ 2048) (hblocks : 1 ≤ blocks) (hcount : blocks ≤ 65535)
    (hsize : data.size = blocks * blockSize.toNat) (hdirection : data.direction = some direction) :
    (command.withBuffer blockSize data).checkDataPhase = .ok direction := by
  -- the count and the length are those of the buffer
  have hcountEq : (command.withBuffer blockSize data).blockCount.toNat = blocks := by
    show (blocksIn data.size blockSize).toNat = blocks
    rw [hsize, toNat_blocksIn hpos hcount]
  have hlength : (command.withBuffer blockSize data).length = blocks * blockSize.toNat := hsize
  have hblock : (command.withBuffer blockSize data).blockSize = blockSize := rfl
  have hflow : (command.withBuffer blockSize data).direction = some direction := hdirection
  have hcheck : (command.withBuffer blockSize data).checkBlocks = .ok () := by
    rw [checkBlocks, hblock, hlength, hcountEq, Nat.mul_mod_left, Nat.mul_div_cancel _ hpos]
    rw [if_neg (by omega), if_pos ⟨hblocks, rfl⟩]
  -- the size and the count are fine, so that only the direction is left to be looked at
  rw [checkDataPhase, hblock, hcheck, hflow, if_neg (show ¬ maxBlockSize < _ from Nat.not_lt.mpr hmax)]
  rfl

end Command

namespace Transfer

theorem toNat_advance_blockCount (command : Command) :
    command.advance.blockCount.toNat = command.blockCount.toNat - 1 := by
  have hlt := command.blockCount.isLt
  by_cases hzero : command.blockCount = 0
  · rw [Command.advance, if_pos hzero, hzero]
    rfl
  · -- the count is a word of 16 bits, and the difference does not wrap below a positive one
    have hpos : command.blockCount.toNat ≠ 0 := fun h => hzero (BitVec.eq_of_toNat_eq h)
    rw [Command.advance, if_neg hzero, BitVec.toNat_sub]
    show (2 ^ 16 - 1 + command.blockCount.toNat) % 2 ^ 16 = _
    omega

theorem advance_blockCount_eq_zero_iff (command : Command) :
    command.advance.blockCount = 0 ↔ ¬ 1 < command.blockCount.toNat := by
  have hcount := toNat_advance_blockCount command
  constructor
  · intro hzero
    rw [hzero] at hcount
    have hcount' : 0 = command.blockCount.toNat - 1 := hcount
    omega
  -- with one block or none left, the difference is zero
  · intro hlast
    apply BitVec.eq_of_toNat_eq
    rw [hcount]
    show command.blockCount.toNat - 1 = 0
    omega

theorem blockMoved_command (request : Request) (direction : Direction) :
    (blockMoved request direction).command = request.command.advance := by
  rw [blockMoved]
  split <;> rfl

/-- The last block ends the request, and the others ask for more. -/
theorem blockMoved_status (request : Request) (direction : Direction) :
    (blockMoved request direction).status =
      if 1 < request.command.blockCount.toNat then .moreProcessingRequired else .success := by
  have hlast := advance_blockCount_eq_zero_iff request.command
  by_cases hmore : 1 < request.command.blockCount.toNat
  · rw [blockMoved, if_neg fun hzero => hlast.mp hzero hmore, if_pos hmore]
  · rw [blockMoved, if_pos (hlast.mpr hmore), if_neg hmore]

/-- The last block waits for the end of the data phase, and the others for the next block. -/
theorem blockMoved_requiredEvents (request : Request) (direction : Direction) :
    (blockMoved request direction).requiredEvents = request.requiredEvents |||
      if 1 < request.command.blockCount.toNat then bufferReady direction else transferComplete := by
  have hlast := advance_blockCount_eq_zero_iff request.command
  by_cases hmore : 1 < request.command.blockCount.toNat
  · rw [blockMoved, if_neg fun hzero => hlast.mp hzero hmore, if_pos hmore]
  · rw [blockMoved, if_pos (hlast.mpr hmore), if_neg hmore]

end Transfer

namespace Scene

theorem issue_command {scene : Scene σ} {host : Host σ} {result : Except Error Progress}
    {t : Transfer} {after : σ} (htype : scene.request.requestType ≠ .startTransfer)
    (hrun : (Transfer.sendCommand.start
      (Transfer.begun { slot := scene.slot, request := scene.request })).run host scene.state =
        (.ok (result, t), after)) :
    scene.issue host = .ok (result, { slot := t.slot, request := t.request, state := after }) := by
  apply issue_of_run
  rw [Transfer.start_step, if_neg htype, hrun]

theorem issue_startTransfer {scene : Scene σ} {host : Host σ} {result : Except Error Progress}
    {t : Transfer} {after : σ} (htype : scene.request.requestType = .startTransfer)
    (hmethod : scene.request.command.method = .pio) (hbounce : scene.slot.bounceInProgress = none)
    (hrun : (Transfer.continuePio.start
      (Transfer.begun { slot := scene.slot, request := scene.request })).run host scene.state =
        (.ok (result, t), after)) :
    scene.issue host = .ok (result, { slot := t.slot, request := t.request, state := after }) := by
  apply issue_of_run
  rw [Transfer.start_step, if_pos htype, Transfer.start_continueData_pio hmethod hbounce, hrun]

end Scene

/-- The framework issues the request again to go on with its data phase. Whatever happened to the
events that the step waits for, to its status and to the surroundings, the data window was left
alone. -/
structure Reissued {host : Host σ} (port : FifoPort host) (scene again : Scene σ) : Prop where
  /-- The slot is as it was. -/
  slot_eq : again.slot = scene.slot
  /-- So is the command. -/
  command_eq : again.request.command = scene.request.command
  /-- The data phase is to go on. -/
  type_eq : again.request.requestType = .startTransfer
  /-- Nothing went through the data window. -/
  quiet : port.Moved [] [] scene.state again.state

theorem Reissued.at_once {host : Host σ} (port : FifoPort host) (scene : Scene σ) :
    Reissued port scene { scene with request.requestType := .startTransfer } where
  slot_eq := rfl
  command_eq := rfl
  type_eq := rfl
  quiet := .refl _

/-- The scenes that a data phase can come to once the request was issued so many times again,
whatever came of it. -/
inductive PioRun {host : Host σ} (port : FifoPort host) (sent : Scene σ) : Nat → Scene σ → Prop
  /-- The command was sent. -/
  | sent : PioRun port sent 0 sent
  /-- The request is issued once more. -/
  | next {k : Nat} {scene again scene' : Scene σ} {result : Except Error Progress}
      (hrun : PioRun port sent k scene) (hagain : Reissued port scene again)
      (hissue : again.issue host = .ok (result, scene')) : PioRun port sent (k + 1) scene'

/-- Of a data phase of so many blocks, some were moved since a first state of the surroundings. -/
structure BlocksMoved {host : Host σ} (port : FifoPort host) (blockSize : HalfWord) (blocks : Nat)
    (data : DataBuffer) (state : σ) (moved : Nat) (scene : Scene σ) : Prop where
  /-- The data does not go through the bounce pages. -/
  bounce_eq : scene.slot.bounceInProgress = none
  /-- The processor moves the data. -/
  method_eq : scene.request.command.method = .pio
  /-- The data flows the way that the buffer has it. -/
  direction_eq : scene.request.command.direction = data.direction
  /-- The blocks are as long as they were. -/
  blockSize_eq : scene.request.command.blockSize = blockSize
  /-- The cursor stands after the blocks that were moved. -/
  cursor_eq : scene.request.command.cursor = moved * blockSize.toNat
  /-- The others are left. -/
  blockCount_eq : scene.request.command.blockCount.toNat = blocks - moved
  /-- What came first through the data window fills the start of the buffer, and the rest of the
  buffer is as it was. -/
  read_eq : ∀ buffer, data = .read buffer → ∃ buffer',
    scene.request.command.data = .read buffer' ∧
      buffer'.toList = (port.input state).take (moved * blockSize.toNat) ++
        buffer.toList.drop (moved * blockSize.toNat) ∧
      port.Moved ((port.input state).take (moved * blockSize.toNat)) [] state scene.state
  /-- The start of the buffer went through the data window, and the buffer is as it was. -/
  write_eq : ∀ buffer, data = .write buffer → scene.request.command.data = .write buffer ∧
    port.Moved [] (buffer.toList.take (moved * blockSize.toNat)) state scene.state

namespace BlocksMoved

variable {host : Host σ} {port : FifoPort host} {blockSize : HalfWord} {blocks moved : Nat}
  {data : DataBuffer} {state : σ} {scene again : Scene σ}

/-- What happens until the request is issued again moves no block. -/
theorem reissued (h : BlocksMoved port blockSize blocks data state moved scene)
    (hagain : Reissued port scene again) :
    BlocksMoved port blockSize blocks data state moved again where
  bounce_eq := hagain.slot_eq ▸ h.bounce_eq
  method_eq := hagain.command_eq ▸ h.method_eq
  direction_eq := hagain.command_eq ▸ h.direction_eq
  blockSize_eq := hagain.command_eq ▸ h.blockSize_eq
  cursor_eq := hagain.command_eq ▸ h.cursor_eq
  blockCount_eq := hagain.command_eq ▸ h.blockCount_eq
  -- the data window was left alone, so that it still stands where it stood
  read_eq buffer hread := by
    obtain ⟨buffer', hdata, hbytes, hmoved⟩ := h.read_eq buffer hread
    exact ⟨buffer', hagain.command_eq ▸ hdata, hbytes, hmoved.trans_quiet hagain.quiet⟩
  write_eq buffer hwrite := by
    obtain ⟨hdata, hmoved⟩ := h.write_eq buffer hwrite
    exact ⟨hagain.command_eq ▸ hdata, hmoved.trans_quiet hagain.quiet⟩

private theorem size_eq_of_filled {buffer buffer' : Memory} {incoming : List Byte} {cursor : Nat}
    (hbytes : buffer'.toList = incoming.take cursor ++ buffer.toList.drop cursor)
    (hincoming : cursor ≤ incoming.length) (hroom : cursor ≤ buffer.size) :
    buffer'.size = buffer.size := by
  have hlength := congrArg List.length hbytes
  rw [List.length_append, List.length_take_of_le hincoming, List.length_drop, Array.length_toList,
    Array.length_toList] at hlength
  omega

/-- Reading the next block fills the next part of the buffer. -/
private theorem toList_store_next {buffer buffer' : Memory} {incoming : List Byte}
    {cursor size : Nat} (hbytes : buffer'.toList = incoming.take cursor ++ buffer.toList.drop cursor)
    (hincoming : cursor + size ≤ incoming.length) (hroom : cursor + size ≤ buffer.size) :
    (Memory.store buffer' cursor ((incoming.drop cursor).take size)).toList =
      incoming.take (cursor + size) ++ buffer.toList.drop (cursor + size) := by
  have hcursor : (incoming.take cursor).length = cursor := List.length_take_of_le (by omega)
  have hsize : ((incoming.drop cursor).take size).length = size :=
    List.length_take_of_le (by rw [List.length_drop]; omega)
  -- the part after the block was still to be filled, and stays so
  have hsame := size_eq_of_filled hbytes (by omega) (by omega)
  have hdrop : (incoming.take cursor ++ buffer.toList.drop cursor).drop (cursor + size) =
      buffer.toList.drop (cursor + size) := by
    rw [← List.drop_drop, List.drop_left' hcursor, List.drop_drop]
  rw [Memory.toList_store _ _ _ (by omega), hsize, hbytes, List.take_left' hcursor, hdrop,
    List.take_add]

/-- A block was moved once the command is past it and the data is where it belongs. -/
theorem advance (h : BlocksMoved port blockSize blocks data state moved scene) {request : Request}
    {data' : DataBuffer} {after : σ}
    (hcommand : request.command =
      ({ scene.request.command with data := data' } : Command).advance)
    (hread : ∀ buffer, data = .read buffer → ∃ buffer', data' = .read buffer' ∧
      buffer'.toList = (port.input state).take ((moved + 1) * blockSize.toNat) ++
        buffer.toList.drop ((moved + 1) * blockSize.toNat) ∧
      port.Moved ((port.input state).take ((moved + 1) * blockSize.toNat)) [] state after)
    (hwrite : ∀ buffer, data = .write buffer → data' = .write buffer ∧
      port.Moved [] (buffer.toList.take ((moved + 1) * blockSize.toNat)) state after) :
    BlocksMoved port blockSize blocks data state (moved + 1)
      { slot := scene.slot, request, state := after } where
  bounce_eq := h.bounce_eq
  method_eq := by
    rw [hcommand]
    exact h.method_eq
  direction_eq := by
    rw [hcommand]
    exact h.direction_eq
  blockSize_eq := by
    rw [hcommand]
    exact h.blockSize_eq
  cursor_eq := by
    rw [hcommand, Nat.succ_mul, ← h.cursor_eq, ← h.blockSize_eq]
    rfl
  blockCount_eq := by
    rw [hcommand, Transfer.toNat_advance_blockCount]
    have hcount := h.blockCount_eq
    -- changing the data does not change the count
    show scene.request.command.blockCount.toNat - 1 = blocks - (moved + 1)
    omega
  read_eq buffer hdata := by
    rw [hcommand]
    exact hread buffer hdata
  write_eq buffer hdata := by
    rw [hcommand]
    exact hwrite buffer hdata

/-- An issue that moves a block goes on to the next, or to the end of the data phase. -/
private theorem issue_of_moveBlock {direction : Direction} {data' : DataBuffer} {after : σ}
    {taken given : List Byte} (h : BlocksMoved port blockSize blocks data state moved scene)
    (htype : scene.request.requestType = .startTransfer) (hlt : moved < blocks)
    (hflow : scene.request.command.direction = some direction)
    (hblock : port.Run ((Transfer.moveBlock scene.request.command direction).start
      { slot := scene.slot, request := scene.request.beginStep }) scene.state
      (.ok (), { slot := scene.slot
                 request := { scene.request.beginStep with command.data := data' } })
      taken given after)
    (hread : ∀ buffer, data = .read buffer → ∃ buffer', data' = .read buffer' ∧
      buffer'.toList = (port.input state).take ((moved + 1) * blockSize.toNat) ++
        buffer.toList.drop ((moved + 1) * blockSize.toNat) ∧
      port.Moved ((port.input state).take ((moved + 1) * blockSize.toNat)) [] state after)
    (hwrite : ∀ buffer, data = .write buffer → data' = .write buffer ∧
      port.Moved [] (buffer.toList.take ((moved + 1) * blockSize.toNat)) state after) :
    ∃ scene', scene.issue host = .ok (.ok .pending, scene') ∧
      BlocksMoved port blockSize blocks data state (moved + 1) scene' ∧
      scene'.request.status =
        (if moved + 1 < blocks then .moreProcessingRequired else .success) ∧
      scene'.request.requiredEvents = scene.request.requiredEvents |||
        (if moved + 1 < blocks then Transfer.bufferReady direction
          else Transfer.transferComplete) := by
  -- there is a block left, so that the issue is not refused
  have hcount := h.blockCount_eq
  have hcountNe : scene.request.command.blockCount ≠ 0 := by
    intro hzero
    rw [hzero] at hcount
    have hcount' : 0 = blocks - moved := hcount
    omega
  have hmore : 1 < scene.request.command.blockCount.toNat ↔ moved + 1 < blocks := by omega
  -- the step begins with nothing reported, and moves the block as assumed
  have hrun := Transfer.run_continuePio
    (t := { slot := scene.slot, request := scene.request.beginStep }) hcountNe hflow hblock
  refine ⟨_, Scene.issue_startTransfer htype h.method_eq h.bounce_eq hrun.run_eq, ?_, ?_, ?_⟩
  · exact h.advance (Transfer.blockMoved_command _ _) hread hwrite
  · show (Transfer.blockMoved _ direction).status = _
    rw [Transfer.blockMoved_status]
    exact if_congr hmore rfl rfl
  · show (Transfer.blockMoved _ direction).requiredEvents = _
    rw [Transfer.blockMoved_requiredEvents]
    exact congrArg _ (if_congr hmore rfl rfl)

/-- One issue moves the next block. -/
theorem issue {direction : Direction} (h : BlocksMoved port blockSize blocks data state moved scene)
    (htype : scene.request.requestType = .startTransfer) (hlt : moved < blocks)
    (hsize : data.size = blocks * blockSize.toNat) (hdirection : data.direction = some direction)
    (hinput : direction = .read → blocks * blockSize.toNat ≤ (port.input state).length) :
    ∃ scene', scene.issue host = .ok (.ok .pending, scene') ∧
      BlocksMoved port blockSize blocks data state (moved + 1) scene' ∧
      scene'.request.status =
        (if moved + 1 < blocks then .moreProcessingRequired else .success) ∧
      scene'.request.requiredEvents = scene.request.requiredEvents |||
        (if moved + 1 < blocks then Transfer.bufferReady direction
          else Transfer.transferComplete) := by
  -- the block at the cursor lies within the buffer
  have hend : moved * blockSize.toNat + blockSize.toNat ≤ blocks * blockSize.toNat := by
    rw [← Nat.succ_mul]
    exact Nat.mul_le_mul_right _ hlt
  have hcursor : scene.request.command.cursor + scene.request.command.blockSize.toNat =
      moved * blockSize.toNat + blockSize.toNat := by rw [h.cursor_eq, h.blockSize_eq]
  have hflow := h.direction_eq.trans hdirection
  cases data with
  | none => cases hdirection
  | read buffer =>
    cases hdirection
    obtain ⟨buffer', hdata, hbytes, hmoved⟩ := h.read_eq buffer rfl
    have hincoming := hinput rfl
    have hroom : blocks * blockSize.toNat = buffer.size := hsize.symm
    -- the buffer that is being filled has the size of the one that was given
    have hsame := size_eq_of_filled hbytes (by omega) (by omega)
    -- the block is what comes next through the data window
    have hnext : port.input scene.state = (port.input state).drop (moved * blockSize.toNat) := by
      have hinputs := hmoved.input_eq
      nth_rewrite 1 [← List.take_append_drop (moved * blockSize.toNat) (port.input state)] at hinputs
      exact (List.append_cancel_left hinputs).symm
    have hlength : (((port.input state).drop (moved * blockSize.toNat)).take
        blockSize.toNat).length = scene.request.command.blockSize.toNat := by
      rw [h.blockSize_eq]
      exact List.length_take_of_le (by rw [List.length_drop]; omega)
    have htaken : ((port.input state).drop (moved * blockSize.toNat)).take blockSize.toNat <+:
        port.input scene.state := by
      rw [hnext]
      exact List.take_prefix _ _
    have hfits : scene.request.command.cursor + scene.request.command.blockSize.toNat ≤
        buffer'.size := by
      rw [hcursor, hsame]
      omega
    obtain ⟨after, hblock⟩ := Transfer.run_moveBlock_read
      (t := { slot := scene.slot, request := scene.request.beginStep }) hdata hfits hlength htaken
    refine issue_of_moveBlock h htype hlt hflow hblock ?_ ?_
    · rintro _ ⟨⟩
      refine ⟨_, rfl, ?_, ?_⟩
      · show (Memory.store buffer' scene.request.command.cursor _).toList = _
        rw [h.cursor_eq, toList_store_next hbytes (by omega) (by omega), Nat.succ_mul]
      · have hboth := hmoved.trans hblock.moved
        rwa [← List.take_add, ← Nat.succ_mul] at hboth
    · rintro _ ⟨⟩
  | write buffer =>
    cases hdirection
    obtain ⟨hdata, hmoved⟩ := h.write_eq buffer rfl
    have hroom : blocks * blockSize.toNat = buffer.size := hsize.symm
    have hfits : scene.request.command.cursor + scene.request.command.blockSize.toNat ≤
        buffer.size := by
      rw [hcursor]
      omega
    obtain ⟨after, hblock⟩ := Transfer.run_moveBlock_write port
      (t := { slot := scene.slot, request := scene.request.beginStep }) hdata hfits scene.state
    refine issue_of_moveBlock h htype hlt hflow hblock ?_ ?_
    · rintro _ ⟨⟩
    · rintro _ ⟨⟩
      -- what went before and the block at the cursor are one run of the buffer
      have hboth := hmoved.trans hblock.moved
      have hgiven : buffer.toList.take (moved * blockSize.toNat) ++
          (buffer.toList.drop scene.request.command.cursor).take
            scene.request.command.blockSize.toNat =
          buffer.toList.take ((moved + 1) * blockSize.toNat) := by
        rw [h.cursor_eq, h.blockSize_eq, ← List.take_add, Nat.succ_mul]
      exact ⟨hdata, hgiven ▸ hboth⟩

/-- Once all blocks were moved, an issue is refused without a look at the surroundings. -/
theorem issue_refused (h : BlocksMoved port blockSize blocks data state moved scene)
    (htype : scene.request.requestType = .startTransfer) (hmoved : blocks ≤ moved) :
    scene.issue host =
      .ok (.error .notSupported, { scene with request := scene.request.beginStep }) := by
  -- no block is left, which is looked at before anything else
  have hcount : scene.request.command.blockCount = 0 := by
    apply BitVec.eq_of_toNat_eq
    rw [h.blockCount_eq]
    exact Nat.sub_eq_zero_of_le hmoved
  exact Scene.issue_startTransfer htype h.method_eq h.bounce_eq
    (congrArg (fun program => program.run host scene.state)
      (Transfer.start_continuePio_zero
        (t := { slot := scene.slot, request := scene.request.beginStep }) hcount))

/-- A run moves one block with each issue, up to the last. -/
theorem of_run {sent : Scene σ} {direction : Direction} {k : Nat}
    (h : BlocksMoved port blockSize blocks data state 0 sent)
    (hsize : data.size = blocks * blockSize.toNat) (hdirection : data.direction = some direction)
    (hinput : direction = .read → blocks * blockSize.toNat ≤ (port.input state).length)
    (hrun : PioRun port sent k scene) :
    BlocksMoved port blockSize blocks data state (min k blocks) scene := by
  -- induction on the issues: up to the last block each moves one, and those after it are refused
  induction hrun with
  | sent =>
    rw [Nat.zero_min]
    exact h
  | @next k scene again scene' result hrun hagain hissue ih =>
    have hready := ih.reissued hagain
    rcases Nat.lt_or_ge k blocks with hlt | hge
    · rw [Nat.min_eq_left hlt.le] at hready
      obtain ⟨scene'', hpending, hmoved, -⟩ :=
        hready.issue hagain.type_eq hlt hsize hdirection hinput
      rw [hpending] at hissue
      cases hissue
      rwa [Nat.min_eq_left hlt]
    -- nothing changed but what the step reports
    · rw [Nat.min_eq_right hge] at hready
      rw [hready.issue_refused hagain.type_eq (Nat.le_refl _)] at hissue
      cases hissue
      rw [Nat.min_eq_right (Nat.le_succ_of_le hge)]
      exact hready.reissued ⟨rfl, rfl, hagain.type_eq, FifoPort.Moved.refl _⟩

/-- Sending a command whose data phase is not bounced leaves all blocks to be moved. -/
theorem exists_sent (port : FifoPort host) {slot : Slot} (base : Command) {direction : Direction}
    (hblockSize : 1 ≤ blockSize.toNat ∧ blockSize.toNat ≤ 2048)
    (hblocks : 1 ≤ blocks ∧ blocks ≤ 65535) (hmethod : base.method = .pio)
    (hcursor : base.cursor = 0) (hsize : data.size = blocks * blockSize.toNat)
    (hdirection : data.direction = some direction)
    (hbounce : slot.Unbounced host state data.size) :
    ∃ sent, Scene.issue { slot, request := .new (base.withBuffer blockSize data), state } host =
        .ok (.ok .pending, sent) ∧
      BlocksMoved port blockSize blocks data state 0 sent := by
  -- a buffer that came with the command makes it one with a data phase
  have htype : (base.withBuffer blockSize data).transferType ≠ .none := by
    show (if _ then _ else _) ≠ _
    split <;> simp
  have hcheck : (base.withBuffer blockSize data).checkDataPhase = .ok direction :=
    Command.checkDataPhase_withBuffer _ hblockSize.1 hblockSize.2 hblocks.1 hblocks.2 hsize
      hdirection
  have hcount : (base.withBuffer blockSize data).blockCount.toNat = blocks := by
    show (Command.blocksIn data.size blockSize).toNat = blocks
    rw [hsize, Command.toNat_blocksIn hblockSize.1 hblocks.2]
  have hnew : (Request.new (base.withBuffer blockSize data)).requestType ≠ .startTransfer :=
    Request.requestType_new_ne _
  -- the step begins with nothing reported, which the command does not depend on
  obtain ⟨after, hsend⟩ := Transfer.run_sendCommand port
    (t := { slot, request := (Request.new (base.withBuffer blockSize data)).beginStep })
    htype hmethod hcheck (Nat.le_refl _) hbounce
  refine ⟨_, Scene.issue_command hnew hsend.run_eq, ?_⟩
  exact {
    bounce_eq := rfl
    method_eq := hmethod
    direction_eq := rfl
    blockSize_eq := rfl
    cursor_eq := hcursor.trans (Nat.zero_mul _).symm
    blockCount_eq := hcount
    read_eq := fun buffer hread => ⟨buffer, hread, by simp, by simpa using hsend.moved⟩
    write_eq := fun buffer hwrite => ⟨hwrite, by simpa using hsend.moved⟩ }

end BlocksMoved

/-- A data phase through the data window, from the command to the last block and beyond.

The command is sent, and what it has yet to move is the whole buffer. Each issue after it, however
long it takes to come, moves the next block, reports that the step waits for an interrupt, and waits
for the next block or, after the last, for the end of the data phase. Further issues are refused
without touching the data window. At no time is there a fault. -/
theorem pio_data_phase {host : Host σ} (port : FifoPort host) (slot : Slot) (state : σ)
    (index : Byte) (argument : Word) (responseType : ResponseType) (commandType : CommandType)
    (blockSize : HalfWord) (blocks : Nat) (data : DataBuffer) (direction : Direction)
    (hblockSize : 1 ≤ blockSize.toNat ∧ blockSize.toNat ≤ 2048)
    (hblocks : 1 ≤ blocks ∧ blocks ≤ 65535)
    (hsize : data.size = blocks * blockSize.toNat) (hdirection : data.direction = some direction)
    (hinput : direction = .read → blocks * blockSize.toNat ≤ (port.input state).length)
    (hbounce : slot.Unbounced host state data.size) :
    let command : Command :=
      ({ index, argument, responseType, commandType } : Command).withBuffer blockSize data
    ∃ sent, Scene.issue { slot, request := .new command, state } host = .ok (.ok .pending, sent) ∧
      ∀ k scene, PioRun port sent k scene →
        BlocksMoved port blockSize blocks data state (min k blocks) scene ∧
        ∀ again, Reissued port scene again →
          (k < blocks → ∃ scene', again.issue host = .ok (.ok .pending, scene') ∧
            scene'.request.status =
              (if k + 1 < blocks then .moreProcessingRequired else .success) ∧
            scene'.request.requiredEvents = again.request.requiredEvents |||
              (if k + 1 < blocks then Transfer.bufferReady direction
                else Transfer.transferComplete)) ∧
          (blocks ≤ k → again.issue host =
            .ok (.error .notSupported, { again with request := again.request.beginStep })) := by
  intro command
  -- the invariant holds once the command is sent, and every run keeps it
  obtain ⟨sent, hissue, hsent⟩ := BlocksMoved.exists_sent port
    { index, argument, responseType, commandType } hblockSize hblocks rfl rfl hsize
    hdirection hbounce
  refine ⟨sent, hissue, fun k scene hrun => ?_⟩
  have hmoved := hsent.of_run hsize hdirection hinput hrun
  refine ⟨hmoved, fun again hagain => ⟨fun hlt => ?_, fun hge => ?_⟩⟩
  -- the next issue moves a block or is refused, depending on whether one is left
  · rw [Nat.min_eq_left hlt.le] at hmoved
    obtain ⟨scene', hpending, -, hstatus, hevents⟩ :=
      (hmoved.reissued hagain).issue hagain.type_eq hlt hsize hdirection hinput
    exact ⟨scene', hpending, hstatus, hevents⟩
  · rw [Nat.min_eq_right hge] at hmoved
    exact (hmoved.reissued hagain).issue_refused hagain.type_eq (Nat.le_refl _)

/-- Two blocks of five bytes, read on the bench to the last of them. -/
theorem pio_data_phase_two_blocks :
    ∃ (world : Bench.World) (sent scene : Scene Bench.World),
      world.registers.input = [1, 2, 3, 4, 5, 6, 7, 8, 9, 10, 11] ∧
      Scene.issue {
        slot := { controller := .standard false }
        request := .new (({ index := 18, argument := 0, responseType := .r1 } : Command).withBuffer
          5 (.read (Memory.zeroed 10)))
        state := world } Bench.World.host = .ok (.ok .pending, sent) ∧
      PioRun Bench.World.fifoPort sent 2 scene ∧
      BlocksMoved Bench.World.fifoPort 5 2 (.read (Memory.zeroed 10)) world 2 scene := by
  -- the bench has one byte more in its data window than the two blocks take
  let world : Bench.World :=
    { registers :=
        { bytes := Memory.zeroed registerBlockSize, input := [1, 2, 3, 4, 5, 6, 7, 8, 9, 10, 11] } }
  obtain ⟨sent, hsent, hrun⟩ := pio_data_phase Bench.World.fifoPort
    { controller := .standard false } world 18 0 .r1 .normal 5 2 (.read (Memory.zeroed 10)) .read
    (by decide) (by decide) (by decide) rfl (fun _ => by decide) (.inl rfl)
  have hfirst := Reissued.at_once Bench.World.fifoPort sent
  obtain ⟨middle, hmiddle, -⟩ := ((hrun 0 sent .sent).2 _ hfirst).1 (by decide)
  have hone := PioRun.next .sent hfirst hmiddle
  have hsecond := Reissued.at_once Bench.World.fifoPort middle
  obtain ⟨scene, hscene, -⟩ := ((hrun 1 middle hone).2 _ hsecond).1 (by decide)
  have htwo := PioRun.next hone hsecond hscene
  exact ⟨world, sent, scene, rfl, hsent, htwo, (hrun 2 scene htwo).1⟩

end SdHost
