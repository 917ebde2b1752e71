import SdHost.Proofs.Host.Along
import SdHost.Proofs.Request.Made
import SdHost.Proofs.Transfer.Bounced
import SdHost.Proofs.Transfer.Length

/-!
# Commands that are refused

A command can be refused in many places while its data phase is set up, some of them after something was
done already. None of these is reached once bounce pages were allocated or prepared, or once a register
was written, for no caller can have a request that gets there.

The module introduces:

* `Command.Movable`: what the data phase of a command has to be like for the processor to move it;
* `Event.OffersEnough`: what is promised of an allocator.

`command_refused_or_sent` says that a refused command leaves no trace, and which commands are refused
if the processor is to move their data.
-/

namespace SdHost

/-! ## What is refused -/

/-- The data phase of a command is one that the processor can move: it flows some way, in at least one
block of a size that the registers can describe, the blocks make up its length, and its buffer is at
least that long. -/
structure Command.Movable (command : Command) : Prop where
  /-- The data flows some way. -/
  direction_ne : command.direction ≠ none
  /-- A block has at least one byte. -/
  blockSize_pos : 1 ≤ command.blockSize.toNat
  /-- The register for the size of a block can hold it. -/
  blockSize_le : command.blockSize.toNat ≤ 2048
  /-- There is at least one block. -/
  blockCount_pos : 1 ≤ command.blockCount.toNat
  /-- The blocks make up the data phase. -/
  length_eq : command.length = command.blockSize.toNat * command.blockCount.toNat
  /-- The buffer has room for it. -/
  length_le : command.length ≤ command.data.size

/-- An allocator that hands out a buffer is to hand out one with at least as many bytes as it was asked
for. -/
def Event.OffersEnough (event : Event) : Prop :=
  ∀ size buffer, event = ⟨.allocate size, some buffer⟩ → size ≤ buffer.data.size

namespace Command

variable {command : Command}

theorem checkBlocks_eq_ok_iff :
    command.checkBlocks = .ok () ↔ 1 ≤ command.blockSize.toNat ∧ 1 ≤ command.blockCount.toNat ∧
      command.length = command.blockSize.toNat * command.blockCount.toNat := by
  rw [checkBlocks]
  split
  next hbad =>
    refine ⟨by rintro ⟨⟩, ?_⟩
    rintro ⟨hsize, -, hlength⟩
    rcases hbad with hzero | hpart
    · omega
    · exact absurd (hlength ▸ Nat.mul_mod_right _ _) hpart
  next hwhole =>
    obtain ⟨hsize, hpart⟩ := not_or.mp hwhole
    have hmul : command.blockSize.toNat * (command.length / command.blockSize.toNat) =
        command.length := Nat.mul_div_cancel' (Nat.dvd_of_mod_eq_zero (not_not.mp hpart))
    dsimp only
    split
    next hcount =>
      refine ⟨fun _ => ⟨by omega, hcount.2 ▸ hcount.1, ?_⟩, fun _ => rfl⟩
      rw [← hcount.2, hmul]
    next hcount =>
      refine ⟨by rintro ⟨⟩, ?_⟩
      rintro ⟨-, hpos, hlength⟩
      refine absurd ?_ hcount
      rw [hlength, Nat.mul_div_cancel_left _ (by omega)]
      exact ⟨by omega, rfl⟩

/-- What passes the check is a data phase that the registers can describe. -/
theorem checkDataPhase_eq_ok_iff {direction : Direction} :
    command.checkDataPhase = .ok direction ↔ command.direction = some direction ∧
      command.blockSize.toNat ≤ 2048 ∧ command.checkBlocks = .ok () := by
  rw [checkDataPhase]
  split
  next hlarge =>
    refine ⟨by rintro ⟨⟩, ?_⟩
    rintro ⟨-, hle, -⟩
    exact absurd hle (Nat.not_le.mpr hlarge)
  next hfits =>
    have hle : command.blockSize.toNat ≤ 2048 := Nat.le_of_not_lt hfits
    cases hblocks : command.checkBlocks with
    | error cause => simp [bind, Except.bind]
    | ok =>
      cases hdirection : command.direction with
      | none => simp [bind, Except.bind, throw, throwThe, MonadExceptOf.throw]
      | some towards => simp [bind, Except.bind, pure, Except.pure, hle]

theorem movable_iff : command.Movable ↔
    (∃ direction, command.checkDataPhase = .ok direction) ∧ command.length ≤ command.data.size := by
  simp only [checkDataPhase_eq_ok_iff, checkBlocks_eq_ok_iff]
  constructor
  · intro h
    obtain ⟨direction, hdirection⟩ := Option.ne_none_iff_exists'.mp h.direction_ne
    exact ⟨⟨direction, hdirection, h.blockSize_le, h.blockSize_pos, h.blockCount_pos, h.length_eq⟩,
      h.length_le⟩
  · rintro ⟨⟨direction, hdirection, hle, hsize, hcount, hlength⟩, hroom⟩
    exact ⟨by simp [hdirection], hsize, hle, hcount, hlength, hroom⟩

theorem Movable.length_pos (h : command.Movable) : 0 < command.length := by
  rw [h.length_eq]
  exact Nat.mul_pos h.blockSize_pos h.blockCount_pos

/-- Such a data phase is far from too long to be counted. -/
theorem Movable.length_lt (h : command.Movable) : command.length < 0x10000000 := by
  have hcount : command.blockCount.toNat ≤ 0xFFFF := Nat.le_of_lt_succ command.blockCount.isLt
  calc command.length = command.blockSize.toNat * command.blockCount.toNat := h.length_eq
    _ ≤ 2048 * 0xFFFF := Nat.mul_le_mul h.blockSize_le hcount
    _ < 0x10000000 := by decide

/-- What is to be written can be cut out of the buffer. -/
theorem Movable.exists_source (h : command.Movable) (hfits : command.BufferFits)
    (hdirection : command.direction = some .write) :
    ∃ source, (command.writeBuffer?.bind fun buffer =>
      Memory.slice? buffer 0 command.length) = some source := by
  have hpos := h.length_pos
  have hroom := h.length_le
  rcases hfits with hnone | hsame
  · -- a buffer that is not there has no room
    rw [hnone] at hroom
    exact absurd (hpos.trans_le hroom) (Nat.lt_irrefl 0)
  rw [hdirection] at hsame
  cases hdata : command.data with
  | none => simp [hdata, DataBuffer.direction] at hsame
  | read memory => simp [hdata, DataBuffer.direction] at hsame
  | write memory =>
    rw [hdata] at hroom
    have hslice : 0 + command.length ≤ memory.size := (Nat.zero_add _).symm ▸ hroom
    simp [writeBuffer?, hdata, Memory.slice?_of_le hslice]

end Command

/-! ## What is accepted -/

theorem Slot.wholePages_of_lt {length : Nat} (h : length < 0x10000000) :
    ∃ pages, Slot.wholePages length = .ok (pages * pageSize) ∧ length ≤ pages * pageSize := by
  have hround : length ≤ (length + (pageSize - 1)) / pageSize * pageSize ∧
      (length + (pageSize - 1)) / pageSize * pageSize < length + pageSize := by
    simp only [pageSize]
    omega
  refine ⟨(length + (pageSize - 1)) / pageSize, ?_, hround.1⟩
  rw [Slot.wholePages, if_pos]
  simp only [pageSize] at hround ⊢
  omega

namespace Transfer

variable {Allowed : Event → Prop} {command : Command} {direction : Direction}

/-- Asking for bounce pages comes to an end, and with an allocator that offers enough, pages that are
got have room for the data. -/
theorem ensures_allocateBounce_room (slot : Slot) {length : Nat} (hlength : length < 0x10000000) :
    (slot.allocateBounce length).run.Ensures Allowed fun events outcome =>
      ∃ result, outcome = .ok result ∧ ((∀ event ∈ events, event.OffersEnough) →
        ∀ slot', result = .ok slot' → ∃ pages, slot'.bounce = some pages ∧
          length ≤ pages.capacity) := by
  obtain ⟨count, hwhole, hcount⟩ := Slot.wholePages_of_lt hlength
  rw [Slot.run_allocateBounce, hwhole]
  rintro (_ | buffer) _
  · exact ⟨_, rfl, by rintro _ _ ⟨⟩⟩
  dsimp only
  cases hnew : BouncePages.new buffer slot.busOffset with
  | error refused =>
    intro _ _
    exact ⟨_, rfl, by rintro _ _ ⟨⟩⟩
  | ok pages =>
    obtain ⟨-, -, hcapacity, -⟩ := BouncePages.covers_new hnew
    -- as many whole pages as were asked for are in the buffer
    have hroom : ∀ {events : List Event},
        (∀ event ∈ ⟨.allocate (count * pageSize), some buffer⟩ :: events, event.OffersEnough) →
        length ≤ pages.capacity := by
      intro events hoffers
      have hsize : count * pageSize ≤ buffer.data.size := hoffers _ List.mem_cons_self _ _ rfl
      rw [hcapacity]
      exact hcount.trans (Nat.mul_le_mul_right _ ((Nat.le_div_iff_mul_le (by decide)).mpr hsize))
    obtain _ | before := slot.bounce
    · refine ⟨_, rfl, fun hoffers => ?_⟩
      rintro _ ⟨⟩
      exact ⟨pages, rfl, hroom hoffers⟩
    · intro _ _
      refine ⟨_, rfl, fun hoffers => ?_⟩
      rintro _ ⟨⟩
      exact ⟨pages, rfl, hroom hoffers⟩

/-- Reserving pages never fails, and with an allocator that offers enough, pages that were reserved have
room for the data. -/
theorem ensures_reservePages_room (t : Transfer) {length : Nat} (hlength : length < 0x10000000) :
    ((reservePages length).start t).Ensures Allowed fun events outcome =>
      ∃ reserved t', outcome = .ok (.ok reserved, t') ∧
        ((∀ event ∈ events, event.OffersEnough) → reserved = true →
          ∀ pages, t'.slot.bounce = some pages → length ≤ pages.capacity) := by
  rw [start_reservePages]
  split
  · exact ⟨false, t, rfl, by rintro _ ⟨⟩⟩
  split
  next hany =>
    refine ⟨true, t, rfl, fun _ _ pages hpages => ?_⟩
    simpa [Slot.bounceCapacity, hpages] using hany
  · rw [Program.ensures_bind]
    refine (ensures_allocateBounce_room t.slot hlength).mono ?_
    rintro events _ ⟨cause | slot, rfl, hroom⟩
    · exact ⟨false, t, rfl, by rintro _ ⟨⟩⟩
    · refine ⟨true, _, rfl, fun hoffers _ pages hpages => ?_⟩
      rw [List.append_nil] at hoffers
      obtain ⟨allocated, hallocated, hle⟩ := hroom hoffers slot rfl
      cases hallocated.symm.trans hpages
      exact hle

/-- The outcome is no refusal, and with an allocator that offered enough it is a success. -/
def Granted {α : Type} (events : List Event) (outcome : Except Fault (Except Error α × Transfer)) :
    Prop :=
  (∀ cause t, outcome ≠ .ok (.error cause, t)) ∧
    ((∀ event ∈ events, event.OffersEnough) → ∃ value t, outcome = .ok (.ok value, t))

theorem granted_ok {α : Type} (events : List Event) (value : α) (t : Transfer) :
    Granted events (.ok (.ok value, t)) :=
  ⟨by rintro _ _ ⟨⟩, fun _ => ⟨value, t, rfl⟩⟩

/-- A data phase that the processor can move may go through bounce pages that have room for it. -/
theorem ensures_setUpBounce_of_movable (h : command.Movable) (hfits : command.BufferFits)
    (hdirection : command.direction = some direction) {pages : BouncePages} {before : List Event}
    (hroom : (∀ event ∈ before, event.OffersEnough) → command.length ≤ pages.capacity)
    (t : Transfer) :
    ((setUpBounce pages command direction).start t).Ensures Allowed fun events outcome =>
      Granted (before ++ events) outcome := by
  cases hprepare : pages.prepare command.length with
  | error cause =>
    -- pages with too little room are none that came from a good allocator
    simp only [setUpBounce, hprepare, Task.start_bind, Task.start_ofExcept_error,
      Program.fault_bind, Program.ensures_fault, List.append_nil]
    refine ⟨by rintro _ _ ⟨⟩, fun hoffers => ?_⟩
    rw [BouncePages.prepare, if_pos ⟨h.length_pos, hroom hoffers⟩] at hprepare
    cases hprepare
  | ok prepared =>
    cases direction with
    | read =>
      rw [start_setUpBounce_read hprepare]
      exact fun _ _ => granted_ok _ _ _
    | write =>
      obtain ⟨source, hsource⟩ := h.exists_source hfits hdirection
      rw [start_setUpBounce_write hprepare hsource]
      exact fun _ _ => granted_ok _ _ _

/-- A data phase that the processor can move is not refused, whatever is done to have it go through
bounce pages. -/
theorem ensures_setUpPio_of_movable (h : command.Movable) (hfits : command.BufferFits)
    (hdirection : command.direction = some direction) (t : Transfer) :
    ((setUpPio command direction).start t).Ensures Allowed Granted := by
  rw [start_setUpPio h.length_le, Program.ensures_bind]
  refine (ensures_reservePages_room t h.length_lt).mono ?_
  rintro events _ ⟨reserved, t', rfl, hroom⟩
  dsimp only
  cases reserved with
  | false => exact granted_ok _ _ _
  | true =>
    cases hbounce : t'.slot.bounce with
    | none => exact granted_ok _ _ _
    | some pages =>
      exact ensures_setUpBounce_of_movable h hfits hdirection
        (fun hoffers => hroom hoffers rfl pages hbounce) t'

/-- The same for the whole data phase, which includes the check. -/
theorem ensures_setUpDataPhase_of_movable (h : command.Movable) (hfits : command.BufferFits)
    (hmethod : command.method = .pio) (htype : command.transferType ≠ .none) (t : Transfer) :
    ((setUpDataPhase command).start t).Ensures Allowed Granted := by
  obtain ⟨⟨direction, hcheck⟩, -⟩ := Command.movable_iff.mp h
  rw [start_setUpDataPhase_pio htype hmethod hcheck, Program.ensures_bind]
  refine (ensures_setUpPio_of_movable h hfits (of_checkDataPhase hcheck).1 t).mono ?_
  rintro events (cause | ⟨cause | phase, t'⟩) ⟨hrefused, hoffers⟩
  · exact ⟨by rintro _ _ ⟨⟩, fun hevents => by obtain ⟨_, _, ⟨⟩⟩ := hoffers hevents⟩
  · exact absurd rfl (hrefused cause t')
  · exact granted_ok _ _ _

/-- The memory for the table of a scatter/gather list may have been written, and that is all. -/
def Untouched (t t' : Transfer) : Prop :=
  ∃ table, t' = { t with request.command.table := table } ∧
    (table = t.request.command.table ∨
      t.request.command.method = .scatterGather ∧ t.request.command.TableWritten table)

theorem untouched_refl (t : Transfer) : t.Untouched t :=
  ⟨_, rfl, .inl rfl⟩

/-- A data phase that is refused is refused before anything is asked. -/
theorem ensures_setUpDataPhase_unasked {t : Transfer} (hfits : t.request.command.BufferFits) :
    ((setUpDataPhase t.request.command).start t).Ensures Allowed fun events outcome =>
      ∀ cause t', outcome = .ok (.error cause, t') → events = [] ∧ t.Untouched t' := by
  by_cases htype : t.request.command.transferType = .none
  · rw [start_setUpDataPhase_none htype]
    rintro _ _ ⟨⟩
  cases hcheck : t.request.command.checkDataPhase with
  | error cause =>
    rw [start_setUpDataPhase_refused htype hcheck]
    rintro _ _ ⟨⟩
    exact ⟨rfl, t.untouched_refl⟩
  | ok direction =>
  cases hmethod : t.request.command.method with
  | pio =>
    by_cases hroom : t.request.command.length ≤ t.request.command.data.size
    · have hmovable := Command.movable_iff.mpr ⟨⟨direction, hcheck⟩, hroom⟩
      refine (ensures_setUpDataPhase_of_movable hmovable hfits hmethod htype t).mono ?_
      rintro events _ ⟨hrefused, -⟩ cause t' rfl
      exact absurd rfl (hrefused cause t')
    · rw [start_setUpDataPhase_pio htype hmethod hcheck,
        start_setUpPio_of_lt (Nat.lt_of_not_le hroom)]
      rintro _ _ ⟨⟩
      exact ⟨rfl, t.untouched_refl⟩
  | scatterGather =>
    rw [start_setUpDataPhase_scatterGather htype hmethod hcheck, Program.ensures_bind]
    refine (ensures_setUpScatterGather t.request.command t).mono ?_
    rintro events (cause | ⟨cause | phase, t'⟩) hset
    · rintro _ _ ⟨⟩
    · obtain ⟨rfl, table, rfl, htable⟩ := hset
      rintro _ _ ⟨⟩
      exact ⟨rfl, table, rfl, htable.imp_right fun hwritten => ⟨hmethod, hwritten⟩⟩
    · rintro _ _ ⟨⟩

/-! ## Sending the command -/

/-- A command whose data the processor can move is sent, unless the allocator breaks its promise. -/
theorem ensures_sendCommand_of_movable {t : Transfer} (h : t.request.command.Movable)
    (hfits : t.request.command.BufferFits) (hmethod : t.request.command.method = .pio)
    (htype : t.request.command.transferType ≠ .none) :
    (sendCommand.start t).Ensures Allowed Granted := by
  refine ensures_sendCommand_of_setUp ?_
  refine (ensures_setUpDataPhase_of_movable h hfits hmethod htype t.fresh).mono ?_
  rintro events (cause | ⟨cause | phase, t'⟩) ⟨hrefused, hoffers⟩
  · exact ⟨by rintro _ _ ⟨⟩, fun hevents => by obtain ⟨_, _, ⟨⟩⟩ := hoffers hevents⟩
  · exact absurd rfl (hrefused cause t')
  · exact granted_ok _ _ _

/-- A command that is refused is refused before anything is asked. -/
theorem ensures_sendCommand_unasked {t : Transfer} (hfits : t.request.command.BufferFits) :
    (sendCommand.start t).Ensures Allowed fun events outcome =>
      ∀ cause t', outcome = .ok (.error cause, t') → events = [] ∧ t.fresh.Untouched t' := by
  refine ensures_sendCommand_of_setUp ?_
  refine (ensures_setUpDataPhase_unasked (t := t.fresh) hfits).mono ?_
  rintro events (cause | ⟨cause | phase, t'⟩) hrefused
  · rintro _ _ ⟨⟩
  · rintro _ _ ⟨⟩
    exact hrefused cause t' rfl
  · rintro _ _ ⟨⟩

end Transfer

namespace Slot

variable {σ : Type} {host : Host σ} {slot slot' : Slot} {request request' : Request}
  {cause : Error} {state after : σ}

/-- A step that ends in this way is one in which a command was refused. -/
theorem unasked_of_issueRequest (hfits : request.command.BufferFits)
    (htype : request.requestType ≠ .startTransfer)
    (hrun : (slot.issueRequest request).run host state =
      (.ok (.error cause, slot', request'), after)) :
    (slot.issueRequest request).history host state = [] ∧
      (Transfer.begun { slot, request }).fresh.Untouched { slot := slot', request := request' } := by
  have hsend := run_step_of_issueRequest hrun
  rw [Transfer.start_step, if_neg htype] at hsend
  rw [issueRequest_eq_sendCommand htype, Program.history_bind_done]
  exact (Transfer.ensures_sendCommand_unasked (t := Transfer.begun { slot, request })
    hfits).of_run hsend cause _ rfl

/-- A data phase that the processor cannot move is refused. -/
theorem issueRequest_of_not_movable (slot : Slot) (htype : request.requestType ≠ .startTransfer)
    (hmethod : request.command.method = .pio) (hdata : request.command.transferType ≠ .none)
    (hmovable : ¬ request.command.Movable) :
    ∃ slot' request', slot.issueRequest request = .done (.error .notSupported, slot', request') := by
  refine issueRequest_of_refused htype fun t => ?_
  rcases Transfer.checkDataPhase_cases request.command with hrefused | ⟨direction, hcheck, -, -⟩
  · exact Transfer.start_setUpDataPhase_refused hdata hrefused t
  · -- the blocks are right, so it is the buffer that is too short
    have hshort : request.command.data.size < request.command.length := by
      refine Nat.lt_of_not_le fun hroom => hmovable ?_
      exact Command.movable_iff.mpr ⟨⟨direction, hcheck⟩, hroom⟩
    rw [Transfer.start_setUpDataPhase_pio hdata hmethod hcheck, Transfer.start_setUpPio_of_lt hshort]
    rfl

/-- A command whose data has to go through more pages than there are asks for them first. -/
theorem head?_history_of_lt {size : Nat} (htype : request.requestType ≠ .startTransfer)
    (hmethod : request.command.method = .pio) (hdata : request.command.transferType ≠ .none)
    (hmovable : request.command.Movable) (hbounce : slot.controller.usesBounce = true)
    (hlong : slot.options.pioThreshold < request.command.length)
    (hfew : ∀ capacity ∈ slot.bounceCapacity, capacity < request.command.length)
    (hsize : wholePages request.command.length = .ok size) (state : σ) :
    ((slot.issueRequest request).history host state).head? =
      some ⟨.allocate size, (host.answer (.allocate size) state).1⟩ := by
  obtain ⟨⟨direction, hcheck⟩, hroom⟩ := Command.movable_iff.mp hmovable
  have hcommand : (Transfer.begun { slot, request }).request.command = request.command := rfl
  let fresh := (Transfer.begun { slot, request }).fresh
  obtain ⟨next, hreserve⟩ :
      ∃ next, (Transfer.reservePages request.command.length).start fresh = .ask (.allocate size) next :=
    Transfer.exists_start_reservePages_of_lt hbounce hlong hfew hsize
  rw [issueRequest_eq_sendCommand htype, Program.history_bind_done, Transfer.start_sendCommand,
    hcommand, Transfer.start_setUpDataPhase_pio hdata hmethod hcheck, Transfer.start_setUpPio hroom,
    hreserve]
  rfl

end Slot

/-- **A command that is refused leaves no trace.** Take any request that a caller can have, and any slot
in any state. If the command of the request is refused, nothing was asked of the surroundings: no
register was accessed, nothing was allocated or given back, and the framework was told nothing. The slot
is as it was, its bounce pages included, except that nothing goes through them any more. The request is
as it was too, except that its step begins anew. Where there is a scatter/gather list, the memory that
was provided for its table may have been written.

If the processor is to move the data of the command, it is refused just if the processor cannot. Else it
is accepted, as long as the allocator keeps its promise. -/
theorem command_refused_or_sent {σ : Type} {host : Host σ} {request : Request}
    (hmade : request.Made host) (htype : request.requestType ≠ .startTransfer) (slot : Slot)
    (state : σ) :
    (∀ (cause : Error) (slot' : Slot) (request' : Request) (after : σ),
      (slot.issueRequest request).run host state = (.ok (.error cause, slot', request'), after) →
      (slot.issueRequest request).history host state = [] ∧ after = state ∧
      slot' = { slot with bounceInProgress := none } ∧
      ∃ table,
        request' =
          { request with completions := 0, status := .success, command.table := table } ∧
        (table = request.command.table ∨
          request.command.method = .scatterGather ∧ request.command.TableWritten table)) ∧
    (request.command.method = .pio → request.command.transferType ≠ .none →
      ((∃ cause slot' request' after,
          (slot.issueRequest request).run host state =
            (.ok (.error cause, slot', request'), after)) ↔ ¬ request.command.Movable) ∧
      ((∀ event ∈ (slot.issueRequest request).history host state, event.OffersEnough) →
        ((∃ progress slot' request' after,
          (slot.issueRequest request).run host state =
            (.ok (.ok progress, slot', request'), after)) ↔ request.command.Movable))) := by
  have hfits := Request.bufferFits_of_made hmade
  refine ⟨fun cause slot' request' after hrun => ?_, fun hmethod hdata => ?_⟩
  · obtain ⟨hhistory, table, hafter, htable⟩ := Slot.unasked_of_issueRequest hfits htype hrun
    cases hafter
    refine ⟨hhistory, ?_, rfl, table, rfl, htable⟩
    -- without a question nothing changes outside either
    have hspares : ∀ event ∈ (slot.issueRequest request).history host state,
        event.Spares host id := hhistory ▸ List.forall_mem_nil _
    have hview := Program.view_of_history _ state hspares
    rwa [hrun] at hview
  · have hany : host.Always fun _ => True := fun _ _ => trivial
    have hgranted (hmovable : request.command.Movable) :=
      (Transfer.ensures_sendCommand_of_movable (t := Transfer.begun { slot, request }) hmovable hfits
        hmethod hdata).run hany state
    have hrefused (hmovable : ¬ request.command.Movable) : ∃ slot' request',
        (slot.issueRequest request).run host state =
          (.ok (.error .notSupported, slot', request'), state) := by
      obtain ⟨slot', request', heq⟩ := slot.issueRequest_of_not_movable htype hmethod hdata hmovable
      exact ⟨slot', request', congrArg (Program.run host · state) heq⟩
    refine ⟨⟨?_, fun hmovable => ?_⟩, fun hoffers => ⟨?_, fun hmovable => ?_⟩⟩
    · rintro ⟨cause, slot', request', after, hrun⟩ hmovable
      have hsend := Slot.run_step_of_issueRequest hrun
      rw [Transfer.start_step, if_neg htype] at hsend
      have hnot := (hgranted hmovable).1 cause { slot := slot', request := request' }
      rw [hsend] at hnot
      exact hnot rfl
    · obtain ⟨slot', request', hrun⟩ := hrefused hmovable
      exact ⟨_, slot', request', state, hrun⟩
    · rintro ⟨progress, slot', request', after, hrun⟩
      by_contra hmovable
      obtain ⟨_, _, hrun'⟩ := hrefused hmovable
      cases hrun.symm.trans hrun'
    · rw [Slot.issueRequest_eq_sendCommand htype, Program.history_bind_done] at hoffers
      obtain ⟨progress, t, houtcome⟩ := (hgranted hmovable).2 hoffers
      obtain ⟨after, hrun⟩ : ∃ after, (Transfer.sendCommand.start
          (Transfer.begun { slot, request })).run host state = (.ok (.ok progress, t), after) :=
        ⟨_, Prod.ext houtcome rfl⟩
      refine ⟨progress, t.slot, t.request, after, ?_⟩
      rw [Slot.issueRequest_eq_sendCommand htype, Program.run_bind_of_ok hrun]
      rfl

/-! ## A slot with one page, on a bench that has more -/

namespace Bench.World

theorem allocator_answer (query : Query) (world : World) :
    (host.answer query world).2.allocator = world.allocator := by
  cases query with
  | streamWrite bytes =>
    simp only [host, answer]
    split <;> rfl
  | streamFlush =>
    simp only [host, answer, flush]
    split
    · rfl
    · split <;> rfl
  | streamRead room =>
    simp only [host, answer]
    split <;> rfl
  | allocate length =>
    simp only [host, answer, allocate]
    split
    · rfl
    · split <;> rfl
  | _ => rfl

/-- The bench keeps the promise of an allocator, unless it is told to shrink what it hands out. -/
theorem offersEnough_answer {world : World}
    (hshrink : ∀ allocator ∈ world.allocator, allocator.shrink = 0) (query : Query) :
    Event.OffersEnough ⟨query, (host.answer query world).1⟩ := by
  rintro size buffer hevent
  obtain rfl : query = .allocate size := congrArg Event.query hevent
  have hreply : (world.allocate size).1 = some buffer := eq_of_heq (Event.mk.inj hevent).2
  rw [World.allocate] at hreply
  split at hreply
  next => cases hreply
  next allocator hallocator =>
    rw [Allocator.allocate?, hshrink allocator hallocator] at hreply
    by_cases hlimit : allocator.limit < size
    · rw [if_pos hlimit] at hreply
      cases hreply
    · rw [if_neg hlimit] at hreply
      cases hreply
      exact Array.size_replicate.ge

/-- It does so all through a run, for nothing that is asked of it changes the allocator. -/
theorem offersEnough_history {α : Type} (program : Program α) {world : World}
    (hshrink : ∀ allocator ∈ world.allocator, allocator.shrink = 0) :
    ∀ event ∈ program.history host world, event.OffersEnough := by
  have hkept : ∀ event ∈ program.history host world, ∀ later : World,
      (∀ allocator ∈ later.allocator, allocator.shrink = 0) →
      ∀ allocator ∈ (host.answer event.query later).2.allocator, allocator.shrink = 0 := by
    intro event _ later hlater
    rwa [allocator_answer]
  exact Program.mem_history_of_along (fun query later hlater => offersEnough_answer hlater query)
    (Program.along_of_history program hkept hshrink).1

end Bench.World

namespace OnePage

/-- A write of two bytes from a scatter/gather list, once the processor was asked to move them. -/
def stray : Request :=
  { Request.new (Command.withElements { index := 25, argument := 0, responseType := .r1 } 2 .write
      [⟨0x10000, 2⟩] ⟨Memory.zeroed 16, 0x2000⟩) with command.method := .pio }

/-- A write of three blocks, which do not fit in one page. -/
def long : Request :=
  .new (({ index := 25, argument := 0, responseType := .r1 } : Command).withBuffer 2048
    (.write (Memory.zeroed 6144)))

theorem command_long :
    long.command = { index := 25, argument := 0, responseType := .r1, transferType := .multiBlock,
                     blockSize := 2048, blockCount := 3, length := 6144,
                     data := .write (Memory.zeroed 6144), direction := some .write } := by
  have hsize : (DataBuffer.write (Memory.zeroed 6144)).size = 6144 := Array.size_replicate
  rw [long, Request.new, Command.withBuffer, hsize]
  rfl

theorem movable_long : long.command.Movable where
  direction_ne := by decide
  blockSize_pos := by decide
  blockSize_le := by decide
  blockCount_pos := by rw [command_long]; decide
  length_eq := by rw [command_long]; rfl
  length_le := le_rfl

/-- The allocator of the bench offers enough. -/
theorem shrink_world : ∀ allocator ∈ world.allocator, allocator.shrink = 0 := by
  intro allocator hallocator
  rw [← Option.some.inj hallocator]

/-- The first thing that the write of three blocks does is to get two pages. -/
theorem exists_buffer_long :
    ∃ buffer, ((slotUp.issueRequest long).history Bench.World.host world).head? =
      some ⟨.allocate (2 * pageSize), some buffer⟩ ∧ buffer.data.size = 2 * pageSize := by
  have hlength : long.command.length = 6144 := congrArg Command.length command_long
  have hdata : long.command.transferType ≠ .none := by
    rw [command_long]
    decide
  have hlong : slotUp.options.pioThreshold < long.command.length := by
    rw [hlength]
    decide
  have hfew : ∀ capacity ∈ slotUp.bounceCapacity, capacity < long.command.length := by
    rw [hlength]
    rintro _ ⟨⟩
    decide
  have hsize : Slot.wholePages long.command.length = .ok (2 * pageSize) := by
    rw [hlength]
    rfl
  exact ⟨_, Slot.head?_history_of_lt (Request.requestType_new_ne _) rfl hdata movable_long rfl hlong
    hfew hsize _, Array.size_replicate⟩

end OnePage

/-- A write that has no buffer is refused without a trace in the page that was there, and one with a
buffer is accepted. So is one that takes more than the page, for which the allocator has two. -/
theorem command_refused_or_sent_one_page :
    OnePage.stray.Made RegisterFile.host ∧ OnePage.request.Made RegisterFile.host ∧
      OnePage.stray.requestType ≠ .startTransfer ∧ OnePage.request.requestType ≠ .startTransfer ∧
      (∃ cause slot' request',
        (OnePage.slotUp.issueRequest OnePage.stray).run RegisterFile.host (fun _ => 0) =
          (.ok (.error cause, slot', request'), fun _ => 0) ∧
        slot'.bounce = some OnePage.pages) ∧
      (∃ progress slot' request' after,
        (OnePage.slotUp.issueRequest OnePage.request).run RegisterFile.host (fun _ => 0) =
          (.ok (.ok progress, slot', request'), after)) ∧
      OnePage.long.Made Bench.World.host ∧ OnePage.long.requestType ≠ .startTransfer ∧
      (∃ buffer, ((OnePage.slotUp.issueRequest OnePage.long).history Bench.World.host
          OnePage.world).head? = some ⟨.allocate (2 * pageSize), some buffer⟩ ∧
        buffer.data.size = 2 * pageSize) ∧
      (∀ event ∈ (OnePage.slotUp.issueRequest OnePage.long).history Bench.World.host OnePage.world,
        event.OffersEnough) ∧
      ∃ progress slot' request' after,
        (OnePage.slotUp.issueRequest OnePage.long).run Bench.World.host OnePage.world =
          (.ok (.ok progress, slot', request'), after) := by
  have hstray : OnePage.stray.Made RegisterFile.host :=
    (Request.Made.withElements 25 0 .r1 2 .write [⟨0x10000, 2⟩] ⟨Memory.zeroed 16, 0x2000⟩).changed
      rfl rfl rfl
  have hrequest : OnePage.request.Made RegisterFile.host := .withBuffer 25 0 .r1 2 (.write #[1, 2])
  have hlong : OnePage.long.Made Bench.World.host := .withBuffer 25 0 .r1 2048 _
  have hnotStart : OnePage.stray.requestType ≠ .startTransfer := by decide
  have hnotStart' : OnePage.request.requestType ≠ .startTransfer := by decide
  have hnotStart'' : OnePage.long.requestType ≠ .startTransfer := Request.requestType_new_ne _
  -- one host never hands out a buffer, and the other never one that is too short
  have hnone : RegisterFile.host.Always Event.OffersEnough := by
    rintro query state size buffer ⟨⟩
  have hoffers := Bench.World.offersEnough_history (OnePage.slotUp.issueRequest OnePage.long)
    OnePage.shrink_world
  refine ⟨hstray, hrequest, hnotStart, hnotStart', ?_, ?_, hlong, hnotStart'',
    OnePage.exists_buffer_long, hoffers, ?_⟩
  · obtain ⟨htrace, hexact⟩ :=
      command_refused_or_sent hstray hnotStart OnePage.slotUp fun _ => 0
    have hmovable : ¬ OnePage.stray.command.Movable := fun h => absurd h.length_le (by decide)
    obtain ⟨cause, slot', request', after, hrun⟩ := (hexact rfl (by decide)).1.mpr hmovable
    obtain ⟨-, rfl, rfl, -⟩ := htrace _ _ _ _ hrun
    exact ⟨cause, _, request', hrun, rfl⟩
  · have hmovable : OnePage.request.command.Movable :=
      ⟨by decide, by decide, by decide, by decide, by decide, by decide⟩
    obtain ⟨-, hexact⟩ := command_refused_or_sent hrequest hnotStart' OnePage.slotUp fun _ => 0
    exact ((hexact rfl (by decide)).2 (Program.mem_history_of_always hnone _ _)).mpr hmovable
  · have hdata : OnePage.long.command.transferType ≠ .none := by
      rw [OnePage.command_long]
      decide
    obtain ⟨-, hexact⟩ := command_refused_or_sent hlong hnotStart'' OnePage.slotUp OnePage.world
    exact ((hexact rfl hdata).2 hoffers).mpr OnePage.movable_long

end SdHost
