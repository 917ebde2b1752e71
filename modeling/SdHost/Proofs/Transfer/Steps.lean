import SdHost.Proofs.Host.Task
import SdHost.Proofs.Memory

/-!
# The steps of a transfer, one by one

Equations that tell what each part of a step does when it is started in a given state. They are
what the properties of transfers are proved from; nothing else looks into the definitions.
-/

namespace SdHost

/-- A new request has yet to send its command. -/
theorem Request.requestType_new_ne (command : Command) :
    (Request.new command).requestType ≠ .startTransfer := by
  show (if _ then _ else _) ≠ _
  split <;> exact nofun

theorem Slot.issueRequest_eq (slot : Slot) (request : Request) :
    slot.issueRequest request = Transfer.step.start { slot, request } >>= fun outcome =>
      .done (outcome.1, outcome.2.slot, outcome.2.request) := rfl

theorem Slot.run_step_of_issueRequest {σ : Type} {host : Host σ} {state after : σ}
    {slot slot' : Slot} {request request' : Request} {result : Except Error Progress}
    (hrun : (slot.issueRequest request).run host state = (.ok (result, slot', request'), after)) :
    (Transfer.step.start { slot, request }).run host state =
      (.ok (result, { slot := slot', request := request' }), after) := by
  rw [issueRequest_eq, Program.run_bind] at hrun
  split at hrun
  next outcome state' hstep =>
    cases hrun
    exact hstep
  next => cases hrun

/-- What comes of asking for a bounce buffer: none is to be had, or it is of no use and handed back
at once, or it takes the place of the one that was there. -/
theorem Slot.run_allocateBounce (slot : Slot) (length : Nat) :
    (slot.allocateBounce length).run =
      Program.ofExcept (Slot.wholePages length) >>= fun size =>
        .ask (.allocate size) fun reply =>
          match reply with
          | none => .done (.error .insufficientResources)
          | some buffer =>
            match BouncePages.new buffer slot.busOffset with
            | .error refused =>
              .ask (.release refused) fun _ => .done (.error .insufficientResources)
            | .ok pages =>
              Slot.releasePages slot.bounce >>= fun _ =>
                .done (.ok { slot with bounce := some pages }) := by
  simp only [allocateBounce, Attempt.run_bind, Attempt.run_ofExcept, Attempt.run_program,
    Program.bind_bind, Program.done_bind, Program.request, Program.ask_bind]
  congr 1
  funext size
  congr 1
  funext reply
  obtain _ | buffer := reply
  · rfl
  · dsimp only
    cases BouncePages.new buffer slot.busOffset with
    | error refused => rfl
    | ok pages =>
      simp only [Attempt.run_bind, Attempt.run_program, Program.bind_bind, Program.done_bind,
        Attempt.run_pure]

namespace Transfer

@[simp]
theorem start_modifySlot (change : Slot → Slot) (t : Transfer) :
    (modifySlot change).start t = .done (.ok (), { t with slot := change t.slot }) := rfl

@[simp]
theorem start_modifyRequest (change : Request → Request) (t : Transfer) :
    (modifyRequest change).start t = .done (.ok (), { t with request := change t.request }) := rfl

@[simp]
theorem start_modifyCommand (change : Command → Command) (t : Transfer) :
    (modifyCommand change).start t =
      .done (.ok (), { t with request.command := change t.request.command }) := rfl

@[simp]
theorem start_require_some {α : Type} (value : α) (cause : Error) (t : Transfer) :
    (require (some value) cause).start t = .done (.ok value, t) := rfl

@[simp]
theorem start_require_none {α : Type} (cause : Error) (t : Transfer) :
    (require (none : Option α) cause).start t = .done (.error cause, t) := rfl

/-! ## Sending the command -/

/-- The state in which a command is set up. -/
def fresh (t : Transfer) : Transfer where
  slot := { t.slot with bounceInProgress := none }
  request := { t.request with status := .success }

/-- A command is sent once its data phase is set up. -/
theorem start_sendCommand (t : Transfer) :
    sendCommand.start t =
      (setUpDataPhase t.request.command).start t.fresh >>= fun outcome =>
        match outcome with
        | (.ok phase, t') => writeCommand t.request.command phase >>= fun _ =>
            .done (.ok .pending,
              { t' with request.requiredEvents := firstEvents t.request.command phase })
        | (.error cause, t') => .done (.error cause, t') := by
  simp only [sendCommand, Task.start_bind, Task.start_get, start_modifySlot, start_modifyRequest,
    Program.done_bind]
  congr 1
  funext outcome
  obtain ⟨_ | phase, t'⟩ := outcome
  · rfl
  · simp only [Task.start_program, Task.start_pure, Program.bind_bind, Program.done_bind]

/-- The accesses that send a command. -/
def commandEvents (command : Command) (phase : Option (Direction × DataPhase)) : List Event := [
  ⟨.write .word RegisterMap.sdmaAddress.offset 0, ()⟩,
  ⟨.write .half RegisterMap.blockSize.offset command.blockSize, ()⟩,
  ⟨.write .half RegisterMap.blockCount.offset command.blockCount, ()⟩,
  ⟨.write .word RegisterMap.argument.offset command.argument, ()⟩,
  ⟨.write .half TransferMode.register.offset (mode command phase), ()⟩,
  ⟨.barrier, ()⟩,
  ⟨.write .half CommandWord.register.offset (command.word phase.isSome), ()⟩]

/-- Sending a command is a fixed run of accesses. -/
theorem ensures_writeCommand (Allowed : Event → Prop) (command : Command)
    (phase : Option (Direction × DataPhase)) :
    (writeCommand command phase).Ensures Allowed fun events outcome =>
      events = commandEvents command phase ∧ outcome = .ok () := by
  intro _ _ _ _ _ _ _ _ _ _ _ _ _ _
  exact ⟨rfl, rfl⟩

/-- What is known of setting up the data phase is known of sending the command: after a data phase that
was set up come the accesses that send the command, and nothing can go wrong any more. -/
theorem ensures_sendCommand_of_setUp {Allowed : Event → Prop} {t : Transfer}
    {post : List Event → Except Fault (Except Error Progress × Transfer) → Prop}
    (h : ((setUpDataPhase t.request.command).start t.fresh).Ensures Allowed fun events outcome =>
      match outcome with
      | .ok (.ok phase, t') => post (events ++ commandEvents t.request.command phase)
          (.ok (.ok .pending,
            { t' with request.requiredEvents := firstEvents t.request.command phase }))
      | .ok (.error cause, t') => post events (.ok (.error cause, t'))
      | .error cause => post events (.error cause)) :
    (sendCommand.start t).Ensures Allowed post := by
  rw [start_sendCommand, Program.ensures_bind]
  refine h.mono ?_
  rintro events (cause | ⟨cause | phase, t'⟩) hpost
  · exact hpost
  · simpa only [Program.ensures_done, List.append_nil] using hpost
  · simp only [Program.ensures_bind]
    refine (ensures_writeCommand Allowed _ _).mono ?_
    rintro later _ ⟨rfl, rfl⟩
    simpa only [Program.ensures_done, List.append_nil] using hpost

theorem start_setUpDataPhase_none {command : Command} (htype : command.transferType = .none)
    (t : Transfer) : (setUpDataPhase command).start t = .done (.ok none, t) := by
  rw [setUpDataPhase, if_pos htype]
  rfl

theorem start_setUpDataPhase_refused {command : Command} {cause : Error}
    (htype : command.transferType ≠ .none) (hcheck : command.checkDataPhase = .error cause)
    (t : Transfer) : (setUpDataPhase command).start t = .done (.error cause, t) := by
  simp only [setUpDataPhase, if_neg htype, hcheck, Task.start_bind, Task.start_except,
    Program.done_bind]

/-- Data that the processor moves, or that goes through the bounce pages, is set up once it is
checked. -/
theorem start_setUpDataPhase_pio {command : Command} {direction : Direction}
    (htype : command.transferType ≠ .none) (hmethod : command.method = .pio)
    (hcheck : command.checkDataPhase = .ok direction) (t : Transfer) :
    (setUpDataPhase command).start t =
      (setUpPio command direction).start t >>= fun outcome =>
        .done (outcome.1.map fun phase => some (direction, phase), outcome.2) := by
  simp only [setUpDataPhase, if_neg htype, hmethod, hcheck, Task.start_bind, Task.start_except,
    Program.done_bind]
  congr 1
  funext outcome
  obtain ⟨_ | phase, t'⟩ := outcome <;> rfl

/-- So is data that the controller moves, following a scatter/gather list. -/
theorem start_setUpDataPhase_scatterGather {command : Command} {direction : Direction}
    (htype : command.transferType ≠ .none) (hmethod : command.method = .scatterGather)
    (hcheck : command.checkDataPhase = .ok direction) (t : Transfer) :
    (setUpDataPhase command).start t =
      (setUpScatterGather command).start t >>= fun outcome =>
        .done (outcome.1.map fun phase => some (direction, phase), outcome.2) := by
  simp only [setUpDataPhase, if_neg htype, hmethod, hcheck, Task.start_bind, Task.start_except,
    Program.done_bind]
  congr 1
  funext outcome
  obtain ⟨_ | phase, t'⟩ := outcome <;> rfl

theorem start_setUpPio_of_lt {command : Command} (hroom : command.data.size < command.length)
    (direction : Direction) (t : Transfer) :
    (setUpPio command direction).start t = .done (.error .notSupported, t) := by
  simp only [setUpPio, if_pos hroom, Task.start_bind, Task.start_throw, Program.done_bind]

/-- The data goes through the bounce pages if they were reserved, and else through the data
window. -/
theorem start_setUpPio {command : Command} (hroom : command.length ≤ command.data.size)
    (direction : Direction) (t : Transfer) :
    (setUpPio command direction).start t =
      (reservePages command.length).start t >>= fun outcome =>
        match outcome with
        | (.ok reserved, t') =>
          match reserved, t'.slot.bounce with
          | true, some pages => (setUpBounce pages command direction).start t'
          | _, _ => .done (.ok { dma := false, events := bufferReady direction }, t')
        | (.error cause, t') => .done (.error cause, t') := by
  simp only [setUpPio, if_neg (Nat.not_lt.mpr hroom), Task.start_bind, Task.start_get,
    Program.done_bind]
  congr 1
  funext outcome
  obtain ⟨_ | reserved, t'⟩ := outcome
  · rfl
  · dsimp only
    -- only pages that are there and were reserved make a difference
    obtain _ | pages := t'.slot.bounce <;> cases reserved <;> rfl

/-- Pages are reserved for large transfers of controllers that need them. New ones are allocated if
those that are there are too few. -/
theorem start_reservePages (length : Nat) (t : Transfer) :
    (reservePages length).start t =
      if !t.slot.controller.usesBounce || decide (length ≤ t.slot.options.pioThreshold) then
        .done (.ok false, t)
      else if t.slot.bounceCapacity.any fun capacity => decide (length ≤ capacity) then
        .done (.ok true, t)
      else
        (t.slot.allocateBounce length).run >>= fun outcome =>
          match outcome with
          | .ok slot => .done (.ok true, { t with slot })
          | .error _ => .done (.ok false, t) := by
  simp only [reservePages, Task.start_bind, Task.start_get, Program.done_bind, Task.start_ite,
    Task.start_pure, Task.start_program]
  congr 2
  rw [Program.bind_bind]
  congr 1
  funext outcome
  cases outcome <;> rfl

/-- Where the pages there are do not do, more are asked for before anything else. -/
theorem exists_start_reservePages_of_lt {t : Transfer} {length size : Nat}
    (hbounce : t.slot.controller.usesBounce = true) (hlong : t.slot.options.pioThreshold < length)
    (hfew : ∀ capacity ∈ t.slot.bounceCapacity, capacity < length)
    (hsize : Slot.wholePages length = .ok size) :
    ∃ next, (reservePages length).start t = .ask (.allocate size) next := by
  have hwanted : ¬ (!t.slot.controller.usesBounce ||
      decide (length ≤ t.slot.options.pioThreshold)) = true := by
    simpa [hbounce] using hlong
  have hlacking : ¬ (t.slot.bounceCapacity.any fun capacity => decide (length ≤ capacity)) = true := by
    simpa [Option.any_eq_true] using hfew
  rw [start_reservePages, if_neg hwanted, if_neg hlacking, Slot.run_allocateBounce, hsize]
  exact ⟨_, rfl⟩

section Bounce

variable {pages pages' : BouncePages} {command : Command}
  (hprepare : pages.prepare command.length = .ok pages')

/-- The state in which a data phase goes through bounce pages. -/
def bouncing (t : Transfer) (pages : BouncePages) (direction : Direction) : Transfer :=
  { t with slot := { t.slot with bounce := some pages, bounceInProgress := some direction } }

include hprepare

theorem start_setUpBounce_read (t : Transfer) :
    (setUpBounce pages command .read).start t =
      .ask (.write .word RegisterMap.admaAddress.offset pages'.tableAddress) fun _ =>
        .done (.ok { dma := true, events := transferComplete }, t.bouncing pages' .read) := by
  simp only [setUpBounce, hprepare, Task.start_bind, Task.start_ofExcept_ok, start_modifySlot,
    Program.done_bind, reduceCtorEq, if_false, Task.start_pure, Task.start_program,
    Register.writeUnfenced, Program.request, Program.ask_bind]
  rfl

theorem start_setUpBounce_write {source : Memory}
    (hsource : (command.writeBuffer?.bind fun buffer =>
      Memory.slice? buffer 0 command.length) = some source) (t : Transfer) :
    (setUpBounce pages command .write).start t =
      .ask (.write .word RegisterMap.admaAddress.offset pages'.tableAddress) fun _ =>
        .done (.ok { dma := true, events := transferComplete },
          t.bouncing (pages'.fill source) .write) := by
  simp only [setUpBounce, hprepare, hsource, Task.start_bind, Task.start_ofExcept_ok,
    start_modifySlot, Program.done_bind, if_true, start_require_some, Task.start_pure,
    Task.start_program, Register.writeUnfenced, Program.request, Program.ask_bind]
  rfl

/-- Without anything to copy the write is refused, when the pages are prepared for it. -/
theorem start_setUpBounce_refused
    (hsource : (command.writeBuffer?.bind fun buffer =>
      Memory.slice? buffer 0 command.length) = none) (t : Transfer) :
    (setUpBounce pages command .write).start t =
      .done (.error .notSupported, { t with slot.bounce := some pages' }) := by
  simp only [setUpBounce, hprepare, hsource, Task.start_bind, Task.start_ofExcept_ok,
    start_modifySlot, Program.done_bind, if_true, start_require_none]

end Bounce

/-! ## Going on with the data phase -/

/-- The state in which a step is carried out. -/
def begun (t : Transfer) : Transfer where
  slot := t.slot
  request := t.request.beginStep

theorem start_step (t : Transfer) :
    step.start t =
      if t.request.requestType = .startTransfer then continueData.start t.begun
      else sendCommand.start t.begun := by
  simp only [step, Task.start_bind, start_modifyRequest, Task.start_get, Program.done_bind]
  -- both kinds of command are sent in the same way
  obtain ⟨slot, ⟨_ | _ | _, command, events, status, completions⟩⟩ := t <;> rfl

theorem start_continueData_pio {t : Transfer} (hmethod : t.request.command.method = .pio)
    (hbounce : t.slot.bounceInProgress = none) :
    continueData.start t = continuePio.start t := by
  simp only [continueData, Task.start_bind, Task.start_get, Program.done_bind, hmethod, hbounce]
  rfl

theorem start_continueData_bounce {t : Transfer} (hmethod : t.request.command.method = .pio)
    (hbounce : t.slot.bounceInProgress ≠ none) :
    continueData.start t = finishBounce.start t := by
  have hsome : t.slot.bounceInProgress.isSome = true := Option.isSome_iff_ne_none.mpr hbounce
  simp only [continueData, Task.start_bind, Task.start_get, Program.done_bind, hmethod, hsome]
  rfl

/-- The request once a block was moved: what it waits for, and how the step is going to end. -/
def blockMoved (request : Request) (direction : Direction) : Request :=
  let command := request.command.advance
  if command.blockCount = 0 then
    { request with
      command
      requiredEvents := request.requiredEvents ||| transferComplete
      status := .success }
  else
    { request with
      command
      requiredEvents := request.requiredEvents ||| bufferReady direction
      status := .moreProcessingRequired }

theorem start_continuePio_zero {t : Transfer} (hcount : t.request.command.blockCount = 0) :
    continuePio.start t = .done (.error .notSupported, t) := by
  simp only [continuePio, Task.start_bind, Task.start_get, Program.done_bind, if_pos hcount,
    Task.start_throw]

/-- Where a block was moved, the step ends as it does for that many blocks being left. -/
theorem start_continuePio {t : Transfer} {direction : Direction}
    (hcount : t.request.command.blockCount ≠ 0)
    (hdirection : t.request.command.direction = some direction) :
    continuePio.start t = (moveBlock t.request.command direction).start t >>= fun outcome =>
      match outcome with
      | (.ok (), t') => .done (.ok .pending, { t' with request := blockMoved t'.request direction })
      | (.error cause, t') => .done (.error cause, t') := by
  simp only [continuePio, Task.start_bind, Task.start_get, Program.done_bind, if_neg hcount,
    hdirection, start_require_some]
  congr 1
  funext outcome
  obtain ⟨_ | _, t'⟩ := outcome
  · rfl
  · simp only [start_modifyCommand, Program.done_bind, blockMoved]
    split <;> rfl

theorem start_moveBlock_read {t : Transfer} {buffer : Memory}
    (hdata : t.request.command.data = .read buffer)
    (hroom : t.request.command.cursor + t.request.command.blockSize.toNat ≤ buffer.size) :
    (moveBlock t.request.command .read).start t =
      readBlock t.request.command.blockSize.toNat >>= fun block =>
        .done (.ok (), { t with
          request.command.data := DataBuffer.read
            (Memory.store buffer t.request.command.cursor block.toList) }) := by
  have hbuffer : t.request.command.readBuffer? = some buffer := by
    rw [Command.readBuffer?, hdata]
  simp only [moveBlock, hbuffer, Memory.slice?_of_le hroom, Task.start_bind, start_require_some,
    Task.start_discard, Program.done_bind, Task.start_program, start_modifyCommand,
    Program.bind_bind, Except.map]

theorem start_moveBlock_write {t : Transfer} {buffer : Memory}
    (hdata : t.request.command.data = .write buffer)
    (hroom : t.request.command.cursor + t.request.command.blockSize.toNat ≤ buffer.size) :
    (moveBlock t.request.command .write).start t =
      writeBlock ((buffer.toList.drop t.request.command.cursor).take
        t.request.command.blockSize.toNat) >>= fun _ => .done (.ok (), t) := by
  have hbuffer : t.request.command.writeBuffer? = some buffer := by
    rw [Command.writeBuffer?, hdata]
  simp only [moveBlock, hbuffer, Memory.slice?_of_le hroom, Task.start_bind, start_require_some,
    Program.done_bind, Task.start_program, Memory.toList_extract]

theorem start_finish (t : Transfer) :
    finish.start t =
      let request := { t.request with
        status := .success, completions := t.request.completions + 1 }
      .ask (.complete request .success) fun _ => .done (.ok .completed, { t with request }) := rfl

/-- The state once a data phase no longer goes through the bounce pages. -/
def unbounced (t : Transfer) : Transfer :=
  { t with slot.bounceInProgress := none }

/-- What was read is copied out of the bounce pages before the step ends. -/
theorem start_finishBounce_read {t : Transfer} {pages : BouncePages} {buffer : Memory}
    (hprogress : t.slot.bounceInProgress = some .read) (hpages : t.slot.bounce = some pages)
    (hdata : t.request.command.data = .read buffer)
    (hroom : t.request.command.length ≤ buffer.size)
    (hlength : t.request.command.length ≤ pages.buffer.data.size) :
    finishBounce.start t = finish.start { t.unbounced with
      request.command.data := DataBuffer.read (Memory.store buffer 0
        (pages.buffer.data.toList.take t.request.command.length)) } := by
  have hbuffer : t.request.command.readBuffer? = some buffer := by
    rw [Command.readBuffer?, hdata]
  -- the pages and the buffer are both cut at the length of the transfer
  have hslice : ∀ memory : Memory, t.request.command.length ≤ memory.size →
      Memory.slice? memory 0 t.request.command.length =
        some (memory.extract 0 (0 + t.request.command.length)) := by
    intro memory hle
    exact Memory.slice?_of_le (by rwa [Nat.zero_add])
  have hsource := hslice pages.buffer.data hlength
  have htarget := hslice buffer hroom
  simp only [finishBounce, Task.start_bind, Task.start_get, start_modifySlot, Program.done_bind,
    hprogress, if_true, hpages, start_require_some, hsource, hbuffer, Task.start_discard,
    htarget, start_modifyCommand, Except.map, Memory.toList_extract, List.drop_zero, unbounced]

theorem start_finishBounce_of_ne {t : Transfer} (h : t.slot.bounceInProgress ≠ some .read) :
    finishBounce.start t = finish.start t.unbounced := by
  simp only [finishBounce, Task.start_bind, Task.start_get, start_modifySlot, Program.done_bind,
    if_neg h]
  rfl

end Transfer

end SdHost
