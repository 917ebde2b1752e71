import SdHost.Proofs.Transfer.Refused
import SdHost.Proofs.Transfer.Wire

/-!
# The command that stops a transfer

A card that moves several blocks goes on until it is stopped. The controller can send the command that
stops it, if the transfer mode says so, and the transfer type of a command says whether it should:
`Command.WantsStop`.

`stop_of_accepted_command` says when the controller is told to stop the card. The transfer type has no
say in it, so that this is what it asks for unless several blocks are not to be stopped.
-/

namespace SdHost

/-- The transfer type asks for several blocks to be stopped, and there are several. -/
def Command.WantsStop (command : Command) : Prop :=
  1 < command.blockCount ∧ command.transferType ≠ .multiBlockNoStop

/-- The controller is told to stop the card if there are several blocks, and to send nothing by itself
if there is one. -/
theorem Command.get_autoCmd_transferMode (command : Command) (direction : Direction) (dma : Bool) :
    TransferMode.autoCmd.get (command.transferMode direction dma) =
      if 1 < command.blockCount then TransferMode.stopAutomatically else 0 := by
  have hlt : TransferMode.stopAutomatically < 2 ^ TransferMode.autoCmd.width := by decide
  by_cases hseveral : 1 < command.blockCount
  · rw [transferMode, if_pos (decide_eq_true hseveral), if_pos hseveral]
    exact Field.get_set_of_lt _ (by decide) hlt _
  · rw [transferMode, if_neg (Bool.not_eq_true _ ▸ decide_eq_false hseveral), if_neg hseveral]
    simp (disch := decide) only [Field.get_put_of_disjoint]
    rfl

/-- What reaches a register is an access. -/
theorem filter_reaches_filter_isAccess {width : Width} (register : Register width)
    (events : List Event) :
    (events.filter Event.isAccess).filter (fun event => event.query.Reaches register) =
      events.filter fun event => event.query.Reaches register := by
  rw [List.filter_filter]
  refine List.filter_congr fun event _ => ?_
  by_cases hreaches : event.query.Reaches register
  · simp only [hreaches, Event.isAccess_of_reaches hreaches, decide_true, Bool.and_self]
  · simp only [hreaches, decide_false, Bool.false_and]

namespace Transfer

variable {command : Command} {slot : Slot} {phase : Option (Direction × DataPhase)}
  {addresses : List Event}

/-- Pointing the controller at the data of a command leaves the transfer mode alone. -/
theorem Pointed.unreached (h : Pointed command slot phase addresses) :
    ∀ event ∈ addresses, ¬ event.query.Reaches TransferMode.register := by
  cases h with
  | nothing | window => exact List.forall_mem_nil _
  | bounce => exact unreached_of_writes rfl
  | table => exact unreached_of_writes (by cases slot.capabilities.address64 <;> rfl)

/-- A command is sent with its transfer mode written once. -/
theorem filter_reaches_commandEvents (command : Command)
    (phase : Option (Direction × DataPhase)) :
    (commandEvents command phase).filter (fun event => event.query.Reaches TransferMode.register) =
      [⟨.write .half TransferMode.register.offset (mode command phase), ()⟩] := rfl

theorem Pointed.get_autoCmd_mode (h : Pointed command slot phase addresses)
    (hdata : command.transferType ≠ .none) :
    TransferMode.autoCmd.get (mode command phase) =
      if 1 < command.blockCount then TransferMode.stopAutomatically else 0 := by
  cases h with
  | nothing htype => exact absurd htype hdata
  | window | bounce | table => exact command.get_autoCmd_transferMode _ _

end Transfer

/-- There is more than one block exactly if one block is less than all of the data phase. -/
theorem Command.one_lt_blockCount_iff {command : Command} (h : command.checkBlocks = .ok ()) :
    1 < command.blockCount ↔ command.blockSize.toNat < command.length := by
  obtain ⟨hsize, -, hlength⟩ := Command.checkBlocks_eq_ok_iff.mp h
  have hone : 1 < command.blockCount ↔ 1 < command.blockCount.toNat := Iff.rfl
  rw [hlength, hone, Nat.lt_mul_iff_one_lt_right hsize]

/-- The data phase of a command that is accepted has passed its check. -/
theorem Slot.checkBlocks_of_accepted {σ : Type} {host : Host σ} {slot slot' : Slot}
    {request request' : Request} {progress : Progress} {state after : σ}
    (htype : request.requestType ≠ .startTransfer) (hdata : request.command.transferType ≠ .none)
    (hrun : (slot.issueRequest request).run host state =
      (.ok (.ok progress, slot', request'), after)) :
    request.command.checkBlocks = .ok () := by
  -- a command that fails the check is refused before anything is sent
  cases hcheck : request.command.checkDataPhase with
  | ok direction => exact (Command.checkDataPhase_eq_ok_iff.mp hcheck).2.2
  | error cause =>
    obtain ⟨_, _, hrefused⟩ := slot.issueRequest_of_refused htype
      fun t => Transfer.start_setUpDataPhase_refused hdata hcheck t
    rw [hrefused] at hrun
    cases hrun

/-- **The command that stops a transfer.** Take a command with a data phase that is accepted, whatever
its fields and whatever state the slot is in. The transfer mode is written once. It tells the controller
to stop the card if there is more than one block, which is so if one block is less than the data phase,
and to send no command by itself otherwise.

This is what the transfer type asks for exactly if it is not a transfer of several blocks that is not to
be stopped. Such a transfer is stopped like any other. -/
theorem stop_of_accepted_command {σ : Type} {host : Host σ} {slot slot' : Slot}
    {request request' : Request} {progress : Progress} {state after : σ}
    (htype : request.requestType ≠ .startTransfer) (hdata : request.command.transferType ≠ .none)
    (hrun : (slot.issueRequest request).run host state =
      (.ok (.ok progress, slot', request'), after)) :
    ∃ mode, ((slot.issueRequest request).history host state).filter
        (fun event => event.query.Reaches TransferMode.register) =
          [⟨.write .half TransferMode.register.offset mode, ()⟩] ∧
      (TransferMode.autoCmd.get mode =
        if 1 < request.command.blockCount then TransferMode.stopAutomatically else 0) ∧
      (1 < request.command.blockCount ↔
        request.command.blockSize.toNat < request.command.length) ∧
      ((TransferMode.autoCmd.get mode = TransferMode.stopAutomatically ↔
          request.command.WantsStop) ↔
        ¬ (request.command.transferType = .multiBlockNoStop ∧ 1 < request.command.blockCount)) := by
  have hsend := Slot.run_step_of_issueRequest hrun
  rw [Transfer.start_step, if_neg htype] at hsend
  obtain ⟨-, phase, addresses, hpointed, hfilter, -⟩ :=
    (Transfer.ensures_sendCommand_pointed _).of_run hsend _ _ rfl
  have hmode : TransferMode.autoCmd.get (Transfer.mode request.command phase) =
      if 1 < request.command.blockCount then TransferMode.stopAutomatically else 0 :=
    hpointed.get_autoCmd_mode hdata
  refine ⟨Transfer.mode request.command phase, ?_, hmode,
    Command.one_lt_blockCount_iff (Slot.checkBlocks_of_accepted htype hdata hrun), ?_⟩
  · rw [Slot.issueRequest_eq_sendCommand htype, Program.history_bind_done,
      ← filter_reaches_filter_isAccess, hfilter, List.filter_append,
      Transfer.filter_reaches_commandEvents]
    -- what points the controller at the data does not write the mode
    have hnone : addresses.filter (fun event => event.query.Reaches TransferMode.register) = [] :=
      List.filter_eq_nil_iff.mpr fun event hevent => by simpa using hpointed.unreached event hevent
    rw [hnone, List.nil_append]
    rfl
  · have hselect : ¬ (0 = TransferMode.stopAutomatically) := by decide
    -- one block is never to be stopped, and of several the transfer type decides
    by_cases hseveral : 1 < request.command.blockCount
    · rw [hmode, if_pos hseveral]
      simp only [Command.WantsStop, hseveral, true_and, and_true, true_iff, ne_eq]
    · rw [hmode, if_neg hseveral]
      simp only [Command.WantsStop, hselect, hseveral, false_and, and_false, not_false_iff]

namespace ReadOfTwo

/-- A slot of a standard controller. -/
def slot : Slot where
  controller := .standard false

/-- A read of two blocks, with the transfer type that it is given. -/
def request (transferType : TransferType) : Request :=
  .new { ({ index := 18, argument := 0, responseType := .r1 } : Command).withBuffer 4
    (.read (Memory.zeroed 8)) with transferType }

/-- The read is sent, and this is the transfer mode that is sent with it. -/
def Sent (transferType : TransferType) (mode : HalfWord) : Prop :=
  (∃ slot' request' after, (slot.issueRequest (request transferType)).run RegisterFile.host
    (fun _ => 0) = (.ok (.ok .pending, slot', request'), after)) ∧
  ((slot.issueRequest (request transferType)).history RegisterFile.host fun _ => 0).filter
    (fun event => event.query.Reaches TransferMode.register) =
      [⟨.write .half TransferMode.register.offset mode, ()⟩]

end ReadOfTwo

/-- Two blocks that are to be stopped are stopped. -/
theorem stop_of_accepted_command_two_blocks :
    (ReadOfTwo.request .multiBlock).requestType ≠ .startTransfer ∧
      (ReadOfTwo.request .multiBlock).command.transferType ≠ .none ∧
      (ReadOfTwo.request .multiBlock).command.WantsStop ∧
      ∃ mode, ReadOfTwo.Sent .multiBlock mode ∧
        TransferMode.autoCmd.get mode = TransferMode.stopAutomatically := by
  have htype : (ReadOfTwo.request .multiBlock).requestType ≠ .startTransfer := by decide
  have hdata : (ReadOfTwo.request .multiBlock).command.transferType ≠ .none := by decide
  obtain ⟨slot', request', after, hrun⟩ : ∃ slot' request' after,
      (ReadOfTwo.slot.issueRequest (ReadOfTwo.request .multiBlock)).run RegisterFile.host
        (fun _ => 0) = (.ok (.ok .pending, slot', request'), after) := ⟨_, _, _, rfl⟩
  obtain ⟨mode, hwritten, hauto, -, -⟩ := stop_of_accepted_command htype hdata hrun
  have hseveral : 1 < (ReadOfTwo.request .multiBlock).command.blockCount := by decide
  rw [if_pos hseveral] at hauto
  exact ⟨htype, hdata, ⟨hseveral, by decide⟩, mode, ⟨⟨slot', request', after, hrun⟩, hwritten⟩,
    hauto⟩

/-- Two blocks that are not to be stopped are stopped all the same. -/
theorem stops_multiBlockNoStop :
    (ReadOfTwo.request .multiBlockNoStop).command.transferType = .multiBlockNoStop ∧
      1 < (ReadOfTwo.request .multiBlockNoStop).command.blockCount ∧
      ∃ mode, ReadOfTwo.Sent .multiBlockNoStop mode ∧
        TransferMode.autoCmd.get mode = TransferMode.stopAutomatically :=
  ⟨rfl, by decide, _, ⟨⟨_, _, _, rfl⟩, rfl⟩, by decide⟩

end SdHost
