import SdHost.Proofs.Dma.Bounce
import SdHost.Proofs.Transfer.Invariant

/-!
# What a step does to the bounce pages

A step of a request may ask for new bounce pages, prepare those that are there, and note that a transfer
goes through them. The note is never made without pages to go with it, and pages are given up only for
others.

The module introduces:

* `Event.RefusesPages`: no pages, or none of any use, came of asking for some;
* `Slot.Accounted`: what a step leaves of the pages and of the note.

Main statements:

* `Transfer.ensures_sendCommand_accounted`: sending a command, whether it succeeds or fails;
* `Transfer.ensures_continueData_slot`: going on with a data phase;
* `Transfer.ensures_continueData_error`: how that can fail.
-/

namespace SdHost

/-- The allocator was asked for pages, and it had none, or none that can be taken into use. -/
def Event.RefusesPages (busOffset : Word) (event : Event) : Prop :=
  ∃ size reply, event = ⟨.allocate size, reply⟩ ∧
    ∀ buffer, reply = some buffer → ¬ buffer.Usable busOffset

theorem Event.allocates_of_refusesPages {busOffset : Word} {event : Event}
    (h : event.RefusesPages busOffset) : event.allocates = true := by
  obtain ⟨size, reply, rfl, -⟩ := h
  rfl

theorem Event.not_refusesPages_of_isAccess {busOffset : Word} {event : Event}
    (h : event.isAccess = true) : ¬ event.RefusesPages busOffset := by
  intro hrefuses
  rw [isAccess_of_allocates (allocates_of_refusesPages hrefuses)] at h
  cases h

namespace Slot

/-- What has become of the pages of a slot. If something is noted to go through pages, there are some. If
asking for pages was in vain, those that were there are left as they are. -/
structure Accounted (slot : Slot) (events : List Event) (slot' : Slot) : Prop where
  /-- What goes through pages goes through pages that are there. -/
  held : slot'.bounceInProgress ≠ none → slot'.bounce ≠ none
  /-- Pages are given up only for others. -/
  kept : (∃ event ∈ events, event.RefusesPages slot.busOffset) → slot'.bounce = slot.bounce

/-- If pages were got, asking for them was not in vain. -/
theorem ensures_allocateBounce_granted (slot : Slot) (length : Nat) :
    (slot.allocateBounce length).run.Ensures (fun _ => True) fun events outcome =>
      ∀ slot', outcome = .ok (.ok slot') → (∃ pages, slot' = { slot with bounce := some pages }) ∧
        ∀ event ∈ events, ¬ event.RefusesPages slot.busOffset := by
  rw [run_allocateBounce]
  cases wholePages length with
  | error cause => rintro _ ⟨⟩
  | ok size =>
    rintro (_ | buffer) _
    · rintro _ ⟨⟩
    dsimp only
    cases hnew : BouncePages.new buffer slot.busOffset with
    | error refused => rintro _ _ _ ⟨⟩
    | ok pages =>
      have husable := BouncePages.exists_new_iff.mp ⟨pages, hnew⟩
      have hallocate : ¬ Event.RefusesPages slot.busOffset ⟨.allocate size, some buffer⟩ := by
        rintro ⟨_, _, ⟨⟩, hrefused⟩
        exact hrefused buffer rfl husable
      have hrelease : ∀ pages reply, ¬ Event.RefusesPages slot.busOffset ⟨.release pages, reply⟩ := by
        rintro _ _ ⟨_, _, ⟨⟩, -⟩
      -- the pages that were there before, if any, are given back first
      rcases slot.bounce with _ | before
      · rintro _ ⟨⟩
        exact ⟨⟨pages, rfl⟩, by simpa using hallocate⟩
      · rintro _ _ _ ⟨⟩
        exact ⟨⟨pages, rfl⟩, by simp [hallocate, hrelease]⟩

end Slot

namespace Transfer

open SdHost.Task (Maintains FailsOnly)

/-! ## Sending a command -/

/-- Reserving pages leaves everything as it is, or puts new pages in the place of the others. -/
theorem ensures_reservePages_granted (length : Nat) (t : Transfer) :
    ((reservePages length).start t).Ensures (fun _ => True) fun events outcome =>
      ∀ result t', outcome = .ok (result, t') →
        t' = t ∧ (result = .ok true → events = []) ∨
          (∃ bounce, t' = { t with slot := { t.slot with bounce } }) ∧
            ∀ event ∈ events, ¬ event.RefusesPages t.slot.busOffset := by
  rw [start_reservePages]
  split
  · rintro _ _ ⟨⟩
    exact .inl ⟨rfl, fun _ => rfl⟩
  split
  · rintro _ _ ⟨⟩
    exact .inl ⟨rfl, fun _ => rfl⟩
  rw [Program.ensures_bind]
  refine (t.slot.ensures_allocateBounce_granted length).mono ?_
  rintro events (fault | cause | slot) hgranted
  · rintro _ _ ⟨⟩
  · rintro _ _ ⟨⟩
    exact .inl ⟨rfl, by rintro ⟨⟩⟩
  · rintro _ _ ⟨⟩
    obtain ⟨⟨pages, rfl⟩, hevents⟩ := hgranted slot rfl
    rw [List.append_nil]
    exact .inr ⟨⟨some pages, rfl⟩, hevents⟩

/-- A transfer is noted to go through pages once they are prepared for it. -/
theorem ensures_setUpBounce_held {t : Transfer} (hfresh : t.slot.bounceInProgress = none)
    (pages : BouncePages) (command : Command) (direction : Direction) :
    ((setUpBounce pages command direction).start t).Ensures (fun _ => True) fun events outcome =>
      (∀ event ∈ events, event.isAccess = true) ∧ ∀ result t', outcome = .ok (result, t') →
        (t'.slot.bounceInProgress ≠ none → t'.slot.bounce ≠ none) := by
  cases hprepare : pages.prepare command.length with
  | error cause =>
    simp only [setUpBounce, hprepare, Task.start_bind, Task.start_ofExcept_error,
      Program.fault_bind, Program.ensures_fault]
    exact ⟨by simp, by rintro _ _ ⟨⟩⟩
  | ok prepared =>
    have hbouncing : ∀ (pages : BouncePages) (phase : DataPhase) result t',
        (Except.ok (Except.ok phase, t.bouncing pages direction) :
          Except Fault (Except Error DataPhase × Transfer)) = .ok (result, t') →
        (t'.slot.bounceInProgress ≠ none → t'.slot.bounce ≠ none) := by
      rintro _ _ _ _ ⟨⟩ _
      exact Option.some_ne_none _
    cases direction with
    | read =>
      rw [start_setUpBounce_read hprepare]
      exact fun _ _ => ⟨by simp [Event.isAccess], hbouncing _ _⟩
    | write =>
      cases hsource : (command.writeBuffer?.bind fun buffer =>
          Memory.slice? buffer 0 command.length) with
      | none =>
        rw [start_setUpBounce_refused hprepare hsource]
        refine ⟨by simp, ?_⟩
        rintro _ _ ⟨⟩ hprogress
        exact absurd hfresh hprogress
      | some source =>
        rw [start_setUpBounce_write hprepare hsource]
        exact fun _ _ => ⟨by simp [Event.isAccess], hbouncing _ _⟩

/-- Setting up a data phase of the processor, whether it succeeds or fails. -/
theorem ensures_setUpPio_accounted {t : Transfer} (hfresh : t.slot.bounceInProgress = none)
    (command : Command) (direction : Direction) :
    ((setUpPio command direction).start t).Ensures (fun _ => True) fun events outcome =>
      ∀ result t', outcome = .ok (result, t') → t.slot.Accounted events t'.slot := by
  rcases Nat.lt_or_ge command.data.size command.length with hshort | hroom
  · rw [start_setUpPio_of_lt hshort]
    rintro _ _ ⟨⟩
    exact ⟨fun hprogress => absurd hfresh hprogress, fun _ => rfl⟩
  rw [start_setUpPio hroom, Program.ensures_bind]
  refine (ensures_reservePages_granted command.length t).mono ?_
  rintro events (fault | ⟨result, t'⟩) hreserved
  · rintro _ _ ⟨⟩
  have hgranted := hreserved result t' rfl
  -- nothing was noted so far
  have hfresh' : t'.slot.bounceInProgress = none := by
    rcases hgranted with ⟨rfl, -⟩ | ⟨⟨bounce, rfl⟩, -⟩ <;> exact hfresh
  have hsame : t.slot.Accounted events t'.slot := by
    refine ⟨fun hprogress => absurd hfresh' hprogress, fun ⟨event, hevent, hrefuses⟩ => ?_⟩
    rcases hgranted with ⟨rfl, -⟩ | ⟨-, hevents⟩
    · rfl
    · exact absurd hrefuses (hevents event hevent)
  -- if pages were reserved, asking for them was not in vain
  have hreserve : result = .ok true → ∀ event ∈ events, ¬ event.RefusesPages t.slot.busOffset := by
    intro hresult
    rcases hgranted with ⟨-, hnil⟩ | ⟨-, hevents⟩
    · rw [hnil hresult]
      exact List.forall_mem_nil _
    · exact hevents
  obtain cause | reserved := result
  · rintro _ _ ⟨⟩
    rwa [List.append_nil]
  dsimp only
  cases reserved with
  | false =>
    rintro _ _ ⟨⟩
    rwa [List.append_nil]
  | true =>
    cases hbounce : t'.slot.bounce with
    | none =>
      rintro _ _ ⟨⟩
      rwa [List.append_nil]
    | some pages =>
      refine (ensures_setUpBounce_held hfresh' pages command direction).mono ?_
      rintro later outcome ⟨haccess, hheld⟩ result t'' rfl
      refine ⟨hheld result t'' rfl, fun ⟨event, hevent, hrefuses⟩ => ?_⟩
      rcases List.mem_append.mp hevent with hevent | hevent
      · exact absurd hrefuses (hreserve rfl event hevent)
      · exact absurd hrefuses (Event.not_refusesPages_of_isAccess (haccess event hevent))

theorem isAccess_of_mem_commandEvents {command : Command} {phase : Option (Direction × DataPhase)}
    {event : Event} (h : event ∈ commandEvents command phase) : event.isAccess = true := by
  simp only [commandEvents, List.mem_cons, List.not_mem_nil, or_false] at h
  rcases h with rfl | rfl | rfl | rfl | rfl | rfl | rfl <;> rfl

/-- Setting up any data phase, whether it succeeds or fails. -/
theorem ensures_setUpDataPhase_accounted {t : Transfer} (hfresh : t.slot.bounceInProgress = none)
    (command : Command) :
    ((setUpDataPhase command).start t).Ensures (fun _ => True) fun events outcome =>
      ∀ result t', outcome = .ok (result, t') → t.slot.Accounted events t'.slot := by
  have hsame : ∀ events, t.slot.Accounted events t.slot := fun events =>
    ⟨fun hprogress => absurd hfresh hprogress, fun _ => rfl⟩
  by_cases htype : command.transferType = .none
  · rw [start_setUpDataPhase_none htype]
    rintro _ _ ⟨⟩
    exact hsame _
  cases hcheck : command.checkDataPhase with
  | error cause =>
    rw [start_setUpDataPhase_refused htype hcheck]
    rintro _ _ ⟨⟩
    exact hsame _
  | ok direction =>
  cases hmethod : command.method with
  | pio =>
    rw [start_setUpDataPhase_pio htype hmethod hcheck, Program.ensures_bind]
    refine (ensures_setUpPio_accounted hfresh command direction).mono ?_
    rintro events (fault | ⟨result, t'⟩) haccounted
    · rintro _ _ ⟨⟩
    · rintro _ _ ⟨⟩
      rw [List.append_nil]
      exact haccounted result t' rfl
  | scatterGather =>
    have hslot : Maintains (fun _ => True) (fun t' => t'.slot = t.slot)
        (setUpScatterGather command) :=
      maintains_setUpScatterGather (fun _ _ => trivial) (fun _ _ h => h) command
    rw [start_setUpDataPhase_scatterGather htype hmethod hcheck, Program.ensures_bind]
    refine (hslot t rfl).mono ?_
    rintro events (fault | ⟨result, t'⟩) ⟨-, hkept⟩
    · rintro _ _ ⟨⟩
    · rintro _ _ ⟨⟩
      rw [hkept result t' rfl]
      exact hsame _

/-- Sending a command, whether it succeeds or fails. -/
theorem ensures_sendCommand_accounted (t : Transfer) :
    (sendCommand.start t).Ensures (fun _ => True) fun events outcome =>
      ∀ result t', outcome = .ok (result, t') → t.slot.Accounted events t'.slot := by
  refine ensures_sendCommand_of_setUp ?_
  refine (ensures_setUpDataPhase_accounted (t := t.fresh) rfl t.request.command).mono ?_
  rintro events (fault | ⟨cause | phase, t'⟩) hset
  · rintro _ _ ⟨⟩
  · rintro _ _ ⟨⟩
    obtain ⟨hheld, hkept⟩ := hset _ _ rfl
    exact ⟨hheld, hkept⟩
  · rintro _ _ ⟨⟩
    obtain ⟨hheld, hkept⟩ := hset _ _ rfl
    refine ⟨hheld, fun ⟨event, hevent, hrefuses⟩ => ?_⟩
    rcases List.mem_append.mp hevent with hevent | hevent
    · exact hkept ⟨event, hevent, hrefuses⟩
    · -- the accesses that send the command ask for nothing
      exact absurd hrefuses
        (Event.not_refusesPages_of_isAccess (isAccess_of_mem_commandEvents hevent))

/-! ## Going on with the data phase -/

/-- Ending a bounced data phase changes nothing about the slot, whether it succeeds or fails, but that
nothing goes through the pages any more. -/
theorem ensures_finishBounce_slot (t : Transfer) :
    (finishBounce.start t).Ensures (fun _ => True) fun _ outcome =>
      ∀ result t', outcome = .ok (result, t') → t'.slot = t.unbounced.slot := by
  have hfinish : Maintains (fun _ => True) (fun t' => t'.slot = t.unbounced.slot) finish :=
    maintains_finish (fun _ _ h => h) fun _ _ => trivial
  simp only [finishBounce, Task.start_bind, Task.start_get, start_modifySlot, Program.done_bind]
  refine Program.Ensures.mono (Maintains.ite (fun _ => ?_) (fun _ => hfinish) _ rfl)
    fun _ _ h => h.2
  refine (maintains_require _ _).bind fun pages => (maintains_require _ _).bind fun source => ?_
  refine (maintains_require _ _).bind fun buffer => (maintains_require _ _).discard.bind fun _ => ?_
  exact (maintains_modifyCommand (fun _ _ h => h) _).bind fun _ => hfinish

/-- Going on with a data phase changes nothing about the slot but what goes through the pages. If the
processor moves the data, nothing goes through them afterwards. -/
theorem ensures_continueData_slot (t : Transfer) :
    (continueData.start t).Ensures (fun _ => True) fun _ outcome =>
      ∀ result t', outcome = .ok (result, t') →
        t'.slot = if t.request.command.method = .pio then t.unbounced.slot else t.slot := by
  cases hmethod : t.request.command.method with
  | pio =>
    rw [if_pos rfl]
    by_cases hprogress : t.slot.bounceInProgress = none
    · have hsame : t.unbounced.slot = t.slot := by
        rw [unbounced, ← hprogress]
      have hpio : Maintains (fun _ => True) (fun t' => t'.slot = t.slot) continuePio :=
        maintains_continuePio (fun _ _ => trivial) fun _ _ h => h
      rw [start_continueData_pio hmethod hprogress, hsame]
      exact (hpio t rfl).mono fun _ _ h => h.2
    · rw [start_continueData_bounce hmethod hprogress]
      exact ensures_finishBounce_slot t
  | scatterGather =>
    rw [if_neg (by decide)]
    have hslot : Maintains (fun _ => True) (fun t' => t'.slot = t.slot) finishScatterGather := by
      refine Maintains.get.bind fun _ => .ite (fun _ => .throw_bind _ _) fun _ => ?_
      exact maintains_finish (fun _ _ h => h) fun _ _ => trivial
    simp only [continueData, Task.start_bind, Task.start_get, Program.done_bind, hmethod]
    exact (hslot t rfl).mono fun _ _ h => h.2

section Failing

variable {Cause : Error → Prop}

theorem failsOnly_require {α : Type} {value? : Option α} {cause : Error}
    (h : value? = none → Cause cause) : FailsOnly Cause (require value? cause) := by
  cases value? with
  | none => exact .throw (h rfl)
  | some value => exact .pure value

theorem failsOnly_finish : FailsOnly Cause finish := by
  intro t
  rw [start_finish]
  rintro _ _ _ _ ⟨⟩

variable (hnotSupported : Cause .notSupported)

include hnotSupported

theorem failsOnly_continuePio : FailsOnly Cause continuePio := by
  have hrequire : ∀ {α : Type} (value? : Option α), FailsOnly Cause (require value? .notSupported) :=
    fun _ => failsOnly_require fun _ => hnotSupported
  have hmove : ∀ command direction, FailsOnly Cause (moveBlock command direction) := by
    rintro command (_ | _)
    · refine (hrequire _).bind fun buffer => (hrequire _).discard.bind fun _ => ?_
      exact (FailsOnly.program _).bind fun block => .modify _
    · exact (hrequire _).bind fun buffer => (hrequire _).bind fun block => .program _
  refine FailsOnly.get.bind fun t => .ite (fun _ => .throw_bind hnotSupported _) fun _ => ?_
  refine (hrequire _).bind fun direction => (hmove _ direction).bind fun _ => ?_
  refine FailsOnly.bind (.modify _) fun _ => FailsOnly.get.bind fun t => ?_
  exact .ite (fun _ => FailsOnly.bind (.modify _) fun _ => .pure _) fun _ =>
    FailsOnly.bind (.modify _) fun _ => .pure _

/-- With the pages there, ending a bounced data phase fails only if there is nowhere to copy to, or not
enough to copy from. -/
theorem ensures_finishBounce_error {t : Transfer}
    (hheld : t.slot.bounceInProgress ≠ none → t.slot.bounce ≠ none) :
    (finishBounce.start t).Ensures (fun _ => True) fun _ outcome =>
      ∀ cause t', outcome = .ok (.error cause, t') → Cause cause := by
  have hrequire : ∀ {α : Type} (value? : Option α), FailsOnly Cause (require value? .notSupported) :=
    fun _ => failsOnly_require fun _ => hnotSupported
  simp only [finishBounce, Task.start_bind, Task.start_get, start_modifySlot, Program.done_bind]
  refine FailsOnly.ite (fun hread => ?_) (fun _ => failsOnly_finish) _
  have hpages : t.slot.bounce ≠ none := hheld (by simp [hread])
  refine (failsOnly_require fun hnone => absurd hnone hpages).bind fun pages => ?_
  refine (hrequire _).bind fun source => (hrequire _).bind fun buffer => ?_
  refine (hrequire _).discard.bind fun _ => FailsOnly.bind (.modify _) fun _ => failsOnly_finish

/-- Going on with a data phase fails only if the data cannot be moved, or if the controller cannot have
moved it. -/
theorem ensures_continueData_error {t : Transfer}
    (hheld : t.slot.bounceInProgress ≠ none → t.slot.bounce ≠ none)
    (hnotImplemented : Cause .notImplemented) :
    (continueData.start t).Ensures (fun _ => True) fun _ outcome =>
      ∀ cause t', outcome = .ok (.error cause, t') → Cause cause := by
  cases hmethod : t.request.command.method with
  | pio =>
    by_cases hprogress : t.slot.bounceInProgress = none
    · rw [start_continueData_pio hmethod hprogress]
      exact failsOnly_continuePio hnotSupported t
    · rw [start_continueData_bounce hmethod hprogress]
      exact ensures_finishBounce_error hnotSupported hheld
  | scatterGather =>
    have hfinish : FailsOnly Cause finishScatterGather :=
      FailsOnly.get.bind fun _ => .ite (fun _ => .throw_bind hnotImplemented _) fun _ =>
        failsOnly_finish
    simp only [continueData, Task.start_bind, Task.start_get, Program.done_bind, hmethod]
    exact hfinish t

end Failing

end Transfer

end SdHost
