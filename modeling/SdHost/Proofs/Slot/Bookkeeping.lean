import SdHost.Proofs.Slot.Enables
import SdHost.Proofs.Slot.Step
import SdHost.Proofs.Transfer.Bounced
import SdHost.Proofs.Transfer.Pages
import SdHost.Proofs.Transfer.Wire

/-!
# The books of the bounce pages

A slot notes that a transfer goes through its bounce pages when the command is sent, and takes note of
it once when the framework goes on with the data phase. Along everything that can be done with a slot,
the note is there only with pages to go with it, pages are given up only for others, and the note is
about the last command.

The module introduces:

* `Slot.Deed`: what was done with a slot, and for a step of a request what came of it;
* `Slot.Logged host log`: the slots that come about by the deeds of a log;
* `Slot.EndsBounce`: a step that ends a data phase that went through the pages.

`bounce_bookkeeping` says what can be told from the log.
-/

namespace SdHost

open SdHost.Task (Maintains)

namespace Transfer

/-- A command without a data phase is not noted to go through the pages. -/
theorem ensures_sendCommand_none {t : Transfer} (h : t.request.command.transferType = .none) :
    (sendCommand.start t).Ensures (fun _ => True) fun _ outcome =>
      ∀ result t', outcome = .ok (result, t') → t'.slot.bounceInProgress = none := by
  refine ensures_sendCommand_of_setUp ?_
  rw [start_setUpDataPhase_none h]
  rintro _ _ ⟨⟩
  rfl

/-- Pointing the controller at the data does not yet let it move data. -/
theorem Pointed.not_enablesDma {command : Command} {slot : Slot}
    {phase : Option (Direction × DataPhase)} {addresses : List Event}
    (h : Pointed command slot phase addresses) : ∀ event ∈ addresses, ¬ event.EnablesDma := by
  rintro event hevent ⟨mode, rfl, -⟩
  cases h with
  | nothing => cases hevent
  | window => cases hevent
  | bounce => cases List.mem_singleton.mp hevent
  | table =>
    -- one word of the address, or two
    rw [tableEvents] at hevent
    split at hevent <;> simp at hevent

/-- Only the mode that a command is sent with lets the controller move data. -/
theorem exists_enablesDma_iff {command : Command} {phase : Option (Direction × DataPhase)}
    {addresses events : List Event}
    (hfilter : events.filter Event.isAccess = addresses ++ commandEvents command phase)
    (haddresses : ∀ event ∈ addresses, ¬ event.EnablesDma) :
    (∃ event ∈ events, event.EnablesDma) ↔
      TransferMode.dmaEnable.test (mode command phase) = true := by
  constructor
  · rintro ⟨event, hevent, hdma⟩
    have haccess : event ∈ events.filter Event.isAccess := by
      obtain ⟨value, rfl, -⟩ := hdma
      exact List.mem_filter.mpr ⟨hevent, rfl⟩
    rw [hfilter] at haccess
    rcases List.mem_append.mp haccess with haddress | hcommand
    · exact absurd hdma (haddresses event haddress)
    · exact test_mode_of_mem_commandEvents hcommand hdma
  · intro htest
    refine ⟨⟨.write .half TransferMode.register.offset (mode command phase), ()⟩, ?_, _, rfl, htest⟩
    refine List.mem_of_mem_filter (p := Event.isAccess) ?_
    rw [hfilter]
    simp [commandEvents]

end Transfer

namespace Slot

/-- The step ends a data phase that went through the bounce pages: that is the program that is carried
out. -/
def EndsBounce (slot : Slot) (request : Request) : Prop :=
  request.requestType = .startTransfer ∧ request.command.method = .pio ∧
    slot.issueRequest request =
      Transfer.finishBounce.start { slot, request := request.beginStep } >>= fun outcome =>
        .done (outcome.1, outcome.2.slot, outcome.2.request)

/-- Something that was done with a slot. -/
inductive Deed where
  /-- The slot was brought up, or that failed. -/
  | broughtUp
  /-- The bounce pages were given back. -/
  | cleanedUp
  /-- A step of a request was carried out on the slot, with some result and some events. -/
  | issued (slot : Slot) (request : Request) (result : Except Error Progress) (events : List Event)
  /-- Something else: a bus operation, a call of the interrupt path or another one that leaves the slot
  as it is, or the controller stored something in the pages. -/
  | other

namespace Deed

/-- No command was sent, and the pages were not meddled with. -/
def Continues : Deed → Prop
  | issued _ request _ _ => request.requestType = .startTransfer
  | other => True
  | broughtUp | cleanedUp => False

/-- It was a step that ended a data phase that went through the pages. -/
def EndsBounce : Deed → Prop
  | issued slot request _ _ => slot.EndsBounce request
  | broughtUp | cleanedUp | other => False

end Deed

variable {σ : Type} {host : Host σ}

/-- The slots that come about by the deeds of a log, of which the last is the first in the list. The
surroundings can be in any state whenever something is asked of them. -/
inductive Logged (host : Host σ) : List Deed → Slot → Prop
  /-- The slot was created. -/
  | created {slot : Slot} (hbounce : slot.bounce = none) (hprogress : slot.bounceInProgress = none) :
      Logged host [] slot
  /-- The slot was brought up, or that failed. -/
  | broughtUp {log : List Deed} {slot slot' : Slot} {length : Nat} {crashDump : Bool}
      {result : Except Error Unit} {state after : σ} (hslot : Logged host log slot)
      (hrun : ((bringUp length crashDump).start slot).run host state =
        (.ok (result, slot'), after)) : Logged host (.broughtUp :: log) slot'
  /-- The bounce pages were given back. -/
  | cleanedUp {log : List Deed} {slot slot' : Slot} {state after : σ} (hslot : Logged host log slot)
      (hrun : slot.cleanup.run host state = (.ok slot', after)) :
      Logged host (.cleanedUp :: log) slot'
  /-- A step of a request was carried out. It may have failed. -/
  | issued {log : List Deed} {slot slot' : Slot} {request request' : Request}
      {result : Except Error Progress} {state after : σ} (hslot : Logged host log slot)
      (hrun : (slot.issueRequest request).run host state = (.ok (result, slot', request'), after)) :
      Logged host
        (.issued slot request result ((slot.issueRequest request).history host state) :: log) slot'
  /-- A bus operation was carried out. It may have failed. -/
  | operated {log : List Deed} {slot slot' : Slot} {operation : BusOperation}
      {result : Except Error Unit} {state after : σ} (hslot : Logged host log slot)
      (hrun : ((performBusOperation operation).start slot).run host state =
        (.ok (result, slot'), after)) : Logged host (.other :: log) slot'
  /-- A call was made. -/
  | called {log : List Deed} {slot : Slot} {α : Type} {program : Program α} {value : α}
      {state after : σ} (hslot : Logged host log slot) (hcall : slot.Call program)
      (hrun : program.run host state = (.ok value, after)) : Logged host (.other :: log) slot
  /-- The controller stored something in the bounce pages. -/
  | stored {log : List Deed} {slot : Slot} {pages : BouncePages} (hslot : Logged host log slot)
      (hbounce : slot.bounce = some pages) (data : Memory)
      (hsize : data.size = pages.buffer.data.size) :
      Logged host (.other :: log)
        { slot with bounce := some { pages with buffer := { pages.buffer with data } } }

/-! ## What single deeds do -/

/-- Something is noted to go through pages just if there are some. -/
def Held (slot : Slot) : Prop :=
  slot.bounceInProgress ≠ none → slot.bounce ≠ none

variable {slot slot' : Slot} {request request' : Request} {state after : σ}

section Issued

variable {result : Except Error Progress}

/-- Sending a command, whether it succeeds or fails, leaves the books in order. -/
theorem accounted_of_sent (htype : request.requestType ≠ .startTransfer)
    (hrun : (slot.issueRequest request).run host state = (.ok (result, slot', request'), after)) :
    slot.Accounted ((slot.issueRequest request).history host state) slot' := by
  have hsend := run_step_of_issueRequest hrun
  rw [Transfer.start_step, if_neg htype] at hsend
  rw [issueRequest_eq_sendCommand htype, Program.history_bind_done]
  exact (Transfer.ensures_sendCommand_accounted _).of_run hsend _ _ rfl

/-- Going on with a data phase changes at most the note. -/
theorem slot_of_continued (htype : request.requestType = .startTransfer)
    (hrun : (slot.issueRequest request).run host state = (.ok (result, slot', request'), after)) :
    slot' = if request.command.method = .pio then { slot with bounceInProgress := none }
      else slot := by
  have hcontinue := run_step_of_issueRequest hrun
  rw [Transfer.start_step, if_pos htype] at hcontinue
  exact (Transfer.ensures_continueData_slot _).of_run hcontinue _ _ rfl

/-- A step of a request, whether it succeeds or fails, leaves the books in order if they were. -/
theorem accounted_of_issueRequest (hheld : slot.Held)
    (hrun : (slot.issueRequest request).run host state = (.ok (result, slot', request'), after)) :
    slot.Accounted ((slot.issueRequest request).history host state) slot' := by
  by_cases htype : request.requestType = .startTransfer
  · have hslot := slot_of_continued htype hrun
    split at hslot
    · subst hslot
      exact ⟨fun hprogress => absurd rfl hprogress, fun _ => rfl⟩
    · subst hslot
      exact ⟨hheld, fun _ => rfl⟩
  · exact accounted_of_sent htype hrun

/-- A command that was accepted for the processor to move its data lets the controller move it just if
it is noted to go through the pages. -/
theorem enablesDma_iff_of_sent {progress : Progress} (htype : request.requestType ≠ .startTransfer)
    (hmethod : request.command.method = .pio)
    (hrun : (slot.issueRequest request).run host state =
      (.ok (.ok progress, slot', request'), after)) :
    (∃ event ∈ (slot.issueRequest request).history host state, event.EnablesDma) ↔
      slot'.bounceInProgress ≠ none := by
  have hsend := run_step_of_issueRequest hrun
  rw [Transfer.start_step, if_neg htype] at hsend
  rw [issueRequest_eq_sendCommand htype, Program.history_bind_done]
  obtain ⟨-, phase, addresses, hpointed, hfilter, -⟩ :=
    (Transfer.ensures_sendCommand_pointed _).of_run hsend _ _ rfl
  rw [Transfer.exists_enablesDma_iff hfilter hpointed.not_enablesDma]
  cases hpointed with
  | nothing hnone =>
    have hfresh := (Transfer.ensures_sendCommand_none hnone).of_run hsend _ _ rfl
    have hmode : ¬ TransferMode.dmaEnable.test 0 = true := by decide
    exact iff_of_false hmode (not_not.mpr hfresh)
  | window _ _ _ hprogress =>
    rw [Transfer.test_dmaEnable_mode]
    exact iff_of_false Bool.false_ne_true (not_not.mpr hprogress)
  | bounce _ _ _ hprogress _ =>
    rw [Transfer.test_dmaEnable_mode, hprogress]
    exact iff_of_true rfl (Option.some_ne_none _)
  | table _ _ hother _ => exact absurd (hother.symm.trans hmethod) (by decide)

/-- With pages to go with the note, going on with a data phase never fails for want of pages. -/
theorem error_of_continued {cause : Error} (hheld : slot.Held)
    (htype : request.requestType = .startTransfer)
    (hrun : (slot.issueRequest request).run host state =
      (.ok (.error cause, slot', request'), after)) : cause ≠ .insufficientResources := by
  have hcontinue := run_step_of_issueRequest hrun
  rw [Transfer.start_step, if_pos htype] at hcontinue
  have hcause : (Transfer.continueData.start (Transfer.begun { slot, request })).Ensures
      (fun _ => True) fun _ outcome => ∀ cause t', outcome = .ok (.error cause, t') →
        cause ≠ .insufficientResources :=
    Transfer.ensures_continueData_error (by decide) hheld (by decide)
  exact hcause.of_run hcontinue _ _ rfl

end Issued

/-- A step for a data phase of the processor ends one that went through the pages just if that is
noted. -/
theorem endsBounce_iff (htype : request.requestType = .startTransfer)
    (hmethod : request.command.method = .pio) :
    slot.EndsBounce request ↔ slot.bounceInProgress ≠ none := by
  refine ⟨fun ⟨_, _, hprogram⟩ hprogress => ?_,
    fun hprogress => ⟨htype, hmethod, issueRequest_eq_finishBounce htype hmethod hprogress⟩⟩
  -- a step that moves a block never tells the framework that it is done, unlike one that ends
  have hpio : Maintains (fun event => event.transfers = true) (fun _ => True) Transfer.continuePio :=
    Transfer.maintains_continuePio (fun _ h => h) fun _ _ h => h
  have hasks : (slot.issueRequest request).Asks fun event => event.transfers = true := by
    rw [issueRequest_eq, Transfer.start_step, if_pos htype,
      Transfer.start_continueData_pio hmethod hprogress]
    exact (hpio.asks trivial).bind fun _ => .done _
  have hread : slot.bounceInProgress ≠ some .read := by
    rw [hprogress]
    decide
  rw [hprogram, Transfer.start_finishBounce_of_ne hread, Transfer.start_finish] at hasks
  cases hasks () trivial _ List.mem_cons_self

/-! ## Bringing a slot up -/

theorem maintains_settle_unallocated {Inv : Slot → Prop}
    (hregulator : ∀ slot at18, Inv slot → Inv { slot with regulatorAt18 := at18 })
    (hcapabilities : ∀ slot capabilities, Inv slot → Inv { slot with capabilities }) :
    Maintains (fun event => event.allocates = false) Inv settle := by
  have hmessage : ∀ event : Event, event.isMessage = true → event.allocates = false := by
    rintro ⟨query, reply⟩ h
    cases query <;> first | rfl | cases h
  have haccess : ∀ event : Event, event.isAccess = true → event.allocates = false := by
    rintro ⟨query, reply⟩ h
    cases query <;> first | rfl | cases h
  refine (maintains_resetRegulator hregulator hmessage).bind fun _ => ?_
  refine Maintains.get.bind fun slot => Maintains.bind (.program ?_) fun capabilities => ?_
  · refine (ensures_readCapabilities slot).mono ?_
    rintro events outcome ⟨readout, rfl, -⟩ event hevent
    refine haccess event ?_
    simp only [Readout.events, Register.readEvents, List.cons_append, List.nil_append,
      List.mem_cons, List.not_mem_nil, or_false] at hevent
    rcases hevent with rfl | rfl | rfl | rfl | rfl | rfl | rfl | rfl <;> rfl
  · refine Maintains.bind (.modify fun slot h => hcapabilities slot capabilities h) fun _ => ?_
    refine Maintains.get.bind fun slot => .program ?_
    refine (ensures_toggleEvents slot 0xFFFF false).mono ?_
    rintro events outcome ⟨enabled, rfl, -⟩ event hevent
    rw [← filter_isAccess_toggleAccesses] at hevent
    exact haccess event (List.mem_filter.mp hevent).2

/-- Providing pages leaves everything as it is, or puts new pages in the place of the others. -/
theorem ensures_providePages_granted (slot : Slot) :
    slot.providePages.run.Ensures (fun _ => True) fun events outcome =>
      ∀ slot', outcome = .ok (.ok slot') → slot' = slot ∨
        (∃ pages, slot' = { slot with bounce := some pages }) ∧
          ∀ event ∈ events, ¬ event.RefusesPages slot.busOffset := by
  rw [providePages]
  split
  · refine (slot.ensures_allocateBounce_granted _).mono ?_
    exact fun events outcome hgranted slot' houtcome => .inr (hgranted slot' houtcome)
  · rintro _ ⟨⟩
    exact .inl rfl

/-- Bringing a slot up, whether it succeeds or fails, does not touch what is noted. It gives pages up only
for others, and keeps those that were there if asking for others was in vain. -/
theorem ensures_bringUp_books (slot : Slot) (length : Nat) (crashDump : Bool) :
    ((bringUp length crashDump).start slot).Ensures (fun _ => True) fun events outcome =>
      ∀ result slot', outcome = .ok (result, slot') →
        slot'.bounceInProgress = slot.bounceInProgress ∧
        (slot.bounce ≠ none → slot'.bounce ≠ none) ∧
        ((∃ event ∈ events, event.RefusesPages slot.controller.busOffset) →
          slot'.bounce = slot.bounce) := by
  rw [start_bringUp]
  split
  · rintro _ _ ⟨⟩
    exact ⟨rfl, id, fun _ => rfl⟩
  rw [Program.ensures_bind]
  refine (slot.readied crashDump).ensures_providePages_granted.mono ?_
  rintro events (fault | cause | provided) hprovided
  · rintro _ _ ⟨⟩
  · rintro _ _ ⟨⟩
    exact ⟨rfl, id, fun _ => rfl⟩
  -- what comes after the pages leaves them alone, and asks for no others
  have hsettle : Maintains (fun event => event.allocates = false)
      (fun slot' => slot'.bounce = provided.bounce ∧
        slot'.bounceInProgress = provided.bounceInProgress) settle :=
    maintains_settle_unallocated (fun _ _ h => h) fun _ _ h => h
  refine (hsettle provided ⟨rfl, rfl⟩).mono ?_
  rintro later outcome ⟨hlater, hkept⟩ result slot' rfl
  obtain ⟨hbounce, hprogress⟩ := hkept result slot' rfl
  rw [hbounce, hprogress]
  rcases hprovided provided rfl with rfl | ⟨⟨pages, rfl⟩, hevents⟩
  · exact ⟨rfl, id, fun _ => rfl⟩
  · refine ⟨rfl, fun _ => Option.some_ne_none _, fun ⟨event, hevent, hrefuses⟩ => ?_⟩
    rcases List.mem_append.mp hevent with hevent | hevent
    · exact absurd hrefuses (hevents event hevent)
    · have hquiet : event.allocates = false := hlater event hevent
      rw [Event.allocates_of_refusesPages hrefuses] at hquiet
      cases hquiet

theorem slot_of_cleanup (hrun : slot.cleanup.run host state = (.ok slot', after)) :
    slot' = { slot with bounce := none, bounceInProgress := none } := by
  rw [cleanup, Program.run_bind] at hrun
  split at hrun
  · cases hrun
    rfl
  · cases hrun

/-! ## Along a log -/

/-- Along everything that is done with a slot, the note is there only with pages to go with it. -/
theorem held_of_logged {log : List Deed} (h : Logged host log slot) : slot.Held := by
  -- induction on what happened to the slot
  induction h with
  | created _ hprogress => exact fun hmarked => absurd hprogress hmarked
  | broughtUp _ hrun ih =>
    obtain ⟨hprogress, hbounce, -⟩ := (ensures_bringUp_books _ _ _).of_run hrun _ _ rfl
    intro hmarked
    rw [hprogress] at hmarked
    exact hbounce (ih hmarked)
  | cleanedUp _ hrun _ =>
    rw [slot_of_cleanup hrun]
    exact fun hmarked => absurd rfl hmarked
  | issued _ hrun ih => exact (accounted_of_issueRequest ih hrun).held
  | @operated _ _ _ operation _ _ _ _ hrun ih =>
    have hkept : Maintains (fun _ => True) Held (performBusOperation operation) :=
      maintains_performBusOperation (fun _ _ h => h) operation
    exact hkept.of_run ih hrun
  | called _ _ _ ih => exact ih
  | stored _ _ _ _ _ => exact fun _ => Option.some_ne_none _

/-- What is noted is about the last command, for as long as nothing came of it. -/
theorem bounceInProgress_of_logged {since earlier : List Deed} {before : Slot} {progress : Progress}
    {events : List Event}
    (h : Logged host (since ++ .issued before request (.ok progress) events :: earlier) slot)
    (htype : request.requestType ≠ .startTransfer) (hmethod : request.command.method = .pio)
    (hsince : ∀ deed ∈ since, deed.Continues) :
    slot.bounceInProgress ≠ none ↔
      (∃ event ∈ events, event.EnablesDma) ∧ ∀ deed ∈ since, ¬ deed.EndsBounce := by
  -- induction on what was done since, from the last deed back to the command
  induction since generalizing slot with
  | nil =>
    cases h with
    | issued _ hrun => simp [enablesDma_iff_of_sent htype hmethod hrun]
  | cons deed since ih =>
    obtain ⟨hcontinues, hrest⟩ := List.forall_mem_cons.mp hsince
    have hother : ¬ Deed.EndsBounce .other := id
    rw [List.cons_append] at h
    rw [List.forall_mem_cons]
    cases h with
    | broughtUp => cases hcontinues
    | cleanedUp => cases hcontinues
    | @issued _ last _ again _ _ _ _ hlast hrun =>
      have hmarked := ih hlast hrest
      have hslot := slot_of_continued hcontinues hrun
      by_cases hpio : again.command.method = .pio
      · -- such a step leaves nothing noted, and if something was noted it is the step that ends it
        rw [if_pos hpio] at hslot
        subst hslot
        refine iff_of_false (fun hnone => hnone rfl) fun ⟨hdma, hends, hnever⟩ => hends ?_
        exact (endsBounce_iff hcontinues hpio).mpr (hmarked.mpr ⟨hdma, hnever⟩)
      · rw [if_neg hpio] at hslot
        subst hslot
        rw [and_iff_right fun hends => hpio hends.2.1]
        exact hmarked
    | @operated _ last _ operation _ _ _ hlast hrun =>
      have hkept : Maintains (fun _ => True)
          (fun slot => slot.bounceInProgress = last.bounceInProgress)
          (performBusOperation operation) := maintains_performBusOperation (fun _ _ h => h) operation
      rw [hkept.of_run rfl hrun, and_iff_right hother]
      exact ih hlast hrest
    | called hlast _ _ =>
      rw [and_iff_right hother]
      exact ih hlast hrest
    | stored hlast _ _ _ =>
      have hmarked := ih hlast hrest
      rw [and_iff_right hother]
      exact hmarked

end Slot

/-- **The books of the bounce pages.** Take a slot of any controller, and any log of what was done with
it since it was created, whatever the hardware and the allocator answered.

If a transfer is noted to go through the bounce pages, there are some, and so going on with a data phase
never fails for want of pages. When a step of a request or bringing the slot up asks for new pages, and
the allocator has none or none that can be taken into use, the pages that were there are left as they
are.

Say the last command that was issued was accepted, that the processor was to move its data, and that the
slot was neither brought up nor cleaned up since. Then going on with the data phase of the processor is
ending one that went through the pages just if the command let the controller move data, and no step
since ended one. -/
theorem bounce_bookkeeping {σ : Type} {host : Host σ} {log : List Slot.Deed} {slot : Slot}
    (hlog : slot.Logged host log) :
    (slot.bounceInProgress ≠ none → slot.bounce ≠ none) ∧
    (∀ (request request' : Request) (cause : Error) (slot' : Slot) (state after : σ),
      request.requestType = .startTransfer →
      (slot.issueRequest request).run host state = (.ok (.error cause, slot', request'), after) →
      cause ≠ .insufficientResources) ∧
    (∀ (request request' : Request) (result : Except Error Progress) (slot' : Slot)
        (state after : σ),
      (slot.issueRequest request).run host state = (.ok (result, slot', request'), after) →
      (∃ event ∈ (slot.issueRequest request).history host state,
        event.RefusesPages slot.busOffset) → slot'.bounce = slot.bounce) ∧
    (∀ (length : Nat) (crashDump : Bool) (result : Except Error Unit) (slot' : Slot)
        (state after : σ),
      ((Slot.bringUp length crashDump).start slot).run host state =
        (.ok (result, slot'), after) →
      (∃ event ∈ ((Slot.bringUp length crashDump).start slot).history host state,
        event.RefusesPages slot.controller.busOffset) → slot'.bounce = slot.bounce) ∧
    ∀ (since earlier : List Slot.Deed) (before : Slot) (request : Request) (progress : Progress)
        (events : List Event),
      log = since ++ .issued before request (.ok progress) events :: earlier →
      request.requestType ≠ .startTransfer → request.command.method = .pio →
      (∀ deed ∈ since, deed.Continues) →
      ∀ next : Request, next.requestType = .startTransfer → next.command.method = .pio →
        (slot.EndsBounce next ↔
          (∃ event ∈ events, event.EnablesDma) ∧ ∀ deed ∈ since, ¬ deed.EndsBounce) := by
  have hheld := Slot.held_of_logged hlog
  refine ⟨hheld, ?_, ?_, ?_, ?_⟩
  · intro request request' cause slot' state after htype hrun
    exact Slot.error_of_continued hheld htype hrun
  · intro request request' result slot' state after hrun
    exact (Slot.accounted_of_issueRequest hheld hrun).kept
  · intro length crashDump result slot' state after hrun
    exact ((Slot.ensures_bringUp_books _ _ _).of_run hrun _ _ rfl).2.2
  · rintro since earlier before request progress events rfl htype hmethod hsince next hnext hpio
    rw [Slot.endsBounce_iff hnext hpio]
    exact Slot.bounceInProgress_of_logged hlog htype hmethod hsince

/-- Two bytes that are written through the page of a slot that was brought up: the framework goes on with
the data phase, which ends it, and to go on once more would not. -/
theorem bounce_bookkeeping_one_page :
    ∃ (log : List Slot.Deed) (sent done : Slot),
      sent.Logged Bench.World.host log ∧ sent.bounce ≠ none ∧ sent.EndsBounce OnePage.next ∧
      done.Logged Bench.World.host (.issued sent OnePage.next (.ok .completed)
        [⟨.complete { OnePage.next with status := .success, completions := 1 } .success, ()⟩] ::
          log) ∧
      ¬ done.EndsBounce OnePage.next := by
  obtain ⟨up, hup⟩ := OnePage.exists_run_bringUp
  obtain ⟨sent, request', after, -, -, -, hrun, hprogress, -⟩ := OnePage.exists_runs
  have hstart : OnePage.next.requestType = .startTransfer := rfl
  have hsent : sent.Logged Bench.World.host _ :=
    .issued (.broughtUp (.created rfl rfl) hup) hrun
  have hending : sent.issueRequest OnePage.next = sent.ending OnePage.next :=
    Slot.issueRequest_eq_ending hstart rfl hprogress
  have hdone : Slot.Logged Bench.World.host _ { sent with bounceInProgress := none } :=
    .issued hsent (congrArg (Program.run Bench.World.host · after) hending)
  rw [hending] at hdone
  obtain ⟨hheld, -, -, -, hlast⟩ := bounce_bookkeeping hsent
  have hends : sent.EndsBounce OnePage.next := by
    refine (hlast [] _ _ _ _ _ rfl (by decide) rfl (List.forall_mem_nil _) _ hstart rfl).mpr ?_
    exact ⟨OnePage.enablesDma_request, List.forall_mem_nil _⟩
  refine ⟨_, sent, _, hsent, hheld (by simp [hprogress]), hends, hdone, fun hagain => ?_⟩
  -- the step before is one that ended the data phase
  have hsince : ∀ deed ∈ [Slot.Deed.issued sent OnePage.next (.ok .completed)
      ((sent.ending OnePage.next).history Bench.World.host after)], deed.Continues :=
    List.forall_mem_singleton.mpr hstart
  obtain ⟨-, -, -, -, hlast⟩ := bounce_bookkeeping hdone
  have hnever := ((hlast [_] _ _ _ _ _ rfl (by decide) rfl hsince _ hstart rfl).mp hagain).2
  exact hnever _ List.mem_cons_self hends

end SdHost
