import SdHost.Proofs.Host.Invariant
import SdHost.Proofs.Transfer.DataPort
import SdHost.Proofs.Transfer.Steps

/-!
# What transfers leave alone

Nearly all of a step neither changes the slot, but for the note of what goes through the bounce pages,
nor tells the framework that anything is done. The exceptions are the data phases that are set up
for bounce pages, and the ends of data phases that the processor does not move. A property that
has to do with one of these can be shown for them alone: `Transfer.maintains_sendCommand` and
`Transfer.maintains_continuePio` take care of the rest, and `Transfer.maintains_step` of all steps.
-/

namespace SdHost

/-- The event tells the framework that a step is done. -/
def Event.completes (event : Event) : Bool :=
  match event.query with
  | .complete _ _ => true
  | _ => false

/-- The event is about the memory of bounce pages, which is got or given back. -/
def Event.allocates (event : Event) : Bool :=
  match event.query with
  | .allocate _ | .release _ => true
  | _ => false

/-- The event is one that it takes to send a command or to move data. -/
def Event.transfers (event : Event) : Bool :=
  event.isAccess || event.allocates

theorem Event.isAccess_of_allocates {event : Event} (h : event.allocates = true) :
    event.isAccess = false := by
  obtain ⟨query, reply⟩ := event
  cases query <;> first | rfl | cases h

theorem Event.completes_of_transfers {event : Event} (h : event.transfers = true) :
    event.completes = false := by
  obtain ⟨query, reply⟩ := event
  cases query <;> first | rfl | cases h

open Program (Asks)
open SdHost.Task (Maintains)

namespace Transfer

variable {Quiet : Event → Prop} {Inv : Transfer → Prop}

theorem maintains_require {α : Type} (value? : Option α) (cause : Error) :
    Maintains Quiet Inv (require value? cause) := by
  cases value? with
  | none => exact .throw cause
  | some value => exact .pure value

theorem maintains_modifyRequest (hrequest : ∀ t request, Inv t → Inv { t with request })
    (change : Request → Request) : Maintains Quiet Inv (modifyRequest change) :=
  Maintains.modify fun t => hrequest t _

theorem maintains_modifyCommand (hrequest : ∀ t request, Inv t → Inv { t with request })
    (change : Command → Command) : Maintains Quiet Inv (modifyCommand change) :=
  maintains_modifyRequest hrequest _

section Pages

/-! ## Getting bounce pages -/

variable (hquiet : ∀ event : Event, event.allocates = true → Quiet event)

include hquiet

/-- Allocating pages changes nothing but the pages. -/
theorem ensures_allocateBounce_quiet (slot : Slot) (length : Nat) :
    (slot.allocateBounce length).run.Ensures (fun _ => True) fun events outcome =>
      (∀ event ∈ events, Quiet event) ∧
      ∀ slot', outcome = .ok (.ok slot') → slot' = { slot with bounce := slot'.bounce } := by
  have hallocate : ∀ size reply, Quiet ⟨.allocate size, reply⟩ := fun _ _ => hquiet _ rfl
  have hrelease : ∀ buffer reply, Quiet ⟨.release buffer, reply⟩ := fun _ _ => hquiet _ rfl
  rw [Slot.run_allocateBounce]
  cases Slot.wholePages length with
  | error cause => exact ⟨by simp, by rintro _ ⟨⟩⟩
  | ok size =>
    intro reply _
    obtain _ | buffer := reply
    · exact ⟨by simp [hallocate], by rintro _ ⟨⟩⟩
    · dsimp only
      cases BouncePages.new buffer slot.busOffset with
      | error refused =>
        intro _ _
        exact ⟨by simp [hallocate, hrelease], by rintro _ ⟨⟩⟩
      | ok pages =>
        -- the pages that were there before, if any, are given back first
        obtain _ | before := slot.bounce
        · refine ⟨by simp [hallocate], ?_⟩
          rintro _ ⟨⟩
          rfl
        · intro _ _
          refine ⟨by simp [hallocate, hrelease], ?_⟩
          rintro _ ⟨⟩
          rfl

/-- Reserving pages keeps what has nothing to do with the pages. -/
theorem maintains_reservePages
    (hbounce : ∀ (t : Transfer) bounce, Inv t → Inv { t with slot := { t.slot with bounce } })
    (length : Nat) : Maintains Quiet Inv (reservePages length) := by
  intro t ht
  have hsame : ∀ (reserved : Bool) result t',
      (Except.ok (Except.ok reserved, t) : Except Fault (Except Error Bool × Transfer)) =
        .ok (result, t') → Inv t' := by
    rintro _ _ _ ⟨⟩
    exact ht
  rw [start_reservePages]
  split
  · exact ⟨by simp, hsame _⟩
  split
  · exact ⟨by simp, hsame _⟩
  rw [Program.ensures_bind]
  refine (ensures_allocateBounce_quiet hquiet t.slot length).mono ?_
  rintro events (cause | cause | slot) ⟨hevents, hslot⟩
  · exact ⟨hevents, by rintro _ _ ⟨⟩⟩
  · simp only [Program.ensures_done, List.append_nil]
    exact ⟨hevents, hsame _⟩
  · simp only [Program.ensures_done, List.append_nil]
    refine ⟨hevents, ?_⟩
    rintro _ _ ⟨⟩
    rw [hslot slot rfl]
    exact hbounce t _ ht

end Pages

section Quiet

variable (hquiet : ∀ event : Event, event.transfers = true → Quiet event)

include hquiet

theorem asks_read {width : Width} (register : Register width) : register.read.Asks Quiet :=
  .ask (fun _ => hquiet _ rfl) fun _ => .request fun _ => hquiet _ rfl

theorem asks_write {width : Width} (register : Register width) (value : BitVec width.bits) :
    (register.write value).Asks Quiet :=
  .ask (fun _ => hquiet _ rfl) fun _ => .request fun _ => hquiet _ rfl

theorem asks_readUnfenced {width : Width} (register : Register width) :
    register.readUnfenced.Asks Quiet :=
  .request fun _ => hquiet _ rfl

theorem asks_writeUnfenced {width : Width} (register : Register width)
    (value : BitVec width.bits) : (register.writeUnfenced value).Asks Quiet :=
  .request fun _ => hquiet _ rfl

theorem asks_writeCommand (command : Command) (phase : Option (Direction × DataPhase)) :
    (writeCommand command phase).Asks Quiet := by
  refine (ensures_writeCommand _ command phase).mono ?_
  rintro events _ ⟨rfl, -⟩ event hevent
  apply hquiet
  simp only [commandEvents, List.mem_cons, List.not_mem_nil, or_false] at hevent
  rcases hevent with rfl | rfl | rfl | rfl | rfl | rfl | rfl <;> rfl

theorem asks_readWords (words : Nat) (block : Memory) : (readWords words block).Asks Quiet := by
  induction words generalizing block with
  | zero => exact .done block
  | succ words ih => exact (asks_readUnfenced hquiet _).bind fun word => ih _

theorem asks_readBytes (bytes : Nat) (block : Memory) : (readBytes bytes block).Asks Quiet := by
  induction bytes generalizing block with
  | zero => exact .done block
  | succ bytes ih => exact (asks_read hquiet _).bind fun byte => ih _

theorem asks_readBlock (size : Nat) : (readBlock size).Asks Quiet := by
  rw [readBlock]
  split
  · exact asks_readBytes hquiet _ _
  · refine .ask (fun _ => hquiet _ rfl) fun _ => ?_
    exact (asks_readWords hquiet _ _).bind fun block => asks_readBytes hquiet _ _

theorem asks_writeBytes (run : List Byte) : (writeBytes run).Asks Quiet := by
  induction run with
  | nil => exact .done ()
  | cons byte rest ih => exact (asks_write hquiet _ _).bind fun _ => ih

theorem asks_writeBlock (run : List Byte) : (writeBlock run).Asks Quiet := by
  fun_induction writeBlock run with
  | case1 a b c d word e f g h rest _ ih => exact (asks_writeUnfenced hquiet _ _).bind fun _ => ih
  | case2 a b c d word rest _ _ ih => exact (asks_write hquiet _ _).bind fun _ => ih
  | case3 tail => exact asks_writeBytes hquiet tail

/-! ## Setting up a data phase of the processor -/

section Pages

variable (hpages : ∀ (t : Transfer) bounce bounceInProgress, Inv t →
  Inv { t with slot := { t.slot with bounce, bounceInProgress } })

include hpages

theorem maintains_setUpBounce (pages : BouncePages) (command : Command) (direction : Direction) :
    Maintains Quiet Inv (setUpBounce pages command direction) := by
  have hbounce : ∀ bounce, Maintains Quiet Inv (modifySlot fun slot => { slot with bounce }) :=
    fun bounce => .modify fun t ht => hpages t bounce t.slot.bounceInProgress ht
  have hprogress : ∀ bounceInProgress,
      Maintains Quiet Inv (modifySlot fun slot => { slot with bounceInProgress }) :=
    fun progress => .modify fun t ht => hpages t t.slot.bounce progress ht
  refine (Maintains.ofExcept _).bind fun pages => (hbounce _).bind fun _ => ?_
  refine .ite (fun _ => ?_) fun _ => ?_
  · refine Maintains.bind (maintains_require _ _) fun source => ?_
    refine (hbounce _).bind fun _ => (hprogress _).bind fun _ => ?_
    exact (Maintains.program (asks_writeUnfenced hquiet _ _)).bind fun _ => .pure _
  · refine (hprogress _).bind fun _ => ?_
    exact (Maintains.program (asks_writeUnfenced hquiet _ _)).bind fun _ => .pure _

theorem maintains_setUpPio (command : Command) (direction : Direction) :
    Maintains Quiet Inv (setUpPio command direction) := by
  refine .ite (fun _ => .throw_bind _ _) fun _ => ?_
  have hallocates : ∀ event : Event, event.allocates = true → Quiet event := by
    intro event hevent
    exact hquiet event (by rw [Event.transfers, hevent, Bool.or_true])
  have hbounce : ∀ (t : Transfer) bounce, Inv t → Inv { t with slot := { t.slot with bounce } } :=
    fun t bounce ht => hpages t bounce t.slot.bounceInProgress ht
  refine (maintains_reservePages hallocates hbounce _).bind fun _ => Maintains.get.bind fun t => ?_
  split
  · exact maintains_setUpBounce hquiet hpages _ command direction
  · exact .pure _

end Pages

/-! ## What leaves the slot alone -/

variable (hrequest : ∀ t request, Inv t → Inv { t with request })

include hrequest

theorem maintains_moveBlock (command : Command) (direction : Direction) :
    Maintains Quiet Inv (moveBlock command direction) := by
  cases direction with
  | read =>
    refine (maintains_require _ _).bind fun buffer => ?_
    refine (maintains_require _ _).discard.bind fun _ => ?_
    refine (Maintains.program (asks_readBlock hquiet _)).bind fun block => ?_
    exact maintains_modifyCommand hrequest _
  | write =>
    refine (maintains_require _ _).bind fun buffer => ?_
    refine (maintains_require _ _).bind fun block => ?_
    exact .program (asks_writeBlock hquiet _)

theorem maintains_continuePio : Maintains Quiet Inv continuePio := by
  refine Maintains.get.bind fun t => ?_
  refine .ite (fun _ => .throw_bind _ _) fun _ => ?_
  refine (maintains_require _ _).bind fun direction => ?_
  refine (maintains_moveBlock hquiet hrequest _ _).bind fun _ => ?_
  refine (maintains_modifyCommand hrequest _).bind fun _ => Maintains.get.bind fun t' => ?_
  refine .ite (fun _ => ?_) fun _ => ?_
  · exact (maintains_modifyRequest hrequest _).bind fun _ => .pure _
  · exact (maintains_modifyRequest hrequest _).bind fun _ => .pure _

theorem maintains_setUpScatterGather (command : Command) :
    Maintains Quiet Inv (setUpScatterGather command) := by
  refine Maintains.get.bind fun t => ?_
  refine .ite (fun _ => .throw_bind _ _) fun _ => ?_
  refine (maintains_require _ _).bind fun elements => ?_
  refine (maintains_require _ _).bind fun table => ?_
  refine (Maintains.ofExcept _).bind fun (info, memory) => ?_
  refine (maintains_modifyCommand hrequest _).bind fun _ => ?_
  refine (Maintains.except info).discard.bind fun _ => ?_
  refine (Maintains.program (asks_writeUnfenced hquiet _ _)).bind fun _ => ?_
  refine .ite (fun _ => ?_) fun _ => .pure _
  exact (Maintains.program (asks_writeUnfenced hquiet _ _)).bind fun _ => .pure _

/-! ## Sending a command -/

variable (hpio : ∀ command direction, Maintains Quiet Inv (setUpPio command direction))

include hpio

theorem maintains_setUpDataPhase (command : Command) :
    Maintains Quiet Inv (setUpDataPhase command) := by
  refine .ite (fun _ => .pure _) fun _ => ?_
  refine (Maintains.except _).bind fun direction => ?_
  cases command.method with
  | pio => exact (hpio command direction).bind fun _ => .pure _
  | scatterGather =>
    exact (maintains_setUpScatterGather hquiet hrequest command).bind fun _ => .pure _

/-! ## All steps -/

variable (hprogress : ∀ t progress, Inv t → Inv { t with slot.bounceInProgress := progress })

include hprogress

/-- Sending a command keeps what is kept while its data phase is set up. -/
theorem maintains_sendCommand : Maintains Quiet Inv sendCommand := by
  refine Maintains.bind (.modify fun t => hprogress t none) fun _ => ?_
  refine (maintains_modifyRequest hrequest _).bind fun _ => Maintains.get.bind fun t => ?_
  refine (maintains_setUpDataPhase hquiet hrequest hpio _).bind fun phase => ?_
  -- the accesses leave the slot and the request alone
  refine (maintains_modifyRequest hrequest _).bind fun _ => ?_
  exact (Maintains.program (asks_writeCommand hquiet _ _)).bind fun _ => .pure _

variable (hcompletes : ∀ event : Event, event.completes = true → Quiet event)

include hcompletes

omit hquiet hpio hprogress in
theorem maintains_finish : Maintains Quiet Inv finish := by
  intro t ht
  rw [start_finish]
  intro _ _
  refine ⟨List.forall_mem_singleton.mpr (hcompletes _ rfl), ?_⟩
  rintro _ _ ⟨⟩
  exact hrequest t _ ht

omit hquiet hpio in
theorem maintains_finishBounce : Maintains Quiet Inv finishBounce := by
  have hfinish : Maintains Quiet Inv finish := maintains_finish hrequest hcompletes
  refine Maintains.get.bind fun t => Maintains.get.bind fun t' => ?_
  refine Maintains.bind (.modify fun t ht => hprogress t none ht) fun _ => ?_
  refine .ite (fun _ => ?_) fun _ => hfinish
  -- the copy changes the request alone
  refine (maintains_require _ _).bind fun pages => ?_
  refine (maintains_require _ _).bind fun source => ?_
  refine (maintains_require _ _).bind fun buffer => ?_
  refine (maintains_require _ _).discard.bind fun _ => ?_
  exact (maintains_modifyCommand hrequest _).bind fun _ => hfinish

omit hpio in
theorem maintains_continueData : Maintains Quiet Inv continueData := by
  refine Maintains.get.bind fun t => ?_
  cases t.request.command.method with
  | scatterGather =>
    refine Maintains.get.bind fun t => ?_
    exact .ite (fun _ => .throw_bind _ _) fun _ => maintains_finish hrequest hcompletes
  | pio =>
    exact .ite (fun _ => maintains_finishBounce hrequest hprogress hcompletes) fun _ =>
      maintains_continuePio hquiet hrequest

/-- A step of a request keeps what is kept while a data phase is set up, whether it succeeds or
fails. -/
theorem maintains_step : Maintains Quiet Inv step := by
  have hsend : Maintains Quiet Inv sendCommand := maintains_sendCommand hquiet hrequest hpio hprogress
  refine (maintains_modifyRequest hrequest _).bind fun _ => Maintains.get.bind fun t => ?_
  cases t.request.requestType with
  | commandNoTransfer => exact hsend
  | commandWithTransfer => exact hsend
  | startTransfer => exact maintains_continueData hquiet hrequest hprogress hcompletes

end Quiet

end Transfer

end SdHost
