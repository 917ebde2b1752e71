import SdHost.Bus.Perform
import SdHost.Proofs.Regulator.Channel
import SdHost.Proofs.Transfer.Invariant

/-!
# Steps of a slot in use

Whatever is done with a slot in use is one of a few things, each of which may change the slot and the
surroundings together. What holds along all that is done with a slot is shown step by step.

The module introduces:

* `Slot.Call`: the calls that leave the slot as it is;
* `Slot.Step host`: all that can be done with a slot in use.

`Slot.Call.asks` says that a call asks for nothing but register accesses, and that it may tell the
framework that a request is done.
-/

namespace SdHost

open Program (Asks)

/-- The event is one that it takes to work on a request: to send its command, to move its data, to
follow its interrupts or to end it. -/
def Event.works (event : Event) : Bool :=
  event.transfers || event.completes

theorem Event.works_of_transfers {event : Event} (h : event.transfers = true) :
    event.works = true := by
  rw [works, h, Bool.true_or]

theorem Event.works_of_completes {event : Event} (h : event.completes = true) :
    event.works = true := by
  rw [works, h, Bool.or_true]

/-- The regulator is not concerned then. -/
theorem Event.isMessage_eq_of_works {event : Event} (h : event.works = true) :
    event.isMessage = false := by
  obtain ⟨query, reply⟩ := event
  cases query <;> first | rfl | cases h

theorem Program.asks_mapM {α β : Type} {Quiet : Event → Prop} {call : α → Program β}
    (hcall : ∀ value, (call value).Asks Quiet) (values : List α) :
    (values.mapM call).Asks Quiet := by
  induction values with
  | nil =>
    rw [List.mapM_nil]
    exact .done _
  | cons value values ih =>
    rw [List.mapM_cons]
    exact (hcall value).bind fun _ => ih.bind fun _ => .done _

/-- Accounting for events asks for nothing but that the framework is told. -/
theorem Request.asks_account (request : Request) (events errors : Word) :
    (request.account events errors).Asks fun event => event.completes = true := by
  have hfinish : ∀ (request : Request) status,
      (request.finish status).Asks fun event => event.completes = true :=
    fun _ _ => .ask (fun _ => rfl) fun _ => .done _
  exact .ite (hfinish _ _) (.ite (hfinish _ _) (.done _))

namespace Slot

/-- The calls that leave the slot as it is: the interrupt path, the state of the card, and the responses
that commands got. -/
inductive Call (slot : Slot) : {α : Type} → Program α → Prop
  | takeInterrupts : Call slot takeInterrupts
  | acknowledge (mask : Word) : Call slot (acknowledge mask)
  | account (request : Request) (events errors : Word) : Call slot (request.account events errors)
  | toggleEvents (mask : Word) (enable : Bool) : Call slot (slot.toggleEvents mask enable)
  | cardInserted : Call slot cardInserted
  | writeProtected : Call slot writeProtected
  | readResponse (command : Command) : Call slot (readResponse command)

theorem Call.asks {slot : Slot} {α : Type} {program : Program α} (hcall : slot.Call program) :
    program.Asks fun event => event.works = true := by
  have hquiet : ∀ event : Event, event.transfers = true → event.works = true :=
    fun _ => Event.works_of_transfers
  have hread : ∀ {width : Width} (register : Register width),
      register.read.Asks fun event => event.works = true := Transfer.asks_read hquiet
  have hwrite : ∀ {width : Width} (register : Register width) value,
      (register.write value).Asks fun event => event.works = true := Transfer.asks_write hquiet
  have hacknowledge : ∀ mask, (Slot.acknowledge mask).Asks fun event => event.works = true := by
    intro mask
    refine .ite ?_ (hwrite _ _)
    exact (hwrite _ _).bind fun _ => (hwrite _ _).bind fun _ => (hwrite _ _).bind fun _ => hwrite _ _
  cases hcall with
  | takeInterrupts =>
    refine (hread _).bind fun status => .ite (.done _) ?_
    refine .ite ((hread _).bind fun errors => ?_) ?_
    · exact (hacknowledge _).bind fun _ => .done _
    · exact (hacknowledge _).bind fun _ => .done _
  | acknowledge mask => exact hacknowledge mask
  | account request events errors =>
    exact (request.asks_account events errors).weaken fun _ => Event.works_of_completes
  | toggleEvents mask enable =>
    refine (hread _).bind fun enabled => .ite ?_ ?_
    · refine .ite ?_ ((hwrite _ _).bind fun _ => hwrite _ _)
      exact (hwrite _ _).bind fun _ => (hwrite _ _).bind fun _ => (hwrite _ _).bind fun _ =>
        hwrite _ _
    · exact (hwrite _ _).bind fun _ => (hwrite _ _).bind fun _ => (hwrite _ _).bind fun _ =>
        hwrite _ _
  | cardInserted => exact (hread _).bind fun _ => .done _
  | writeProtected => exact (hread _).bind fun _ => .done _
  | readResponse command => exact Program.asks_mapM (fun _ => hread _) _

theorem asks_cleanup (slot : Slot) : slot.cleanup.Asks fun event => event.works = true := by
  have hrelease : (releasePages slot.bounce).Asks fun event => event.works = true := by
    rcases slot.bounce with _ | pages
    · exact .done _
    · exact .request fun _ => rfl
  exact hrelease.bind fun _ => .done _

variable {σ : Type}

/-- All that can be done with a slot in use, from the slot and its surroundings before to those
after. -/
inductive Step (host : Host σ) : Slot × σ → Slot × σ → Prop
  /-- A bus operation was carried out. It may have failed. -/
  | operated {slot slot' : Slot} {state after : σ} {operation : BusOperation}
      {result : Except Error Unit}
      (hrun : ((performBusOperation operation).start slot).run host state =
        (.ok (result, slot'), after)) : Step host (slot, state) (slot', after)
  /-- A step of a request was carried out. It may have failed. -/
  | issued {slot slot' : Slot} {state after : σ} {request request' : Request}
      {result : Except Error Progress}
      (hrun : (slot.issueRequest request).run host state = (.ok (result, slot', request'), after)) :
      Step host (slot, state) (slot', after)
  /-- A call was made. -/
  | called {slot : Slot} {state after : σ} {α : Type} {program : Program α} {value : α}
      (hcall : slot.Call program) (hrun : program.run host state = (.ok value, after)) :
      Step host (slot, state) (slot, after)
  /-- The bounce pages were given back. -/
  | cleanedUp {slot slot' : Slot} {state after : σ}
      (hrun : slot.cleanup.run host state = (.ok slot', after)) :
      Step host (slot, state) (slot', after)
  /-- The controller stored something in the bounce pages. -/
  | stored {slot : Slot} {state : σ} {pages : BouncePages} (hbounce : slot.bounce = some pages)
      (data : Memory) (hsize : data.size = pages.buffer.data.size) :
      Step host (slot, state)
        ({ slot with bounce := some { pages with buffer := { pages.buffer with data } } }, state)

end Slot

end SdHost
