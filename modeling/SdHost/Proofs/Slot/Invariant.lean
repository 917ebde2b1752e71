import SdHost.Proofs.Bus.Footprint
import SdHost.Slot.BringUp

/-!
# What bus operations leave alone

A bus operation changes nothing about the slot but the note of where the regulator is. So it keeps
every property of the slot that has nothing to do with that note: `Slot.maintains_performBusOperation`
says so, and `Slot.maintains_resetRegulator` says the same of bringing the regulator to 3.3 V, which
also leaves the registers alone.
-/

namespace SdHost

open SdHost.Task (Maintains)

namespace Slot

variable {Quiet : Event → Prop} {Inv : Slot → Prop}

theorem maintains_program {α : Type} (program : Program α) :
    Maintains (fun _ => True) Inv (liftM program : Task Slot α) :=
  .program (.of_forall (fun _ => trivial) program)

/-- A failure that is caught, and then nothing more is done. -/
theorem maintains_tried {task : Task Slot Unit} (h : Maintains Quiet Inv task) :
    Maintains Quiet Inv (do try task catch _ => return) := by
  refine Maintains.bind (.tryCatch (h.bind fun _ => .pure _) fun _ => .pure _) fun outcome => ?_
  cases outcome with
  | error _ => exact .pure _
  | ok _ => exact .pure _

section Regulator

variable (hregulator : ∀ slot at18, Inv slot → Inv { slot with regulatorAt18 := at18 })

include hregulator

section Quiet

variable (hquiet : ∀ event : Event, event.isMessage = true → Quiet event)

include hquiet

theorem maintains_switchRegulator (at18 : Bool) : Maintains Quiet Inv (switchRegulator at18) := by
  refine Maintains.get.bind fun slot => ?_
  cases slot.regulator with
  | none => exact .throw _
  | some channel =>
    refine (Maintains.program (channel.asks_drivePin hquiet _ _)).bind fun outcome => ?_
    cases outcome with
    | error cause => exact .throw _
    | ok _ => exact .modify fun slot h => hregulator slot at18 h

theorem maintains_resetRegulator : Maintains Quiet Inv resetRegulator := by
  refine Maintains.bind (.modify fun slot h => hregulator slot false h) fun _ => ?_
  refine Maintains.get.bind fun slot => ?_
  cases slot.regulator with
  | none => exact .pure _
  | some channel =>
    refine (Maintains.program (channel.asks_readPin hquiet _)).discard.bind fun _ => ?_
    exact maintains_tried (maintains_switchRegulator hregulator hquiet false)

end Quiet

theorem maintains_restoreRegulator (previous : Bool) :
    Maintains (fun _ => True) Inv (Signaling.restoreRegulator previous) := by
  refine Maintains.get.bind fun slot => ?_
  refine .ite (fun _ => ?_) fun _ => .pure _
  exact maintains_tried (maintains_switchRegulator hregulator (fun _ _ => trivial) previous)

theorem maintains_switch (voltage : SignalingVoltage) :
    Maintains (fun _ => True) Inv (Signaling.switch voltage) := by
  refine Maintains.get.bind fun slot => ?_
  refine (maintains_program _).bind fun _ => (maintains_program _).bind fun _ => ?_
  refine (maintains_program _).bind fun lines => ?_
  refine .ite (fun _ => .throw_bind _ _) fun _ => ?_
  -- what comes after the regulator was switched, or left alone
  have hrest : ∀ after : Unit → Task Slot Unit,
      (∀ value, Maintains (fun _ => True) Inv (after value)) →
      Maintains (fun _ => True) Inv
        (if (slot.controller.externalRegulator &&
            slot.regulatorAt18 != (voltage == SignalingVoltage.v18)) = true then
          switchRegulator (voltage == SignalingVoltage.v18) >>= after else after ()) := by
    intro after hafter
    exact .ite (fun _ => (maintains_switchRegulator hregulator (fun _ _ => trivial) _).bind hafter)
      fun _ => hafter ()
  have hrestore := maintains_restoreRegulator hregulator slot.regulatorAt18
  refine hrest _ fun _ => ?_
  refine (maintains_program _).bind fun _ => (maintains_program _).bind fun _ => ?_
  refine (maintains_program _).bind fun latched => ?_
  refine .ite (fun _ => hrestore.bind fun _ => .throw_bind _ _) fun _ => ?_
  refine (maintains_program _).bind fun _ => (maintains_program _).bind fun _ => ?_
  refine (maintains_program _).bind fun lines => ?_
  exact .ite (fun _ => hrestore.bind fun _ => .throw _) fun _ => .pure _

/-- A bus operation keeps what has nothing to do with the regulator, whether it succeeds or fails. -/
theorem maintains_performBusOperation (operation : BusOperation) :
    Maintains (fun _ => True) Inv (performBusOperation operation) := by
  -- the only operation that changes the slot, where it switches the regulator
  by_cases hswitch : ∃ voltage, operation = .setSignalingVoltage voltage
  · obtain ⟨voltage, rfl⟩ := hswitch
    exact Maintains.get.bind fun _ => maintains_switch hregulator voltage
  · exact (maintains_performBusOperation_of_ne (not_exists.mp hswitch)).weaken fun _ _ => trivial

end Regulator

end Slot

end SdHost
