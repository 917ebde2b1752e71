import SdHost.Proofs.Bench.Firmware
import SdHost.Proofs.Bus.Switch
import SdHost.Proofs.Slot.Step

/-!
# The note of where the regulator is

The slot notes where the regulator is, so that it does not have to ask the firmware. Once the note
agrees with the pin, nothing that is done with the slot makes the two disagree, however the hardware
behaves and whichever calls the firmware refuses.

* `PinFirmware.Next`: what can be done with the slot, and what else can happen;
* `PinFirmware.Agrees.step`: the note agrees with the pin after a single step;
* `agrees_of_steps`: it does after any number of steps.
-/

namespace SdHost

open SdHost.Task (Maintains)

namespace PinFirmware

variable {σ : Type} {host : Host σ} {channel : Channel} {firmware : PinFirmware host channel}
  {slot slot' : Slot} {state after : σ}

/-- What asks the firmware for nothing does not move the pin. -/
theorem pin_of_asks {α : Type} {program : Program α} {outcome : Except Fault α}
    (hasks : program.Asks fun event => event.isMessage = false)
    (hrun : program.run host state = (outcome, after)) :
    firmware.pin after = firmware.pin state :=
  (hasks.weaken firmware.other).view_eq hrun

/-- Neither does what only works on the registers. -/
theorem pin_of_writesAmong {α : Type} {program : Program α} {outcome : Except Fault α}
    {places : List (Width × Nat)} (hasks : program.Asks (Event.WritesAmong places))
    (hrun : program.run host state = (outcome, after)) :
    firmware.pin after = firmware.pin state :=
  firmware.pin_of_asks (hasks.weaken fun _ => Event.WritesAmong.isMessage_eq) hrun

namespace Agrees

variable (h : firmware.Agrees slot state) (honly : ∀ used ∈ slot.regulator, used = channel)

include h honly

/-! ## The stages of a switch -/

theorem moveRegulator {at18 : Bool} {result : Except Error Unit}
    (hrun : ((Signaling.moveRegulator at18).start slot).run host state =
      (.ok (result, slot'), after)) :
    firmware.Agrees slot' after ∧ slot'.regulator = slot.regulator := by
  rw [Signaling.start_moveRegulator] at hrun
  split at hrun
  · exact h.switchRegulator honly hrun
  · cases hrun
    exact ⟨h, rfl⟩

/-- Where the regulator is put back the note goes with it, and where that fails the note stays. -/
theorem putBack {previous : Bool}
    (hrun : (Signaling.putBack previous slot).run host state = (.ok slot', after)) :
    firmware.Agrees slot' after ∧ slot'.regulator = slot.regulator := by
  rw [Signaling.putBack] at hrun
  split at hrun
  · obtain ⟨⟨result, restored⟩, _, hswitch, hrest, -⟩ := Program.exists_of_run_bind hrun
    cases hrest
    exact h.switchRegulator honly hswitch
  · cases hrun
    exact ⟨h, rfl⟩

/-- However a switch goes, each of its stages keeps the note in line with the pin. -/
theorem course {voltage : SignalingVoltage} {result : Except Error Unit} {events : List Event}
    (hcourse : Signaling.Course host voltage slot state result slot' after events) :
    firmware.Agrees slot' after ∧ slot'.regulator = slot.regulator := by
  have hprepared : ∀ {lines prepared},
      (Signaling.prepare slot.options).run host state = (.ok lines, prepared) →
      firmware.Agrees slot prepared :=
    fun hrun => h.congr rfl (firmware.pin_of_writesAmong (Signaling.asks_prepare _) hrun)
  rcases hcourse with ⟨hprepare, -⟩ | ⟨hprepare, hmove⟩ |
    ⟨hprepare, hmove, hlatch, -, hrestore⟩ | ⟨hprepare, hmove, hlatch, -, hrelease, -, hrestore⟩ |
    ⟨hprepare, hmove, hlatch, -, hrelease⟩
  · exact ⟨hprepared hprepare, rfl⟩
  · exact (hprepared hprepare).moveRegulator honly hmove
  all_goals
    obtain ⟨hmoved, hsame⟩ := (hprepared hprepare).moveRegulator honly hmove
    have hlatched := firmware.pin_of_writesAmong (Signaling.asks_latch _ _) hlatch
  · obtain ⟨hrestored, hsame'⟩ := (hmoved.congr rfl hlatched).putBack (hsame ▸ honly) hrestore
    exact ⟨hrestored, hsame'.trans hsame⟩
  · have hreleased := firmware.pin_of_writesAmong (Signaling.asks_release _) hrelease
    obtain ⟨hrestored, hsame'⟩ :=
      (hmoved.congr rfl (hreleased.trans hlatched)).putBack (hsame ▸ honly) hrestore
    exact ⟨hrestored, hsame'.trans hsame⟩
  · have hreleased := firmware.pin_of_writesAmong (Signaling.asks_release _) hrelease
    exact ⟨hmoved.congr rfl (hreleased.trans hlatched), hsame⟩

/-! ## All that is done with a slot -/

theorem performBusOperation {operation : BusOperation} {result : Except Error Unit}
    (hrun : ((Slot.performBusOperation operation).start slot).run host state =
      (.ok (result, slot'), after)) :
    firmware.Agrees slot' after ∧ slot'.regulator = slot.regulator := by
  by_cases hswitch : ∃ voltage, operation = .setSignalingVoltage voltage
  · obtain ⟨voltage, rfl⟩ := hswitch
    rw [Signaling.start_performBusOperation] at hrun
    exact h.course honly (Signaling.course_of_run hrun)
  -- the other operations neither change the slot nor call the firmware
  have hquiet : Maintains (Event.WritesAmong operation.places) (· = slot)
      (Slot.performBusOperation operation) :=
    Slot.maintains_performBusOperation_of_ne (not_exists.mp hswitch)
  have hspared := hquiet.weaken fun event hevent => firmware.other event hevent.isMessage_eq
  obtain rfl : slot' = slot := hspared.of_run rfl hrun
  exact ⟨h.congr rfl (hspared.view_of_run rfl hrun), rfl⟩

omit honly in
theorem issueRequest {request request' : Request} {result : Except Error Progress}
    (hrun : (slot.issueRequest request).run host state =
      (.ok (result, slot', request'), after)) :
    firmware.Agrees slot' after ∧ slot'.regulator = slot.regulator := by
  have hstep : Maintains (fun event => event.works = true)
      (fun t => t.slot.regulatorAt18 = slot.regulatorAt18 ∧ t.slot.regulator = slot.regulator)
      Transfer.step := by
    refine Transfer.maintains_step (fun _ => Event.works_of_transfers) (fun _ _ h => h) ?_
      (fun _ _ h => h) fun _ => Event.works_of_completes
    exact Transfer.maintains_setUpPio (fun _ => Event.works_of_transfers) fun _ _ _ h => h
  have hspared := hstep.weaken fun event hevent =>
    firmware.other event (Event.isMessage_eq_of_works hevent)
  have hrun := Slot.run_step_of_issueRequest hrun
  obtain ⟨hnote, hsame⟩ := hspared.of_run ⟨rfl, rfl⟩ hrun
  exact ⟨h.congr hnote (hspared.view_of_run ⟨rfl, rfl⟩ hrun), hsame⟩

/-- After anything that is done with the slot the note agrees with the pin, if it did before. -/
theorem step (hstep : Slot.Step host (slot, state) (slot', after)) :
    firmware.Agrees slot' after ∧ slot'.regulator = slot.regulator := by
  have hworks : ∀ {α : Type} {program : Program α} {value : α},
      (program.Asks fun event => event.works = true) →
      program.run host state = (.ok value, after) →
      firmware.pin after = firmware.pin state := by
    intro α program value hasks hrun
    exact firmware.pin_of_asks (hasks.weaken fun _ => Event.isMessage_eq_of_works) hrun
  cases hstep with
  | operated hrun => exact h.performBusOperation honly hrun
  | issued hrun => exact h.issueRequest hrun
  | called hcall hrun => exact ⟨h.congr rfl (hworks hcall.asks hrun), rfl⟩
  | cleanedUp hrun =>
    have hpin := hworks slot.asks_cleanup hrun
    obtain ⟨_, _, -, hrest, -⟩ := Program.exists_of_run_bind hrun
    cases hrest
    exact ⟨h.congr rfl hpin, rfl⟩
  | stored => exact ⟨h, rfl⟩

end Agrees

/-- What can happen next: something is done with the slot, or something happens elsewhere that does not
move the pin. -/
inductive Next (firmware : PinFirmware host channel) : Slot × σ → Slot × σ → Prop
  | done {before after : Slot × σ} (hstep : Slot.Step host before after) :
      Next firmware before after
  | elsewhere {slot : Slot} {state after : σ} (hpin : firmware.pin after = firmware.pin state) :
      Next firmware (slot, state) (slot, after)

end PinFirmware

/-- **The note agrees with the pin.** Take firmware that drives the pin when it accepts a call and
leaves it alone when it does not, and a slot that is its only user. If the note of the slot says where
the pin is, then it does after any run of bus operations, steps of requests, interrupts, events that are
enabled or disabled, and after giving the bounce pages back, whether they succeed or fail, whatever the
hardware answers and whichever calls the firmware refuses. -/
theorem agrees_of_steps {σ : Type} {host : Host σ} {channel : Channel}
    (firmware : PinFirmware host channel) {slot slot' : Slot} {state after : σ}
    (honly : ∀ used ∈ slot.regulator, used = channel) (hagrees : firmware.Agrees slot state)
    (hsteps : Relation.ReflTransGen firmware.Next (slot, state) (slot', after)) :
    firmware.Agrees slot' after := by
  have hkept : ∀ reached : Slot × σ, Relation.ReflTransGen firmware.Next (slot, state) reached →
      firmware.Agrees reached.1 reached.2 ∧ reached.1.regulator = slot.regulator := by
    intro reached hsteps
    -- induction on the steps, along which the slot keeps its channel
    induction hsteps with
    | refl => exact ⟨hagrees, rfl⟩
    | @tail before reached _ hnext ih =>
      obtain ⟨hbefore, hsame⟩ := ih
      rcases hnext with hstep | hpin
      · obtain ⟨hreached, hsame'⟩ := hbefore.step (hsame ▸ honly) hstep
        exact ⟨hreached, hsame'.trans hsame⟩
      · exact ⟨hbefore.congr rfl hpin, hsame⟩
  exact (hkept _ hsteps).1

namespace RefusedTwice

/-- A bench with a card that does not let all of its lines go, and with firmware that takes one call
and no more. -/
def world : Bench.World where
  registers := { bytes := Memory.zeroed registerBlockSize, behaviour := { linesClocked := 7 } }
  firmware := { script := [.answers PinMessage.success], fallback := .fails .transport }

/-- A slot with a regulator at 3.3 V. -/
def slot : Slot where
  controller := .brcme88c 0
  regulator := some .firmware

end RefusedTwice

/-- A switch that fails, where the regulator cannot be put back either. The note says where the pin was
left. -/
theorem agrees_of_steps_refused_twice :
    (∀ used ∈ RefusedTwice.slot.regulator, used = .firmware) ∧
      Bench.pinFirmware.Agrees RefusedTwice.slot RefusedTwice.world ∧
      ∃ slot' after,
        ((Slot.performBusOperation (.setSignalingVoltage .v18)).start RefusedTwice.slot).run
          Bench.World.host RefusedTwice.world = (.ok (.error .unsuccessful, slot'), after) ∧
        slot'.regulatorAt18 = true ∧ after.firmware.state = Regulator.state18 := by
  have honly : ∀ used ∈ RefusedTwice.slot.regulator, used = .firmware := by
    rintro _ ⟨⟩
    rfl
  have hagrees : Bench.pinFirmware.Agrees RefusedTwice.slot RefusedTwice.world :=
    ⟨fun h => absurd h (by decide), fun h => absurd h (by decide)⟩
  obtain ⟨⟨result, slot'⟩, after, hrun, rfl, hnote⟩ : ∃ outcome after,
      ((Slot.performBusOperation (.setSignalingVoltage .v18)).start RefusedTwice.slot).run
        Bench.World.host RefusedTwice.world = (.ok outcome, after) ∧
      outcome.1 = .error .unsuccessful ∧ outcome.2.regulatorAt18 = true :=
    Program.exists_of_run_any (by decide +kernel)
  have hafter := agrees_of_steps Bench.pinFirmware honly hagrees (.single (.done (.operated hrun)))
  exact ⟨honly, hagrees, slot', after, hrun, hnote, hafter.mp hnote⟩

end SdHost
