import SdHost.Bus.Perform
import SdHost.Proofs.Host.Footprint
import SdHost.Proofs.Regulator.Channel

/-!
# What bus operations write

Every bus operation but one works on the registers alone, of which it writes a few. The one that
switches the voltage of the signals has to do with the regulator too.

The module introduces `BusOperation.places`, the registers that an operation writes. Main statement:

* `Slot.maintains_performBusOperation_of_ne`: an operation that does not switch the signals leaves the
  slot as it is, and asks for nothing but accesses that write these registers, and for pauses.
-/

namespace SdHost

open Program (Asks)
open SdHost.Task (Maintains)

theorem Event.WritesAmong.isMessage_eq {places : List (Width × Nat)} {event : Event}
    (h : event.WritesAmong places) : event.isMessage = false := by
  obtain ⟨query, reply⟩ := event
  cases query <;> first | rfl | exact h.elim

/-- The registers that the operation writes. -/
def BusOperation.places : BusOperation → List (Width × Nat)
  | .resetCard | .setPower _ | .setDriveStrength _ | .executeTuning => []
  | .resetHost _ => [SoftwareReset.register.place, TimeoutControl.register.place,
      RegisterMap.normalStatus.place, HostControl2.register.place, HostControl1.register.place]
  | .setClock _ => [ClockControl.register.place]
  | .setVoltage _ => [PowerControl.register.place]
  | .setBusWidth _ | .setLed _ => [HostControl1.register.place]
  | .setBusSpeed _ => [ClockControl.register.place, HostControl1.register.place,
      HostControl2.register.place]
  | .setSignalingVoltage _ => [ClockControl.register.place, HostControl2.register.place]
  | .setDriverType _ | .setPresetValue _ => [HostControl2.register.place]
  | .setBlockGapInterrupt _ => [BlockGapControl.register.place]

theorem Timing.asks_gateClock {places : List (Width × Nat)}
    (hplace : ClockControl.register.place ∈ places) (on : Bool) :
    (gateClock on).Asks (Event.WritesAmong places) :=
  Register.asks_modify hplace _

namespace BusOperation

/-! ## Operations that are attempts -/

section Start

variable (slot : Slot)

theorem start_resetHost (part : ResetType) :
    (Slot.performBusOperation (.resetHost part)).start slot =
      (liftM (part.reset slot) : Task Slot Unit).start slot := by
  simp only [Slot.performBusOperation, Task.start_bind, Task.start_get, Program.done_bind]

theorem start_setClock (khz : Word) :
    (Slot.performBusOperation (.setClock khz)).start slot =
      (liftM (Timing.setClock slot khz) : Task Slot Unit).start slot := by
  simp only [Slot.performBusOperation, Task.start_bind, Task.start_get, Program.done_bind]

theorem start_setVoltage (voltage : SupplyVoltage) :
    (Slot.performBusOperation (.setVoltage voltage)).start slot =
      (liftM (voltage.supply slot.options) : Task Slot Unit).start slot := by
  simp only [Slot.performBusOperation, Task.start_bind, Task.start_get, Program.done_bind]

theorem start_setBusSpeed (speed : BusSpeed) :
    (Slot.performBusOperation (.setBusSpeed speed)).start slot =
      (liftM (Timing.setBusSpeed slot.options speed) : Task Slot Unit).start slot := by
  simp only [Slot.performBusOperation, Task.start_bind, Task.start_get, Program.done_bind]

end Start

/-! ## What they write -/

theorem asks_reset (part : ResetType) (slot : Slot) :
    (part.reset slot).run.Asks (Event.WritesAmong (resetHost part).places) := by
  have hpoll : (SoftwareReset.register.read >>= fun bits =>
      Program.done (bits &&& part.bit.put true 0 == 0)).Asks
        (Event.WritesAmong (resetHost part).places) :=
    (Register.asks_read _).bind fun _ => .done _
  refine Attempt.asks_bind (Attempt.asks_program (Register.asks_write (by simp [places]) _)) fun _ => ?_
  refine Attempt.asks_bind (Options.asks_pollUntil hpoll slot.options) fun _ => ?_
  refine Attempt.asks_bind (Attempt.asks_program (Register.asks_write (by simp [places]) _)) fun _ => ?_
  -- what comes after the parts that are left out for some controllers, and for some slots
  have hselect : ∀ select, (liftM (HostControl1.register.modify
      (HostControl1.dmaSelect.set select)) : Attempt Unit).run.Asks
        (Event.WritesAmong (resetHost part).places) :=
    fun _ => Attempt.asks_program (Register.asks_modify (by simp [places]) _)
  have hsignaling : ∀ after : Unit → Attempt Unit,
      (∀ value, (after value).run.Asks (Event.WritesAmong (resetHost part).places)) →
      (if slot.regulatorAt18 = true then
        (liftM (HostControl2.register.modify (HostControl2.signaling1_8.put true)) : Attempt Unit) >>=
          after else after ()).run.Asks (Event.WritesAmong (resetHost part).places) := by
    intro after hafter
    refine Attempt.asks_ite (Attempt.asks_bind (Attempt.asks_program ?_) hafter) (hafter ())
    exact Register.asks_modify (by simp [places]) _
  refine Attempt.asks_ite (Attempt.asks_bind (Attempt.asks_program ?_) fun _ => ?_) ?_
  · exact Register.asks_write (by simp [places]) _
  · exact hsignaling _ fun _ => hselect _
  · exact hsignaling _ fun _ => hselect _

theorem asks_setClock (slot : Slot) (khz : Word) :
    (Timing.setClock slot khz).run.Asks (Event.WritesAmong (setClock khz).places) := by
  have hwrite : ∀ value, (liftM (ClockControl.register.write value) : Attempt Unit).run.Asks
      (Event.WritesAmong (setClock khz).places) :=
    fun value => Attempt.asks_program (Register.asks_write (by simp [places]) value)
  have hstable : (ClockControl.register.read >>= fun clock =>
      Program.done (ClockControl.internalClockStable.test clock)).Asks
        (Event.WritesAmong (setClock khz).places) :=
    (Register.asks_read _).bind fun _ => .done _
  refine Attempt.asks_bind (Attempt.asks_program (Register.asks_read _)) fun clock => ?_
  refine Attempt.asks_ite (hwrite _) ?_
  refine Attempt.asks_bind ?_ fun found => Attempt.asks_bind ?_ fun divisor => ?_
  · rw [Attempt.run_ofExcept]
    cases (ClockDivisor.find _ _ _).run with
    | error cause => exact .fault cause
    | ok found => exact .done _
  · cases found <;> exact .done _
  refine Attempt.asks_bind (hwrite _) fun _ => Attempt.asks_bind (hwrite _) fun _ => ?_
  refine Attempt.asks_bind (Options.asks_pollUntil hstable slot.options) fun _ => ?_
  exact Attempt.asks_program (Timing.asks_gateClock (by simp [places]) true)

theorem asks_supply (voltage : SupplyVoltage) (options : Options) :
    (voltage.supply options).run.Asks (Event.WritesAmong (setVoltage voltage).places) := by
  have hwriteBack : ∀ value, (SupplyVoltage.writeBack value).Asks
      (Event.WritesAmong (setVoltage voltage).places) := by
    intro value
    have hplace : PowerControl.register.place ∈ (setVoltage voltage).places := by
      simp [places]
    exact (Register.asks_write hplace value).bind fun _ => Register.asks_read _
  have hon : ∀ select power, (SupplyVoltage.powerOn options select power).run.Asks
      (Event.WritesAmong (setVoltage voltage).places) := by
    intro select power
    refine Attempt.asks_bind (Attempt.asks_program (Register.asks_write (by simp [places]) _)) fun _ => ?_
    exact Options.asks_poll (fun power => (hwriteBack _).bind fun _ => .done _) options _
  have hoff : ∀ power, (SupplyVoltage.powerOff options power).run.Asks
      (Event.WritesAmong (setVoltage voltage).places) :=
    fun power => Options.asks_poll (fun power => (hwriteBack _).bind fun _ => .done _) options _
  rw [SupplyVoltage.supply]
  cases voltage.select? with
  | none =>
    refine Attempt.asks_bind (Attempt.asks_program (Register.asks_read _)) fun initial => ?_
    exact Attempt.asks_ite (Attempt.asks_bind (hoff initial) fun _ => .done _) (.done _)
  | some select =>
    refine Attempt.asks_bind (Attempt.asks_program (Register.asks_read _)) fun initial => ?_
    have hselect : ∀ power, (discard (SupplyVoltage.powerOn options select power)).run.Asks
        (Event.WritesAmong (setVoltage voltage).places) :=
      fun power => Attempt.asks_bind (hon select power) fun _ => .done _
    exact Attempt.asks_ite (Attempt.asks_bind (hoff initial) hselect) (hselect initial)

theorem asks_setBusSpeed (options : Options) (speed : BusSpeed) :
    (Timing.setBusSpeed options speed).run.Asks (Event.WritesAmong (setBusSpeed speed).places) := by
  refine Attempt.asks_bind (Attempt.asks_program (Register.asks_read _)) fun control1 => ?_
  refine Attempt.asks_bind (Attempt.asks_program (Register.asks_read _)) fun control2 => ?_
  have hgate : ∀ on, (liftM (Timing.gateClock on) : Attempt Unit).run.Asks
      (Event.WritesAmong (setBusSpeed speed).places) :=
    fun on => Attempt.asks_program (Timing.asks_gateClock (by simp [places]) on)
  have hsettle : (liftM (Program.delay options.clockSettle) : Attempt Unit).run.Asks
      (Event.WritesAmong (setBusSpeed speed).places) :=
    Attempt.asks_program (Program.asks_delay _)
  split
  · exact .done _
  refine Attempt.asks_bind (hgate false) fun _ => Attempt.asks_bind hsettle fun _ => ?_
  refine Attempt.asks_bind (Attempt.asks_program (Register.asks_write (by simp [places]) _)) fun _ => ?_
  refine Attempt.asks_bind (Attempt.asks_program (Register.asks_write (by simp [places]) _)) fun _ => ?_
  exact Attempt.asks_bind (hgate true) fun _ => hsettle

theorem asks_setBusWidth (width : Byte) :
    (Slot.setBusWidth width).Asks (Event.WritesAmong (setBusWidth width).places) := by
  refine (Register.asks_read _).bind fun control => ?_
  cases configureWidth? width control with
  | none => exact .fault _
  | some control =>
    have hplace : HostControl1.register.place ∈ (setBusWidth width).places := by
      simp [places]
    exact Register.asks_write hplace control

end BusOperation

/-- An operation that does not switch the signals leaves the slot as it is, and writes its own
registers only. -/
theorem Slot.maintains_performBusOperation_of_ne {Inv : Slot → Prop} {operation : BusOperation}
    (hne : ∀ voltage, operation ≠ .setSignalingVoltage voltage) :
    Maintains (Event.WritesAmong operation.places) Inv (performBusOperation operation) := by
  refine Maintains.get.bind fun slot => ?_
  cases operation with
  | resetCard => exact .pure _
  | executeTuning => exact .pure _
  | setPower on => exact .throw _
  | setDriveStrength value => exact .throw _
  | setSignalingVoltage voltage => exact absurd rfl (hne voltage)
  | resetHost part => exact .attempt (BusOperation.asks_reset part slot)
  | setClock khz => exact .attempt (BusOperation.asks_setClock slot khz)
  | setVoltage voltage => exact .attempt (BusOperation.asks_supply voltage slot.options)
  | setBusSpeed speed => exact .attempt (BusOperation.asks_setBusSpeed slot.options speed)
  | setBusWidth width => exact .program (BusOperation.asks_setBusWidth width)
  | setDriverType driver => exact .program (Register.asks_modify (by simp [BusOperation.places]) _)
  | setPresetValue on => exact .program (Register.asks_modify (by simp [BusOperation.places]) _)
  | setBlockGapInterrupt on => exact .program (Register.asks_modify (by simp [BusOperation.places]) _)
  | setLed on => exact .program (Register.asks_modify (by simp [BusOperation.places]) _)

end SdHost
