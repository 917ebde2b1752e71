import SdHost.Proofs.Bus.Footprint

/-!
# How a switch of the signals can go

Switching the voltage of the signals goes through stages, and can be given up after each of them. What
the stages are, and what is put back when the switch is given up, is said here once, so that whatever
is to be known about the switch can be shown by cases.

The module introduces:

* `Signaling.prepare`, `moveRegulator`, `latch` and `release`: the stages;
* `Signaling.Course`: how a switch can go on a host, with what it leaves behind and with its events.

Main statement: `Signaling.course_of_run`, every switch that comes to an end goes in one of these ways.
-/

namespace SdHost

open Program (Asks)
open SdHost.Task (Maintains)

namespace Signaling

/-! ## The stages -/

/-- Stop the clock, and look whether the card agrees to the switch. -/
def prepare (options : Options) : Program Nat := do
  Timing.gateClock false
  Program.delay options.clockSettle
  dataLines

/-- Switch the regulator, if the controller needs one and it is in the other state. -/
def moveRegulator (at18 : Bool) : Task Slot Unit := do
  let slot ← get
  if slot.controller.externalRegulator && slot.regulatorAt18 != at18 then
    Slot.switchRegulator at18

/-- Switch the controller, and look what it makes of it. -/
def latch (options : Options) (at18 : Bool) : Program HalfWord := do
  HostControl2.register.modify (HostControl2.signaling1_8.put at18)
  Program.delay options.signalingSettle
  HostControl2.register.read

/-- Let the clock through again, and look whether the card lets its lines go. -/
def release (options : Options) : Program Nat := do
  Timing.gateClock true
  Program.delay options.clockSettle
  dataLines

variable {places : List (Width × Nat)}

theorem asks_dataLines : dataLines.Asks (Event.WritesAmong places) :=
  (Register.asks_read _).bind fun _ => .done _

theorem asks_prepare (options : Options) :
    (prepare options).Asks (Event.WritesAmong [ClockControl.register.place]) := by
  refine Asks.bind (Timing.asks_gateClock (by simp) _) fun _ => ?_
  exact (Program.asks_delay _).bind fun _ => asks_dataLines

theorem asks_latch (options : Options) (at18 : Bool) :
    (latch options at18).Asks (Event.WritesAmong [HostControl2.register.place]) := by
  refine Asks.bind (Register.asks_modify (by simp) _) fun _ => ?_
  exact (Program.asks_delay _).bind fun _ => Register.asks_read _

theorem asks_release (options : Options) :
    (release options).Asks (Event.WritesAmong [ClockControl.register.place]) := by
  refine Asks.bind (Timing.asks_gateClock (by simp) _) fun _ => ?_
  exact (Program.asks_delay _).bind fun _ => asks_dataLines

/-- Put the regulator back, if it was moved. If it cannot be put back it is left where it is. -/
def putBack (previous : Bool) (slot : Slot) : Program Slot :=
  if slot.regulatorAt18 != previous then
    (Slot.switchRegulator previous).start slot >>= fun outcome => .done outcome.2
  else .done slot

theorem start_restoreRegulator (previous : Bool) (slot : Slot) :
    (restoreRegulator previous).start slot =
      putBack previous slot >>= fun restored => .done (.ok (), restored) := by
  simp only [restoreRegulator, putBack, Task.start_bind, Task.start_get, Program.done_bind,
    Task.start_ite, Task.start_pure, Task.start_tryCatch, Program.bind_bind]
  split
  · rw [Program.bind_bind]
    congr 1
    funext outcome
    obtain ⟨_ | _, slot'⟩ := outcome <;> rfl
  · rfl

theorem start_moveRegulator (at18 : Bool) (slot : Slot) :
    (moveRegulator at18).start slot =
      if slot.controller.externalRegulator && slot.regulatorAt18 != at18 then
        (Slot.switchRegulator at18).start slot
      else .done (.ok (), slot) := by
  simp only [moveRegulator, Task.start_bind, Task.start_get, Program.done_bind, Task.start_ite,
    Task.start_pure]

/-- What is done once the regulator is where it should be. -/
def finish (options : Options) (at18 previous : Bool) : Task Slot Unit := do
  let latched ← latch options at18
  if HostControl2.signaling1_8.test latched != at18 then
    restoreRegulator previous
    throw .unsuccessful
  let lines ← release options
  if lines ≠ 0xF then
    restoreRegulator previous
    throw .unsuccessful

/-- A switch goes through the stages one by one. -/
theorem start_switch (voltage : SignalingVoltage) (slot : Slot) :
    (switch voltage).start slot = prepare slot.options >>= fun lines =>
      if lines ≠ 0 then .done (.error .unsuccessful, slot)
      else
        (moveRegulator (voltage == .v18)).start slot >>= fun outcome =>
          match outcome with
          | (.ok (), moved) =>
            (finish slot.options (voltage == .v18) slot.regulatorAt18).start moved
          | (.error cause, moved) => .done (.error cause, moved) := by
  simp only [switch, prepare, Task.start_bind, Task.start_get, Task.start_program,
    Program.done_bind, Program.bind_bind]
  congr 1
  funext _
  congr 1
  funext _
  congr 1
  funext lines
  split
  · rfl
  rw [start_moveRegulator]
  split
  · rw [Task.start_bind]
    congr 1
    funext outcome
    obtain ⟨_ | _, moved⟩ := outcome
    · rfl
    · simp only [finish, latch, release, Task.start_bind, Task.start_program, Program.done_bind,
        Program.bind_bind, Task.start_ite, Task.start_throw]
  · simp only [finish, latch, release, Task.start_bind, Task.start_program, Program.done_bind,
      Program.bind_bind, Task.start_ite, Task.start_throw]

theorem start_performBusOperation (voltage : SignalingVoltage) (slot : Slot) :
    (Slot.performBusOperation (.setSignalingVoltage voltage)).start slot =
      (switch voltage).start slot := by
  simp only [Slot.performBusOperation, Task.start_bind, Task.start_get, Program.done_bind]

/-- What the switch comes to once the regulator is where it should be. -/
theorem start_finish (options : Options) (at18 previous : Bool) (slot : Slot) :
    (finish options at18 previous).start slot = latch options at18 >>= fun latched =>
      if HostControl2.signaling1_8.test latched != at18 then
        putBack previous slot >>= fun restored => .done (.error .unsuccessful, restored)
      else
        release options >>= fun lines =>
          if lines ≠ 0xF then
            putBack previous slot >>= fun restored => .done (.error .unsuccessful, restored)
          else .done (.ok (), slot) := by
  simp only [finish, Task.start_bind, Task.start_program, Task.start_ite, Task.start_throw,
    start_restoreRegulator, Program.done_bind, Program.bind_bind]
  rfl

/-- A switch that the regulator has nothing to do with works on the registers alone. -/
theorem asks_switch_of_eq {voltage : SignalingVoltage} {slot : Slot}
    (hsame : slot.regulatorAt18 = (voltage == .v18)) :
    ((switch voltage).start slot).Asks
      (Event.WritesAmong (BusOperation.setSignalingVoltage voltage).places) := by
  have hclock : [ClockControl.register.place] ⊆
      (BusOperation.setSignalingVoltage voltage).places := by simp [BusOperation.places]
  have hcontrol : [HostControl2.register.place] ⊆
      (BusOperation.setSignalingVoltage voltage).places := by simp [BusOperation.places]
  -- the regulator is neither moved nor put back
  have hmove : (moveRegulator (voltage == .v18)).start slot = .done (.ok (), slot) := by
    rw [start_moveRegulator, hsame, bne_self_eq_false, Bool.and_false, if_neg Bool.false_ne_true]
  have hrestore : putBack slot.regulatorAt18 slot = .done slot := by
    rw [putBack, bne_self_eq_false, if_neg Bool.false_ne_true]
  rw [start_switch]
  refine Asks.bind ((asks_prepare _).weaken fun _ h => h.mono hclock) fun lines => ?_
  refine .ite (.done _) ?_
  simp only [hmove, Program.done_bind, start_finish, hrestore]
  refine Asks.bind ((asks_latch _ _).weaken fun _ h => h.mono hcontrol) fun latched => ?_
  refine .ite (.done _) ?_
  refine Asks.bind ((asks_release _).weaken fun _ h => h.mono hclock) fun lines => ?_
  exact .ite (.done _) (.done _)

/-! ## How it can go -/

variable {σ : Type} {host : Host σ}

/-- The ways in which a switch can go, each with what it leaves behind and with its events. The last
stage is the one that decides. -/
inductive Course (host : Host σ) (voltage : SignalingVoltage) (slot : Slot) (state : σ) :
    Except Error Unit → Slot → σ → List Event → Prop
  /-- The card does not agree to the switch. -/
  | blocked {lines : Nat} {after : σ}
      (hprepare : (prepare slot.options).run host state = (.ok lines, after)) (hlines : lines ≠ 0) :
      Course host voltage slot state (.error .unsuccessful) slot after
        ((prepare slot.options).history host state)
  /-- The regulator cannot be switched. -/
  | refused {cause : Error} {moved : Slot} {prepared after : σ}
      (hprepare : (prepare slot.options).run host state = (.ok 0, prepared))
      (hmove : ((moveRegulator (voltage == .v18)).start slot).run host prepared =
        (.ok (.error cause, moved), after)) :
      Course host voltage slot state (.error cause) moved after
        ((prepare slot.options).history host state ++
          ((moveRegulator (voltage == .v18)).start slot).history host prepared)
  /-- The controller drops the setting. -/
  | dropped {latched : HalfWord} {moved restored : Slot} {prepared settled dropped after : σ}
      (hprepare : (prepare slot.options).run host state = (.ok 0, prepared))
      (hmove : ((moveRegulator (voltage == .v18)).start slot).run host prepared =
        (.ok (.ok (), moved), settled))
      (hlatch : (latch slot.options (voltage == .v18)).run host settled = (.ok latched, dropped))
      (hlatched : HostControl2.signaling1_8.test latched ≠ (voltage == .v18))
      (hrestore : (putBack slot.regulatorAt18 moved).run host dropped = (.ok restored, after)) :
      Course host voltage slot state (.error .unsuccessful) restored after
        ((prepare slot.options).history host state ++
          (((moveRegulator (voltage == .v18)).start slot).history host prepared ++
            ((latch slot.options (voltage == .v18)).history host settled ++
              (putBack slot.regulatorAt18 moved).history host dropped)))
  /-- The card does not let its lines go. -/
  | unreleased {latched : HalfWord} {lines : Nat} {moved restored : Slot}
      {prepared settled switched released after : σ}
      (hprepare : (prepare slot.options).run host state = (.ok 0, prepared))
      (hmove : ((moveRegulator (voltage == .v18)).start slot).run host prepared =
        (.ok (.ok (), moved), settled))
      (hlatch : (latch slot.options (voltage == .v18)).run host settled = (.ok latched, switched))
      (hlatched : HostControl2.signaling1_8.test latched = (voltage == .v18))
      (hrelease : (release slot.options).run host switched = (.ok lines, released))
      (hlines : lines ≠ 0xF)
      (hrestore : (putBack slot.regulatorAt18 moved).run host released = (.ok restored, after)) :
      Course host voltage slot state (.error .unsuccessful) restored after
        ((prepare slot.options).history host state ++
          (((moveRegulator (voltage == .v18)).start slot).history host prepared ++
            ((latch slot.options (voltage == .v18)).history host settled ++
              ((release slot.options).history host switched ++
                (putBack slot.regulatorAt18 moved).history host released))))
  /-- The signals are switched. -/
  | completed {latched : HalfWord} {moved : Slot} {prepared settled switched after : σ}
      (hprepare : (prepare slot.options).run host state = (.ok 0, prepared))
      (hmove : ((moveRegulator (voltage == .v18)).start slot).run host prepared =
        (.ok (.ok (), moved), settled))
      (hlatch : (latch slot.options (voltage == .v18)).run host settled = (.ok latched, switched))
      (hlatched : HostControl2.signaling1_8.test latched = (voltage == .v18))
      (hrelease : (release slot.options).run host switched = (.ok 0xF, after)) :
      Course host voltage slot state (.ok ()) moved after
        ((prepare slot.options).history host state ++
          (((moveRegulator (voltage == .v18)).start slot).history host prepared ++
            ((latch slot.options (voltage == .v18)).history host settled ++
              (release slot.options).history host switched)))

/-- A switch that comes to an end goes in one of these ways. -/
theorem course_of_run {voltage : SignalingVoltage} {slot slot' : Slot} {state after : σ}
    {result : Except Error Unit}
    (hrun : ((switch voltage).start slot).run host state = (.ok (result, slot'), after)) :
    Course host voltage slot state result slot' after
      (((switch voltage).start slot).history host state) := by
  rw [start_switch] at hrun ⊢
  obtain ⟨lines, prepared, hprepare, hrun, hevents⟩ := Program.exists_of_run_bind hrun
  rw [hevents]
  by_cases hlines : lines ≠ 0
  · rw [if_pos hlines] at hrun ⊢
    cases hrun
    rw [Program.history_done, List.append_nil]
    exact .blocked hprepare hlines
  obtain rfl := not_not.mp hlines
  rw [if_neg hlines] at hrun ⊢
  obtain ⟨⟨moving, moved⟩, settled, hmove, hrun, hevents⟩ := Program.exists_of_run_bind hrun
  rw [hevents]
  rcases moving with cause | ⟨⟩
  · cases hrun
    rw [Program.history_done, List.append_nil]
    exact .refused hprepare hmove
  simp only [start_finish] at hrun ⊢
  obtain ⟨latched, switched, hlatch, hrun, hevents⟩ := Program.exists_of_run_bind hrun
  rw [hevents]
  by_cases hlatched : HostControl2.signaling1_8.test latched = (voltage == .v18)
  · rw [if_neg (by simpa using hlatched)] at hrun ⊢
    obtain ⟨lines, released, hrelease, hrun, hevents⟩ := Program.exists_of_run_bind hrun
    rw [hevents]
    by_cases hlines : lines ≠ 0xF
    · rw [if_pos hlines] at hrun ⊢
      obtain ⟨restored, _, hrestore, hrun, hevents⟩ := Program.exists_of_run_bind hrun
      cases hrun
      rw [hevents, Program.history_done, List.append_nil]
      exact .unreleased hprepare hmove hlatch hlatched hrelease hlines hrestore
    · obtain rfl := not_not.mp hlines
      rw [if_neg hlines] at hrun ⊢
      cases hrun
      rw [Program.history_done, List.append_nil]
      exact .completed hprepare hmove hlatch hlatched hrelease
  · rw [if_pos (by simpa using hlatched)] at hrun ⊢
    obtain ⟨restored, _, hrestore, hrun, hevents⟩ := Program.exists_of_run_bind hrun
    cases hrun
    rw [hevents, Program.history_done, List.append_nil]
    exact .dropped hprepare hmove hlatch hlatched hrestore

end Signaling

end SdHost
