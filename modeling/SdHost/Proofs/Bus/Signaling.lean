import SdHost.Bench.World
import SdHost.Proofs.Bus.Switch
import SdHost.Proofs.Host.Keeps
import SdHost.Proofs.Register.Field
import SdHost.Proofs.Regulator.BringUp

/-!
# The controller and the regulator

The signals are at 1.8 V when the controller drives them with it and the regulator supplies it. The
controller has a bit for it and the slot notes where the regulator is, and the two are to say the same.

The module introduces:

* `Signaling.InStep control slot state`: the bit says what the slot notes;
* `BusRun host`: a bus operation that was carried out on a host, successfully or not, and
  `BusRun.Chain`, one of them after the other;
* `BusRun.Reverted`: a switch that failed after the controller had been switched, with the regulator
  put back.

Main statement: `inStep_iff_not_reverted`, the bit and the note say the same after every operation
exactly if none of them was such a switch.
-/

namespace SdHost

open SdHost.Task (Maintains)

variable {σ : Type} {host : Host σ}

/-- A call to the firmware reaches no register. -/
theorem Event.not_reaches_of_isMessage {width : Width} {register : Register width} {event : Event}
    (h : event.isMessage = true) : ¬ event.query.Reaches register := by
  intro hreaches
  have haccess := Event.isAccess_of_isMessage h
  rw [Event.isAccess_of_reaches hreaches] at haccess
  cases haccess

namespace Signaling

/-- The bit of the controller says that the signals are at 1.8 V, or that they are not. -/
def Tells (at18 : Bool) (control : HalfWord) : Prop :=
  HostControl2.signaling1_8.test control = at18

instance (at18 : Bool) (control : HalfWord) : Decidable (Tells at18 control) :=
  inferInstanceAs (Decidable (_ = _))

theorem tells_put (at18 : Bool) (control : HalfWord) :
    Tells at18 (HostControl2.signaling1_8.put at18 control) :=
  Field.test_put _ (by decide) rfl at18 control

/-- Setting another field does not change what the bit says. -/
theorem Tells.set_of_disjoint {at18 : Bool} {control : HalfWord} (h : Tells at18 control)
    {field : Field 16} (hdisjoint : HostControl2.signaling1_8.Disjoint field) (value : Nat) :
    Tells at18 (field.set value control) :=
  (Field.test_set_of_disjoint _ _ hdisjoint rfl _ _).trans h

/-- The bit of the controller says what the slot notes about the regulator. -/
def InStep (control : StoredRegister host HostControl2.register) (slot : Slot) (state : σ) : Prop :=
  Tells slot.regulatorAt18 (control.value state)

/-- The switch failed after the controller had been switched, and the regulator, which had been moved
for it, was put back. -/
structure Reverted (voltage : SignalingVoltage) (slot : Slot) (result : Except Error Unit)
    (slot' : Slot) (events : List Event) : Prop where
  /-- The switch failed. -/
  failed : result ≠ .ok ()
  /-- The controller had been switched. -/
  switched : ∃ event ∈ events, event.query.Reaches HostControl2.register
  /-- The regulator had to be moved. -/
  moved : slot.regulatorAt18 ≠ (voltage == .v18)
  /-- It was put back. -/
  restored : slot'.regulatorAt18 = slot.regulatorAt18

/-! ## What the stages of a switch come to -/

variable {slot slot' : Slot} {at18 : Bool} {state after : σ}

theorem asks_switchRegulator (at18 : Bool) (slot : Slot) :
    ((Slot.switchRegulator at18).start slot).Asks fun event => event.isMessage = true := by
  have hmaintains : Maintains (fun event => event.isMessage = true) (fun _ => True)
      (Slot.switchRegulator at18) :=
    Slot.maintains_switchRegulator (fun _ _ h => h) (fun _ h => h) at18
  exact hmaintains.asks trivial

theorem asks_moveRegulator (at18 : Bool) (slot : Slot) :
    ((moveRegulator at18).start slot).Asks fun event => event.isMessage = true := by
  rw [start_moveRegulator]
  exact .ite (asks_switchRegulator at18 slot) (.done _)

theorem asks_putBack (previous : Bool) (slot : Slot) :
    (putBack previous slot).Asks fun event => event.isMessage = true :=
  .ite ((asks_switchRegulator previous slot).bind fun _ => .done _) (.done _)

/-- Where the controller needs the regulator, the slot notes where it is to be once it is moved. If it
cannot be moved the slot is as it was. -/
theorem moved_of_run {result : Except Error Unit}
    (hexternal : slot.controller.externalRegulator = true)
    (hrun : ((moveRegulator at18).start slot).run host state = (.ok (result, slot'), after)) :
    result = .ok () ∧ slot'.regulatorAt18 = at18 ∨ result ≠ .ok () ∧ slot' = slot := by
  rw [start_moveRegulator, hexternal, Bool.true_and] at hrun
  split at hrun
  · obtain ⟨hresult, rfl⟩ | h := Slot.switched_of_run hrun
    · exact .inl ⟨hresult, rfl⟩
    · exact .inr h
  next hsame =>
    cases hrun
    exact .inl ⟨rfl, by simpa using hsame⟩

/-- Whether the regulator is put back or not, the slot notes one of the two. -/
theorem putBack_of_run {previous : Bool}
    (hrun : (putBack previous slot).run host state = (.ok slot', after)) :
    slot'.regulatorAt18 = previous ∨ slot'.regulatorAt18 = slot.regulatorAt18 := by
  rw [putBack] at hrun
  split at hrun
  · obtain ⟨⟨result, restored⟩, _, hswitch, hrest, -⟩ := Program.exists_of_run_bind hrun
    cases hrest
    obtain ⟨-, rfl⟩ | ⟨-, rfl⟩ := Slot.switched_of_run hswitch
    · exact .inl rfl
    · exact .inr rfl
  · cases hrun
    exact .inr rfl

/-- A controller that keeps what is written to it takes the setting. -/
theorem latched_of_run (control : StoredRegister host HostControl2.register) {options : Options}
    {latched : HalfWord}
    (hrun : (latch options at18).run host state = (.ok latched, after)) :
    Tells at18 latched ∧ Tells at18 (control.value after) := by
  obtain ⟨switched, hmodify, hvalue⟩ :=
    control.run_modify (HostControl2.signaling1_8.put at18) state
  rw [latch, Program.run_bind_of_ok hmodify] at hrun
  obtain ⟨_, settled, hdelay, hread, -⟩ := Program.exists_of_run_bind hrun
  have hasks : (Program.delay options.signalingSettle).Asks (Event.WritesAmong []) :=
    Program.asks_delay _
  have hsettled : control.value settled = control.value switched :=
    control.value_of_writesAmong hasks rfl hdelay
  obtain ⟨last, hlast, hsame⟩ := control.run_read settled
  rw [hlast] at hread
  cases hread
  have htells : Tells at18 (control.value settled) := by
    rw [hsettled, hvalue]
    exact tells_put at18 _
  exact ⟨htells, hsame ▸ htells⟩

theorem exists_reaches_of_latch (host : Host σ) (options : Options) (at18 : Bool) (state : σ) :
    ∃ event ∈ (latch options at18).history host state,
      event.query.Reaches HostControl2.register := by
  -- the first read comes with a barrier, and so does the write after it
  refine ⟨_, List.mem_of_getElem? (i := 3) rfl, ?_⟩
  exact ⟨by decide, by decide⟩

/-! ## A switch as a whole -/

/-- A switch leaves the bit and the note in step, unless it failed and only the regulator was put
back. -/
theorem inStep_iff_of_course (control : StoredRegister host HostControl2.register)
    {voltage : SignalingVoltage} {result : Except Error Unit} {events : List Event}
    (hexternal : slot.controller.externalRegulator = true) (h : InStep control slot state)
    (hcourse : Course host voltage slot state result slot' after events) :
    InStep control slot' after ↔ ¬ Reverted voltage slot result slot' events := by
  have hprepared : ∀ {lines prepared},
      (prepare slot.options).run host state = (.ok lines, prepared) →
      control.value prepared = control.value state :=
    fun hrun => control.value_of_writesAmong (asks_prepare _) rfl hrun
  have hreleased : ∀ {lines} {switched released : σ},
      (release slot.options).run host switched = (.ok lines, released) →
      control.value released = control.value switched :=
    fun hrun => control.value_of_writesAmong (asks_release _) rfl hrun
  have hquiet : ∀ {α : Type} {program : Program α} {state after : σ} {value : α},
      (program.Asks fun event => event.isMessage = true) →
      program.run host state = (.ok value, after) → control.value after = control.value state :=
    fun hasks hrun => control.value_of_asks (hasks.weaken fun _ => Event.not_reaches_of_isMessage) hrun
  -- the stages before the controller is switched do not reach the register
  have hunreached : ∀ event ∈ (prepare slot.options).history host state,
      ¬ event.query.Reaches HostControl2.register :=
    fun event hevent => ((asks_prepare _).of_mem_history event hevent).not_reaches rfl
  cases hcourse with
  | blocked hprepare =>
    refine iff_of_true ?_ fun hreverted => ?_
    · rwa [InStep, hprepared hprepare]
    · obtain ⟨event, hevent, hreaches⟩ := hreverted.switched
      exact hunreached event hevent hreaches
  | refused hprepare hmove =>
    obtain ⟨⟨⟩, -⟩ | ⟨-, rfl⟩ := moved_of_run hexternal hmove
    refine iff_of_true ?_ fun hreverted => ?_
    · rwa [InStep, hquiet (asks_moveRegulator _ _) hmove, hprepared hprepare]
    · obtain ⟨event, hevent, hreaches⟩ := hreverted.switched
      rcases List.mem_append.mp hevent with hevent | hevent
      · exact hunreached event hevent hreaches
      · exact Event.not_reaches_of_isMessage
          ((asks_moveRegulator _ _).of_mem_history event hevent) hreaches
  | dropped _ _ hlatch hlatched => exact absurd (latched_of_run control hlatch).1 hlatched
  | @unreleased _ _ moved restored _ settled _ _ _ hprepare hmove hlatch _ hrelease _ hrestore =>
    have hswitched : ∃ event ∈ (latch slot.options (voltage == .v18)).history host settled,
        event.query.Reaches HostControl2.register := exists_reaches_of_latch _ _ _ _
    have hbit : Tells (voltage == .v18) (control.value after) := by
      rw [hquiet (asks_putBack _ _) hrestore, hreleased hrelease]
      exact (latched_of_run control hlatch).2
    have hmoved : moved.regulatorAt18 = (voltage == .v18) := by
      obtain ⟨-, hmoved⟩ | ⟨h, -⟩ := moved_of_run hexternal hmove
      · exact hmoved
      · exact absurd rfl h
    rw [InStep, Tells, hbit]
    constructor
    · intro hsame hreverted
      exact hreverted.moved (hreverted.restored.symm.trans hsame.symm)
    · intro hnot
      rcases putBack_of_run hrestore with hback | hleft
      · -- put back to where it was, which is where it is to be unless the switch was reverted
        by_contra hne
        refine hnot ⟨by simp, ?_, fun hsame => hne (hback.trans hsame).symm, hback⟩
        obtain ⟨event, hevent, hreaches⟩ := hswitched
        refine ⟨event, ?_, hreaches⟩
        simp only [List.mem_append]
        exact .inr (.inr (.inl hevent))
      · exact (hleft.trans hmoved).symm
  | completed hprepare hmove hlatch _ hrelease =>
    refine iff_of_true ?_ fun hreverted => hreverted.failed rfl
    obtain ⟨-, hmoved⟩ | ⟨h, -⟩ := moved_of_run hexternal hmove
    · rw [InStep, hreleased hrelease, hmoved]
      exact (latched_of_run control hlatch).2
    · exact absurd rfl h

end Signaling

/-! ## The other operations -/

namespace BusOperation

open Signaling (Tells)
open StoredRegister (Keeps)

variable (control : StoredRegister host HostControl2.register)

/-- A reset sets the bit where the slot notes that the regulator is at 1.8 V, and leaves it alone
otherwise. -/
theorem keeps_reset (part : ResetType) (slot : Slot) :
    control.Keeps (Tells slot.regulatorAt18) (part.reset slot).run := by
  have hpoll : (SoftwareReset.register.read >>= fun bits =>
      Program.done (bits &&& part.bit.put true 0 == 0)).Asks (Event.WritesAmong []) :=
    (Register.asks_read _).bind fun _ => .done _
  refine Keeps.attempt_bind (.attempt_program (.write_other rfl _)) fun _ => ?_
  refine Keeps.attempt_bind (.of_writesAmong (Options.asks_pollUntil hpoll _) rfl) fun _ => ?_
  refine Keeps.attempt_bind (.attempt_program (.write_other rfl _)) fun _ => ?_
  have hselect : ∀ select, control.Keeps (Tells slot.regulatorAt18)
      (liftM (HostControl1.register.modify (HostControl1.dmaSelect.set select)) :
        Attempt Unit).run :=
    fun _ => .attempt_program (.modify_other rfl _)
  have hsignaling : ∀ after : Unit → Attempt Unit,
      (∀ value, control.Keeps (Tells slot.regulatorAt18) (after value).run) →
      control.Keeps (Tells slot.regulatorAt18)
        (if slot.regulatorAt18 = true then
          (liftM (HostControl2.register.modify (HostControl2.signaling1_8.put true)) :
            Attempt Unit) >>= after else after ()).run := by
    intro after hafter
    refine .attempt_ite (fun hnote => ?_) fun _ => hafter ()
    refine Keeps.attempt_bind (.attempt_program (.modify fun value _ => ?_)) hafter
    rw [hnote]
    exact Signaling.tells_put true value
  refine .attempt_ite (fun _ => ?_) fun _ => hsignaling _ fun _ => hselect _
  refine Keeps.attempt_bind (.attempt_program (.write_other rfl _)) fun _ => ?_
  exact hsignaling _ fun _ => hselect _

/-- The timing mode has a field of its own. -/
theorem tells_configure {speed : BusSpeed} {at18 : Bool} {control1 control1' : Byte}
    {control2 control2' : HalfWord} (h : Tells at18 control2)
    (hspeed : speed.configure? control1 control2 = some (control1', control2')) :
    Tells at18 control2' := by
  cases speed with
  | hs200 | hs400 => cases hspeed
  | normal | high =>
    cases hspeed
    exact h
  | _ =>
    cases hspeed
    exact h.set_of_disjoint (by decide) _

theorem keeps_setBusSpeed (options : Options) (speed : BusSpeed) (at18 : Bool) :
    control.Keeps (Tells at18) (Timing.setBusSpeed options speed).run := by
  have hgate : ∀ on, control.Keeps (Tells at18) (liftM (Timing.gateClock on) : Attempt Unit).run :=
    fun on => .attempt_program (.modify_other rfl _)
  have hsettle : control.Keeps (Tells at18)
      (liftM (Program.delay options.clockSettle) : Attempt Unit).run :=
    .attempt_program (.delay _)
  refine Keeps.attempt_bind (.attempt_program (.read_other _)) fun control1 => ?_
  refine Keeps.attempt_read_bind fun control2 hcontrol2 => ?_
  split
  · exact .done _
  next control1' control2' hspeed =>
  refine Keeps.attempt_bind (hgate false) fun _ => Keeps.attempt_bind hsettle fun _ => ?_
  refine Keeps.attempt_bind (.attempt_program (.write_other rfl _)) fun _ => ?_
  refine Keeps.attempt_bind (.attempt_program (.write ?_)) fun _ => ?_
  · exact tells_configure hcontrol2 hspeed
  · exact Keeps.attempt_bind (hgate true) fun _ => hsettle

theorem keeps_performBusOperation {operation : BusOperation}
    (hne : ∀ voltage, operation ≠ .setSignalingVoltage voltage) (slot : Slot) :
    control.Keeps (Tells slot.regulatorAt18)
      ((Slot.performBusOperation operation).start slot) := by
  by_cases hplaces : operation.places.all HostControl2.register.isApart = true
  · have hmaintains : Maintains (Event.WritesAmong operation.places) (fun _ => True)
        (Slot.performBusOperation operation) := Slot.maintains_performBusOperation_of_ne hne
    exact .of_writesAmong (hmaintains.asks trivial) hplaces
  have hmodify : ∀ {change : HalfWord → HalfWord},
      (∀ value, Tells slot.regulatorAt18 value → Tells slot.regulatorAt18 (change value)) →
      control.Keeps (Tells slot.regulatorAt18)
        ((liftM (HostControl2.register.modify change) : Task Slot Unit).start slot) := by
    intro change hchange
    have hkeeps : control.Keeps (Tells slot.regulatorAt18)
        (HostControl2.register.modify change) := .modify hchange
    rw [Task.start_program]
    exact hkeeps.bind fun _ => .done _
  cases operation with
  | resetHost part => exact (keeps_reset control part slot).bind fun _ => .done _
  | setBusSpeed speed =>
    exact (keeps_setBusSpeed control slot.options speed _).bind fun _ => .done _
  | setSignalingVoltage voltage => exact absurd rfl (hne voltage)
  | setDriverType driver => exact hmodify fun _ h => h.set_of_disjoint (by decide) _
  | setPresetValue on => exact hmodify fun _ h => h.set_of_disjoint (by decide) _
  | _ => exact absurd rfl hplaces

end BusOperation

/-! ## Operation after operation -/

/-- A bus operation that was carried out, successfully or not. -/
structure BusRun (host : Host σ) where
  /-- What was to be done. -/
  operation : BusOperation
  /-- The slot before. -/
  before : Slot
  /-- The surroundings before. -/
  start : σ
  /-- What came of it. -/
  result : Except Error Unit
  /-- The slot after it. -/
  slot : Slot
  /-- The surroundings after it. -/
  after : σ
  /-- The operation came to its end. -/
  run_eq : ((Slot.performBusOperation operation).start before).run host start =
    (.ok (result, slot), after)

namespace BusRun

/-- The events of the run. -/
def events (run : BusRun host) : List Event :=
  ((Slot.performBusOperation run.operation).start run.before).history host run.start

/-- The signals were to be switched, and the switch was given up with only the regulator put back. -/
def Reverted (run : BusRun host) : Prop :=
  ∃ voltage, run.operation = .setSignalingVoltage voltage ∧
    Signaling.Reverted voltage run.before run.result run.slot run.events

/-- The runs go on from one another, the first from the given slot and surroundings. -/
def Chain : Slot → σ → List (BusRun host) → Prop
  | _, _, [] => True
  | slot, state, run :: later =>
    run.before = slot ∧ run.start = state ∧ Chain run.slot run.after later

variable (control : StoredRegister host HostControl2.register) {run : BusRun host}

theorem controller_eq (run : BusRun host) : run.slot.controller = run.before.controller := by
  have hmaintains : Maintains (fun _ => True) (fun slot => slot.controller = run.before.controller)
      (Slot.performBusOperation run.operation) :=
    Slot.maintains_performBusOperation (fun _ _ h => h) run.operation
  exact hmaintains.of_run rfl run.run_eq

/-- One operation leaves the bit and the note in step, unless it was a switch that was given up with
only the regulator put back. -/
theorem inStep_iff (hexternal : run.before.controller.externalRegulator = true)
    (h : Signaling.InStep control run.before run.start) :
    Signaling.InStep control run.slot run.after ↔ ¬ run.Reverted := by
  have hrun := run.run_eq
  by_cases hswitch : ∃ voltage, run.operation = .setSignalingVoltage voltage
  · obtain ⟨voltage, hoperation⟩ := hswitch
    have hcourse : Signaling.Course host voltage run.before run.start run.result run.slot run.after
        run.events := by
      rw [events, hoperation, Signaling.start_performBusOperation]
      rw [hoperation, Signaling.start_performBusOperation] at hrun
      exact Signaling.course_of_run hrun
    rw [Signaling.inStep_iff_of_course control hexternal h hcourse, Reverted, hoperation]
    simp
  · refine iff_of_true ?_ fun ⟨voltage, hoperation, _⟩ => hswitch ⟨voltage, hoperation⟩
    have hne := not_exists.mp hswitch
    have hsame : Maintains (Event.WritesAmong run.operation.places) (· = run.before)
        (Slot.performBusOperation run.operation) := Slot.maintains_performBusOperation_of_ne hne
    have hslot : run.slot = run.before := hsame.of_run rfl hrun
    have hkept := BusOperation.keeps_performBusOperation control hne run.before run.start h
    rw [hrun] at hkept
    rwa [Signaling.InStep, hslot]

/-- After all operations of a run the bit and the note are in step exactly if none of them was such a
switch. -/
theorem forall_inStep_iff {slot : Slot} {state : σ}
    (hexternal : slot.controller.externalRegulator = true)
    (h : Signaling.InStep control slot state) {runs : List (BusRun host)}
    (hruns : Chain slot state runs) :
    (∀ run ∈ runs, Signaling.InStep control run.slot run.after) ↔
      ∀ run ∈ runs, ¬ run.Reverted := by
  -- induction on the operations, which go on in step only as long as none was reverted
  induction runs generalizing slot state with
  | nil => simp
  | cons run later ih =>
    obtain ⟨rfl, rfl, hlater⟩ := hruns
    have hrun := run.inStep_iff control hexternal h
    rw [List.forall_mem_cons, List.forall_mem_cons, hrun]
    refine and_congr_right fun hnot => ?_
    exact ih (run.controller_eq ▸ hexternal) (hrun.mpr hnot) hlater

end BusRun

/-- **The bit of the controller and the note of the regulator.** Take a controller that needs the
regulator and keeps what is written to Host Control 2, with the signals at 3.3 V to begin with, a slot
that was brought up on it, and any bus operations one after the other, whatever else the hardware and
the firmware answer. After all of them, those that failed included, the bit of the controller says what
the slot notes about the regulator, exactly if none of them was a switch that failed once the controller
had been switched and of which only the regulator was put back. -/
theorem inStep_iff_not_reverted (control : StoredRegister host HostControl2.register)
    {slot slot' : Slot} {length : Nat} {crashDump : Bool} {state up : σ}
    (hexternal : slot.controller.externalRegulator = true)
    (hclear : HostControl2.signaling1_8.test (control.value state) = false)
    (hup : ((Slot.bringUp length crashDump).start slot).run host state =
      (.ok (.ok (), slot'), up)) {runs : List (BusRun host)} (hruns : BusRun.Chain slot' up runs) :
    (∀ run ∈ runs, HostControl2.signaling1_8.test (control.value run.after) =
      run.slot.regulatorAt18) ↔ ∀ run ∈ runs, ¬ run.Reverted := by
  obtain ⟨readout, hafter⟩ := (Slot.ensures_bringUp slot length crashDump).of_run hup
  have hinStep : Signaling.InStep control slot' up := by
    obtain ⟨enabled, haccesses⟩ := hafter.accesses_eq
    have hvalue : control.value up = control.value state := by
      have hunreached := control.value_of_unreached ((Slot.bringUp length crashDump).start slot)
        state (haccesses ▸ unreached_of_writes rfl)
      rwa [hup] at hunreached
    rw [Signaling.InStep, Slot.regulatorAt18_of_bringUp hup, hvalue]
    exact hclear
  exact BusRun.forall_inStep_iff control (hafter.controller_eq ▸ hexternal) hinStep hruns

namespace HeldLines

/-- Surroundings with registers that keep what is written to them. The card holds its lines low as long
as it is not clocked, and then lets the given ones go. The firmware accepts every call, and there is
memory to be had. -/
def world (lines : Nat) : Host (Nat → Byte) where
  answer query file :=
    match query with
    | .read .word offset =>
      let clock := RegisterFile.value file .half ClockControl.register.offset
      (if offset = PresentState.register.offset then
        PresentState.datLines.set (if ClockControl.sdClockEnable.test clock then lines else 0) 0
      else RegisterFile.value file .word offset, file)
    | .property message =>
      ((.ok (), Memory.store message 4 (LittleEndian.bytes 4 PinMessage.success.toNat)), file)
    | .allocate length => (({} : Bench.Allocator).allocate? length 0, file)
    | query => RegisterFile.host.answer query file

/-- Host Control 2 keeps what is written to it. -/
def control (lines : Nat) : StoredRegister (world lines) HostControl2.register where
  value file := RegisterFile.value file .half HostControl2.register.offset
  read_reply _ := rfl
  value_write new file := RegisterFile.value_store file .half HostControl2.register.offset new
  value_other query file hother := by
    cases query with
    | read width offset => cases width <;> rfl
    | write other offset new => exact RegisterFile.value_store_of_disjoint file new hother
    | _ => rfl

/-- Registers of which only the base clock is set. -/
def file (offset : Nat) : Byte :=
  if offset = 0x41 then 1 else 0

/-- A slot of a controller that needs the regulator. -/
def slot : Slot where
  controller := .brcme88c 0
  regulator := some .firmware
  options := { bounceSize := pageSize }

end HeldLines

/-- The card lets all its lines go, and the bit and the note say the same after each operation. -/
theorem inStep_iff_not_reverted_released :
    ∃ slot' up, ∃ runs : List (BusRun (HeldLines.world 0xF)),
      HeldLines.slot.controller.externalRegulator = true ∧
      HostControl2.signaling1_8.test ((HeldLines.control 0xF).value HeldLines.file) = false ∧
      ((Slot.bringUp registerBlockSize false).start HeldLines.slot).run (HeldLines.world 0xF)
        HeldLines.file = (.ok (.ok (), slot'), up) ∧
      BusRun.Chain slot' up runs ∧
      runs.map BusRun.operation = [.setSignalingVoltage .v18, .setDriverType .a] ∧
      ∀ run ∈ runs, HostControl2.signaling1_8.test ((HeldLines.control 0xF).value run.after) =
        run.slot.regulatorAt18 := by
  obtain ⟨_, after, hrun, hup, hswitched⟩ : ∃ outcome after,
      ((Slot.bringUp registerBlockSize false).start HeldLines.slot >>= fun up =>
        (Slot.performBusOperation (.setSignalingVoltage .v18)).start up.2 >>= fun switched =>
          (Slot.performBusOperation (.setDriverType .a)).start switched.2 >>= fun driven =>
            .done (up.1, switched.1, driven)).run (HeldLines.world 0xF) HeldLines.file =
        (.ok outcome, after) ∧ outcome.1 = .ok () ∧ outcome.2.1 = .ok () :=
    Program.exists_of_run_any (by decide +kernel)
  obtain ⟨⟨_, slot'⟩, up, hbringUp, hrest, -⟩ := Program.exists_of_run_bind hrun
  obtain ⟨⟨_, switched⟩, settled, hswitch, hrest, -⟩ := Program.exists_of_run_bind hrest
  obtain ⟨⟨result, driven⟩, _, hdrive, hrest, -⟩ := Program.exists_of_run_bind hrest
  cases hrest
  cases hup
  cases hswitched
  let runs : List (BusRun (HeldLines.world 0xF)) :=
    [⟨_, slot', up, _, switched, settled, hswitch⟩, ⟨_, switched, settled, _, driven, after, hdrive⟩]
  have hclear : HostControl2.signaling1_8.test ((HeldLines.control 0xF).value HeldLines.file) =
      false := by decide
  have hruns : BusRun.Chain slot' up runs := ⟨rfl, rfl, rfl, rfl, trivial⟩
  refine ⟨slot', up, runs, rfl, hclear, hbringUp, hruns, rfl, ?_⟩
  refine (inStep_iff_not_reverted (HeldLines.control 0xF) rfl hclear hbringUp hruns).mpr ?_
  -- the switch succeeded, and the other operation is none
  rintro run hrun ⟨voltage, hoperation, hreverted⟩
  rcases List.mem_pair.mp hrun with rfl | rfl
  · exact hreverted.failed rfl
  · cases hoperation

/-- The card does not let all of its lines go. The switch fails, and leaves the controller at 1.8 V
with the regulator at 3.3 V. -/
theorem reverted_of_held_line :
    ∃ slot' up slot'' after,
      HostControl2.signaling1_8.test ((HeldLines.control 7).value HeldLines.file) = false ∧
      ((Slot.bringUp registerBlockSize false).start HeldLines.slot).run (HeldLines.world 7)
        HeldLines.file = (.ok (.ok (), slot'), up) ∧
      ((Slot.performBusOperation (.setSignalingVoltage .v18)).start slot').run (HeldLines.world 7)
        up = (.ok (.error .unsuccessful, slot''), after) ∧
      HostControl2.signaling1_8.test ((HeldLines.control 7).value after) = true ∧
      slot''.regulatorAt18 = false := by
  obtain ⟨_, after, hrun, hup, hfailed, hnote, hbit⟩ : ∃ outcome after,
      ((Slot.bringUp registerBlockSize false).start HeldLines.slot >>= fun up =>
        (Slot.performBusOperation (.setSignalingVoltage .v18)).start up.2 >>= fun switched =>
          .done (up.1, switched)).run (HeldLines.world 7) HeldLines.file = (.ok outcome, after) ∧
      outcome.1 = .ok () ∧ outcome.2.1 = .error .unsuccessful ∧
      outcome.2.2.regulatorAt18 = false ∧
      HostControl2.signaling1_8.test ((HeldLines.control 7).value after) = true :=
    Program.exists_of_run_any (by decide +kernel)
  obtain ⟨⟨_, slot'⟩, up, hbringUp, hrest, -⟩ := Program.exists_of_run_bind hrun
  obtain ⟨⟨_, slot''⟩, _, hswitch, hrest, -⟩ := Program.exists_of_run_bind hrest
  cases hrest
  cases hup
  cases hfailed
  exact ⟨slot', up, slot'', after, by decide, hbringUp, hswitch, hbit, hnote⟩

end SdHost
