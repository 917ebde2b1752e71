import SdHost.Proofs.Regulator.Note
import SdHost.Proofs.Slot.BringUp

/-!
# The regulator when a slot is brought up

Bringing a slot up puts the regulator to 3.3 V. The slot notes that it is there before it asks the
firmware, and puts up with it if the firmware refuses. So what is noted is right as long as the firmware
does what it is asked, or the pin was not at 1.8 V to begin with.

`note_of_bringUp` says so, and what comes of a later switch to 3.3 V.
-/

namespace SdHost

open Program (Asks)
open SdHost.Task (Maintains)

/-- The note is changed first, and then the firmware is asked for the pin and to drive it. -/
theorem Slot.start_resetRegulator {slot : Slot} {channel : Channel}
    (hregulator : slot.regulator = some channel) :
    resetRegulator.start slot =
      channel.readPin Regulator.signalingPin >>= fun _ =>
        channel.drivePin Regulator.signalingPin Regulator.state33 >>= fun _ =>
          .done (.ok (), { slot with regulatorAt18 := false }) := by
  simp only [resetRegulator, Task.start_bind, Task.start_modify, Task.start_get, Program.done_bind,
    hregulator, Task.start_discard, Task.start_program, Task.start_tryCatch, Program.bind_bind]
  congr 1
  funext _
  simp only [Except.map, start_switchRegulator, Program.bind_bind, Program.done_bind]
  congr 1
  funext outcome
  rcases outcome with _ | _ <;> rfl

/-- Without a channel only the note is changed. -/
theorem Slot.start_resetRegulator_of_none {slot : Slot} (hregulator : slot.regulator = none) :
    resetRegulator.start slot = .done (.ok (), { slot with regulatorAt18 := false }) := by
  simp only [resetRegulator, Task.start_bind, Task.start_modify, Task.start_get, Program.done_bind,
    hregulator, Task.start_pure]

namespace Slot

/-! ## What has nothing to do with the regulator -/

theorem asks_providePages (slot : Slot) :
    slot.providePages.run.Asks fun event => event.works = true := by
  rw [providePages]
  split
  · have hquiet : ∀ event : Event, event.allocates = true → event.works = true := by
      intro event hevent
      rw [Event.works, Event.transfers, hevent, Bool.or_true, Bool.true_or]
    exact (Transfer.ensures_allocateBounce_quiet hquiet slot _).mono fun _ _ h => h.1
  · exact .done _

theorem asks_readCapabilities (slot : Slot) :
    slot.readCapabilities.Asks fun event => event.works = true := by
  have hread : ∀ {width : Width} (register : Register width),
      register.read.Asks fun event => event.works = true :=
    Transfer.asks_read fun _ => Event.works_of_transfers
  refine (hread _).bind fun spec => (hread _).bind fun maximumCurrent => ?_
  have hcapabilities : CapabilityBits.read.Asks fun event => event.works = true :=
    (hread _).bind fun low => (hread _).bind fun high => .done _
  exact hcapabilities.bind fun raw => .ite (.fault _) (.done _)

/-- What is done once the regulator is put to 3.3 V. -/
def describe : Task Slot Unit := do
  let capabilities ← (← get).readCapabilities
  modify fun slot => { slot with capabilities }
  (← get).toggleEvents 0xFFFF false

theorem maintains_describe {Inv : Slot → Prop}
    (hcapabilities : ∀ slot capabilities, Inv slot → Inv { slot with capabilities }) :
    Maintains (fun event => event.works = true) Inv describe := by
  refine Maintains.get.bind fun slot => ?_
  refine (Maintains.program slot.asks_readCapabilities).bind fun capabilities => ?_
  refine Maintains.bind (.modify fun slot h => hcapabilities slot capabilities h) fun _ => ?_
  exact Maintains.get.bind fun slot => .program (Call.toggleEvents _ _).asks

theorem start_settle {slot : Slot} {channel : Channel} (hregulator : slot.regulator = some channel) :
    settle.start slot =
      channel.readPin Regulator.signalingPin >>= fun _ =>
        channel.drivePin Regulator.signalingPin Regulator.state33 >>= fun _ =>
          describe.start { slot with regulatorAt18 := false } := by
  rw [settle, Task.start_bind, start_resetRegulator hregulator]
  simp only [Program.bind_bind, Program.done_bind]
  rfl

/-- Whatever the firmware answers, a slot that was brought up takes the regulator to be at 3.3 V. -/
theorem regulatorAt18_of_bringUp {σ : Type} {host : Host σ} {slot slot' : Slot} {length : Nat}
    {crashDump : Bool} {state up : σ}
    (hup : ((bringUp length crashDump).start slot).run host state = (.ok (.ok (), slot'), up)) :
    slot'.regulatorAt18 = false := by
  have hdescribe : ∀ {noted : Slot} {described : σ}, noted.regulatorAt18 = false →
      (describe.start noted).run host described = (.ok (.ok (), slot'), up) →
      slot'.regulatorAt18 = false := by
    intro noted described hnoted hrun
    have hmaintains : Maintains (fun event => event.works = true)
        (fun slot => slot.regulatorAt18 = false) describe := maintains_describe fun _ _ h => h
    exact hmaintains.of_run hnoted hrun
  rw [start_bringUp] at hup
  split at hup
  · cases hup
  obtain ⟨provided | provided, paged, -, hsettle, -⟩ := Program.exists_of_run_bind hup
  · cases hsettle
  rcases hregulator : provided.regulator with _ | channel
  · have hstart : settle.start provided =
        describe.start { provided with regulatorAt18 := false } := by
      rw [settle, Task.start_bind, start_resetRegulator_of_none hregulator, Program.done_bind]
      rfl
    simp only [hstart] at hsettle
    exact hdescribe rfl hsettle
  · simp only [start_settle hregulator] at hsettle
    obtain ⟨_, _, -, hrest, -⟩ := Program.exists_of_run_bind hsettle
    obtain ⟨_, _, -, hrun, -⟩ := Program.exists_of_run_bind hrest
    exact hdescribe rfl hrun

/-- A slot with a channel is brought up with two calls to the firmware, one to read the pin and one to
drive it. What comes before the calls and after them has nothing to do with the firmware. -/
theorem exists_calls_of_bringUp {σ : Type} {host : Host σ} {channel : Channel} {slot slot' : Slot}
    {length : Nat} {crashDump : Bool} {state up : σ} (hregulator : slot.regulator = some channel)
    (hup : ((bringUp length crashDump).start slot).run host state = (.ok (.ok (), slot'), up)) :
    ∃ paged asked driven level outcome earlier later,
      (channel.readPin Regulator.signalingPin).run host paged = (.ok level, asked) ∧
      (channel.drivePin Regulator.signalingPin Regulator.state33).run host asked =
        (.ok outcome, driven) ∧
      ((bringUp length crashDump).start slot).history host state = earlier ++
        (channel.drivePin Regulator.signalingPin Regulator.state33).history host asked ++ later ∧
      ∀ {β : Type} (view : σ → β),
        (∀ event : Event, event.works = true → event.Spares host view) →
        view paged = view state ∧ view up = view driven := by
  rw [start_bringUp] at hup ⊢
  split at hup
  · cases hup
  next hlength =>
  rw [if_neg hlength]
  -- the pages come first, then the calls to the firmware, and then what the registers say
  obtain ⟨provided | provided, paged, hprovide, hsettle, hhistory⟩ :=
    Program.exists_of_run_bind hup
  · cases hsettle
  have hprovided : provided.regulator = some channel := by
    have hsame := ((ensures_providePages (slot.readied crashDump)).of_run hprovide).2 _ rfl
    rw [hsame.1]
    exact hregulator
  rw [hhistory]
  simp only [start_settle hprovided] at hsettle ⊢
  obtain ⟨level, asked, hread, hrest, hreadEvents⟩ := Program.exists_of_run_bind hsettle
  obtain ⟨outcome, driven, hdrive, hdescribe, hdriveEvents⟩ := Program.exists_of_run_bind hrest
  rw [hreadEvents, hdriveEvents, ← List.append_assoc, ← List.append_assoc]
  refine ⟨paged, asked, driven, level, outcome, _, _, hread, hdrive, rfl, fun view hspares => ?_⟩
  have hmaintains : Maintains (fun event => event.works = true) (fun _ => True) describe :=
    maintains_describe fun _ _ h => h
  exact ⟨((slot.readied crashDump).asks_providePages.weaken hspares).view_eq hprovide,
    (hmaintains.weaken hspares).view_of_run trivial hdescribe⟩

end Slot

/-- **What bringing a slot up makes of the regulator.** Take firmware that drives the pin when it
accepts a call and leaves it alone when it does not, in any state, and any slot that was brought up with
a channel to it. The slot notes that the regulator is at 3.3 V, and a call to put it there was made. If
the firmware accepted the call, then the pin is at 3.3 V; if not, the pin is where it was. So the note
says where the pin is exactly if the call was accepted or the pin was not at 1.8 V before.

A switch of the signals to 3.3 V that comes after it leaves the firmware alone, also where it has to
be asked. -/
theorem note_of_bringUp {σ : Type} {host : Host σ} {channel : Channel}
    (firmware : PinFirmware host channel) {slot slot' : Slot} {length : Nat} {crashDump : Bool}
    {state up : σ} (hregulator : slot.regulator = some channel)
    (hup : ((Slot.bringUp length crashDump).start slot).run host state =
      (.ok (.ok (), slot'), up)) :
    slot'.regulatorAt18 = false ∧
      (∃ asked driven outcome earlier later,
        (channel.drivePin Regulator.signalingPin Regulator.state33).run host asked =
          (.ok outcome, driven) ∧
        ((Slot.bringUp length crashDump).start slot).history host state = earlier ++
          (channel.drivePin Regulator.signalingPin Regulator.state33).history host asked ++ later ∧
        (outcome = .ok () → firmware.pin up = Regulator.state33) ∧
        (outcome ≠ .ok () → firmware.pin up = firmware.pin state) ∧
        (firmware.Agrees slot' up ↔
          outcome = .ok () ∨ firmware.pin state ≠ Regulator.state18)) ∧
      ∀ (later : σ), ∀ event ∈ ((Slot.performBusOperation (.setSignalingVoltage .v33)).start
        slot').history host later, event.isMessage = false := by
  have hnote := Slot.regulatorAt18_of_bringUp hup
  obtain ⟨paged, asked, driven, level, outcome, earlier, later, hread, hdrive, hhistory, hview⟩ :=
    Slot.exists_calls_of_bringUp hregulator hup
  obtain ⟨hpaged, hdriven⟩ := hview firmware.pin fun event hevent =>
    firmware.other event (Event.isMessage_eq_of_works hevent)
  obtain ⟨_, hasked⟩ := Channel.exists_of_run_readPin hread
  obtain ⟨answer, hanswer, haccepted⟩ := Channel.exists_of_run_drivePin hdrive
  have hbefore : firmware.pin asked = firmware.pin state := (firmware.read hasked).trans hpaged
  have hagrees : firmware.Agrees slot' up ↔ firmware.pin up ≠ Regulator.state18 := by
    simp [PinFirmware.Agrees, hnote]
  refine ⟨hnote, ⟨asked, driven, outcome, earlier, later, hdrive, hhistory, ?_⟩, ?_⟩
  · obtain ⟨h, hpin⟩ | ⟨h, hpin⟩ := @firmware.drive false _ _ _ hanswer
    · have houtcome := haccepted.mpr h
      have hlevel : firmware.pin up = Regulator.state33 := hdriven.trans hpin
      refine ⟨fun _ => hlevel, fun hne => absurd houtcome hne, ?_⟩
      rw [hagrees, hlevel]
      exact iff_of_true (by decide) (.inl houtcome)
    · have houtcome : outcome ≠ .ok () := fun hok => h (haccepted.mp hok)
      have hsame : firmware.pin up = firmware.pin state := hdriven.trans (hpin.trans hbefore)
      refine ⟨fun hok => absurd hok houtcome, fun _ => hsame, ?_⟩
      rw [hagrees, hsame]
      exact (or_iff_right houtcome).symm
  · intro later event hevent
    rw [Signaling.start_performBusOperation] at hevent
    exact ((Signaling.asks_switch_of_eq hnote).of_mem_history event hevent).isMessage_eq

namespace LeftAt18

/-- A bench of which the registers tell a base clock, which hands out buffers, and of which the pin was
left at 1.8 V. Its state is told when it is asked for, and the call to drive it gets the given code for an
answer. -/
def world (code : Word) : Bench.World where
  registers := { bytes := Memory.store (Memory.zeroed registerBlockSize) 0x41 [1] }
  firmware := { state := Regulator.state18, script := [.answers PinMessage.success, .answers code] }
  allocator := some {}

/-- A slot of a controller that needs the regulator. -/
def slot : Slot where
  controller := .brcme88c 0
  regulator := some .firmware
  options := { bounceSize := pageSize }

end LeftAt18

/-- Where the firmware accepts the call, the note says where the pin is. -/
theorem note_of_bringUp_accepted :
    LeftAt18.slot.regulator = some .firmware ∧ ∃ slot' up,
      ((Slot.bringUp registerBlockSize false).start LeftAt18.slot).run Bench.World.host
        (LeftAt18.world PinMessage.success) = (.ok (.ok (), slot'), up) ∧
      Bench.pinFirmware.Agrees slot' up := by
  obtain ⟨⟨_, slot'⟩, up, hup, rfl, hpin⟩ : ∃ outcome up,
      ((Slot.bringUp registerBlockSize false).start LeftAt18.slot).run Bench.World.host
        (LeftAt18.world PinMessage.success) = (.ok outcome, up) ∧
      outcome.1 = .ok () ∧ up.firmware.state = Regulator.state33 :=
    Program.exists_of_run_any (by decide +kernel)
  refine ⟨rfl, slot', up, hup, ?_⟩
  obtain ⟨-, ⟨_, _, outcome, _, _, -, -, -, hrefused, hagrees⟩, -⟩ :=
    note_of_bringUp Bench.pinFirmware rfl hup
  refine hagrees.mpr (.inl ?_)
  -- a call that was refused would have left the pin at 1.8 V
  by_contra houtcome
  exact absurd (hpin.symm.trans (hrefused houtcome)) (by decide)

/-- Where it refuses the call, the slot is brought up all the same and the note is wrong, although the
firmware tells that the pin is at 1.8 V when it is asked first. A switch to 3.3 V is then taken to be done,
and the pin is still at 1.8 V. -/
theorem note_of_bringUp_refused :
    ((Channel.firmware.readPin Regulator.signalingPin).run Bench.World.host
      (LeftAt18.world 0x80000001)).1 = .ok (.ok Regulator.state18) ∧
    ∃ slot' up slot'' after,
      ((Slot.bringUp registerBlockSize false).start LeftAt18.slot).run Bench.World.host
        (LeftAt18.world 0x80000001) = (.ok (.ok (), slot'), up) ∧
      ¬ Bench.pinFirmware.Agrees slot' up ∧
      ((Slot.performBusOperation (.setSignalingVoltage .v33)).start slot').run Bench.World.host up =
        (.ok (.ok (), slot''), after) ∧
      after.firmware.state = Regulator.state18 := by
  refine ⟨by decide +kernel, ?_⟩
  obtain ⟨⟨_, slot'⟩, up, hup, rfl, hnote, hpin, hswitch⟩ : ∃ outcome up,
      ((Slot.bringUp registerBlockSize false).start LeftAt18.slot).run Bench.World.host
        (LeftAt18.world 0x80000001) = (.ok outcome, up) ∧
      outcome.1 = .ok () ∧ outcome.2.regulatorAt18 = false ∧
      up.firmware.state = Regulator.state18 ∧
      let later := ((Slot.performBusOperation (.setSignalingVoltage .v33)).start outcome.2).run
        Bench.World.host up
      later.1.toOption.any fun outcome =>
        decide (outcome.1 = .ok () ∧ later.2.firmware.state = Regulator.state18) :=
    Program.exists_of_run_any (by decide +kernel)
  obtain ⟨⟨_, slot''⟩, after, hafter, rfl, hleft⟩ := Program.exists_of_run_any
    (P := fun (outcome : Except Error Unit × Slot) (after : Bench.World) =>
      outcome.1 = .ok () ∧ after.firmware.state = Regulator.state18) hswitch
  refine ⟨slot', up, slot'', after, hup, ?_, hafter, hleft⟩
  intro hagrees
  have hnoted : slot'.regulatorAt18 = true := hagrees.mpr hpin
  rw [hnote] at hnoted
  cases hnoted

end SdHost
