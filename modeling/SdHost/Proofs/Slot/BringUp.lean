import SdHost.Proofs.Slot.Invariant
import SdHost.Proofs.Transfer.Bounce

/-!
# Bringing a slot up, as the registers see it

Once there are bounce pages, if the controller needs any, bringing a slot up comes to a fixed run of
accesses: what the slot can do is read off the registers, and then all interrupts are disabled.

The module introduces:

* `Slot.settle`: what is done once there are pages;
* `Slot.toggleAccesses`: the accesses that enable or disable interrupts;
* `Readout`: what the registers said about the slot;
* `Slot.UpAfter`: the slot that comes of it, with the accesses it took.

`Slot.ensures_bringUp` says that bringing a slot up comes to this or to an error without any access.
-/

namespace SdHost

open SdHost.Task (Maintains)

/-- What the registers of a slot say about it. -/
structure Readout where
  /-- Version of the specification. -/
  spec : Byte
  /-- The register of the most current the slot can supply. -/
  maximumCurrent : Word
  /-- Low word of the capabilities. -/
  low : Word
  /-- High word of the capabilities. -/
  high : Word

namespace Readout

/-- The capability register as a whole. -/
def raw (readout : Readout) : DoubleWord :=
  readout.high ++ readout.low

/-- The accesses that read the registers. -/
def events (readout : Readout) : List Event :=
  RegisterMap.specVersion.readEvents readout.spec ++
    RegisterMap.maximumCurrent.readEvents readout.maximumCurrent ++
    RegisterMap.capabilitiesLow.readEvents readout.low ++
    RegisterMap.capabilitiesHigh.readEvents readout.high

/-- There is a base clock, and the block length is not the reserved one. -/
def Credible (readout : Readout) : Prop :=
  CapabilityBits.baseClockMhz.get readout.raw ≠ 0 ∧
    CapabilityBits.maxBlockLength.get readout.raw < 3

/-- What a slot can do, going by what its registers say. -/
def capabilities (readout : Readout) (slot : Slot) : Capabilities :=
  slot.controller.capabilities readout.raw readout.spec readout.maximumCurrent
    slot.options.pioThreshold slot.regulator.isSome

end Readout

namespace Slot

variable {Allowed : Event → Prop}

/-! ## The parts of it -/

/-- What a slot is before its pages are allocated. -/
def readied (slot : Slot) (crashDump : Bool) : Slot :=
  { slot with crashDump, busOffset := slot.controller.busOffset }

/-- Allocate the bounce pages of a slot that was readied, if its controller needs them. -/
def providePages (slot : Slot) : Attempt Slot :=
  if slot.controller.usesBounce then
    slot.allocateBounce
      (if slot.crashDump then slot.options.crashDumpBounceSize else slot.options.bounceSize)
  else return slot

/-- What is done once the pages are allocated. -/
def settle : Task Slot Unit := do
  resetRegulator
  let capabilities ← (← get).readCapabilities
  modify fun slot => { slot with capabilities }
  (← get).toggleEvents 0xFFFF false

/-- A slot is brought up by allocating its pages, and then the rest. -/
theorem start_bringUp (slot : Slot) (length : Nat) (crashDump : Bool) :
    (bringUp length crashDump).start slot =
      if length < registerBlockSize then .done (.error .notSupported, slot)
      else
        (slot.readied crashDump).providePages.run >>= fun outcome =>
          match outcome with
          | .ok provided => settle.start provided
          | .error cause => .done (.error cause, slot.readied crashDump) := by
  rw [bringUp]
  split
  · rfl
  have hcontroller : (slot.readied crashDump).controller = slot.controller := rfl
  simp only [Task.start_bind, Task.start_modify, Task.start_get, Program.done_bind, providePages,
    hcontroller]
  cases slot.controller.usesBounce with
  | false =>
    simp only [Bool.false_eq_true, if_false, Attempt.run_pure, Program.done_bind, settle,
      Task.start_bind, Task.start_get, Task.start_modify]
    rfl
  | true =>
    simp only [if_true, Task.start_bind, Task.start_attempt, Program.bind_bind, Program.done_bind]
    congr 1
    funext outcome
    cases outcome with
    | error cause => rfl
    | ok allocated =>
      simp only [Task.start_set, Program.done_bind, settle, Task.start_bind, Task.start_get,
        Task.start_modify]

/-- Providing pages touches nothing but the pages. -/
theorem ensures_providePages (slot : Slot) :
    slot.providePages.run.Ensures Allowed fun events outcome =>
      (∀ event ∈ events, event.isAccess = false) ∧
      ∀ slot', outcome = .ok (.ok slot') →
        slot' = { slot with bounce := slot'.bounce } ∧ (slot.PagesCover → slot'.PagesCover) := by
  rw [providePages]
  split
  · refine (Transfer.ensures_allocateBounce slot _).mono ?_
    rintro events outcome ⟨hevents, hslot⟩
    refine ⟨hevents, fun slot' houtcome => ?_⟩
    obtain ⟨pages, rfl, hoffset, hcovers⟩ := hslot slot' houtcome
    exact ⟨rfl, fun _ => (Repaged.of_new hcovers hoffset).covers⟩
  · refine ⟨by simp, ?_⟩
    rintro _ ⟨⟩
    exact ⟨rfl, id⟩

/-- Putting the regulator to 3.3 V touches nothing but the note of where it is. -/
theorem ensures_resetRegulator (slot : Slot) :
    (resetRegulator.start slot).Ensures (fun _ => True) fun events outcome =>
      (∀ event ∈ events, event.isAccess = false) ∧
      ∀ result slot', outcome = .ok (result, slot') →
        slot' = { slot with regulatorAt18 := slot'.regulatorAt18 } := by
  have hsame : Maintains (fun event => event.isAccess = false)
      (fun other => other = { slot with regulatorAt18 := other.regulatorAt18 }) resetRegulator := by
    refine maintains_resetRegulator ?_ fun _ => Event.isAccess_of_isMessage
    intro other at18 hother
    rw [hother]
  exact hsame slot rfl

/-- The registers are read, and what they say is believed if it is credible. -/
theorem ensures_readCapabilities (slot : Slot) :
    slot.readCapabilities.Ensures Allowed fun events outcome =>
      ∃ readout : Readout, events = readout.events ∧
        ∀ capabilities, outcome = .ok capabilities →
          readout.Credible ∧ capabilities = readout.capabilities slot := by
  intro _ _ spec _ _ _ maximumCurrent _ _ _ low _ _ _ high _
  show Program.Ensures _ (if _ then _ else _) _
  split
  · refine ⟨⟨spec, maximumCurrent, low, high⟩, rfl, ?_⟩
    rintro _ ⟨⟩
  next hcredible =>
    refine ⟨⟨spec, maximumCurrent, low, high⟩, rfl, ?_⟩
    rintro _ ⟨⟩
    obtain ⟨hclock, hlength⟩ := not_or.mp hcredible
    exact ⟨⟨hclock, Nat.lt_of_not_le hlength⟩, rfl⟩

/-- The accesses that enable or disable interrupts. The interrupts that are enabled are read first. -/
def toggleAccesses (slot : Slot) (mask : HalfWord) (enable : Bool) (enabled : HalfWord) :
    List Event :=
  RegisterMap.normalSignalEnable.readEvents enabled ++
    if enable then
      (if slot.crashDump then [] else
        RegisterMap.normalSignalEnable.writeEvents (enabled ||| mask) ++
          RegisterMap.errorSignalEnable.writeEvents 0xFFFF) ++
        RegisterMap.normalStatusEnable.writeEvents (enabled ||| mask) ++
        RegisterMap.errorStatusEnable.writeEvents 0xFFFF
    else
      RegisterMap.normalStatusEnable.writeEvents (enabled &&& ~~~mask) ++
        RegisterMap.errorStatusEnable.writeEvents 0 ++
        RegisterMap.normalSignalEnable.writeEvents (enabled &&& ~~~mask) ++
        RegisterMap.errorSignalEnable.writeEvents 0

theorem ensures_toggleEvents (slot : Slot) (mask : Word) (enable : Bool) :
    (slot.toggleEvents mask enable).Ensures Allowed fun events outcome =>
      ∃ enabled, events = slot.toggleAccesses (mask.setWidth 16) enable enabled ∧
        outcome = .ok () := by
  simp only [toggleEvents, toggleAccesses]
  intro _ _ enabled _
  cases enable with
  | false =>
    intro _ _ _ _ _ _ _ _ _ _ _ _ _ _ _ _
    exact ⟨enabled, rfl, rfl⟩
  | true =>
    cases slot.crashDump with
    | false =>
      intro _ _ _ _ _ _ _ _ _ _ _ _ _ _ _ _
      exact ⟨enabled, rfl, rfl⟩
    | true =>
      intro _ _ _ _ _ _ _ _
      exact ⟨enabled, rfl, rfl⟩

/-- Once there are pages, nothing about the slot is changed but its capabilities and the note of where
the regulator is. -/
theorem maintains_settle {Inv : Slot → Prop}
    (hregulator : ∀ slot at18, Inv slot → Inv { slot with regulatorAt18 := at18 })
    (hcapabilities : ∀ slot capabilities, Inv slot → Inv { slot with capabilities }) :
    Maintains (fun _ => True) Inv settle := by
  refine (maintains_resetRegulator hregulator fun _ _ => trivial).bind fun _ => ?_
  refine Maintains.get.bind fun slot => (maintains_program _).bind fun capabilities => ?_
  refine Maintains.bind (.modify fun slot h => hcapabilities slot capabilities h) fun _ => ?_
  exact Maintains.get.bind fun slot => maintains_program _

/-! ## All of it -/

/-- The slot that comes of bringing one up, with the accesses it took. -/
structure UpAfter (slot : Slot) (crashDump : Bool) (readout : Readout) (accesses : List Event)
    (slot' : Slot) : Prop where
  /-- The registers said something that is credible. -/
  credible : readout.Credible
  /-- The slot can do what they said. -/
  capabilities_eq : slot'.capabilities = readout.capabilities slot
  /-- They were read, and then all interrupts were disabled. -/
  accesses_eq : ∃ enabled, accesses = readout.events ++ slot'.toggleAccesses 0xFFFF false enabled
  controller_eq : slot'.controller = slot.controller
  options_eq : slot'.options = slot.options
  regulator_eq : slot'.regulator = slot.regulator
  crashDump_eq : slot'.crashDump = crashDump

theorem ensures_settle (slot : Slot) :
    (settle.start slot).Ensures (fun _ => True) fun events outcome =>
      match outcome with
      | .ok (.ok (), slot') => ∃ readout,
          slot.UpAfter slot.crashDump readout (events.filter Event.isAccess) slot'
      | .ok (.error _, _) => events.filter Event.isAccess = []
      | .error _ => True := by
  rw [settle, Task.start_bind, Program.ensures_bind]
  refine (ensures_resetRegulator slot).mono ?_
  rintro events (cause | ⟨cause | ⟨⟩, slot'⟩) ⟨hevents, hslot⟩
  · trivial
  · simp only [Program.ensures_done, List.append_nil]
    exact filter_isAccess_eq_nil hevents
  have hsame := hslot _ _ rfl
  simp only [Task.start_bind, Task.start_get, Task.start_program, Task.start_modify,
    Program.done_bind, Program.bind_bind, Program.ensures_bind, List.filter_append,
    filter_isAccess_eq_nil hevents, List.nil_append]
  refine (ensures_readCapabilities slot').mono ?_
  rintro reads (cause | capabilities) ⟨readout, rfl, hread⟩
  · trivial
  obtain ⟨hcredible, rfl⟩ := hread _ rfl
  refine (ensures_toggleEvents _ _ _).mono ?_
  rintro later _ ⟨enabled, rfl, rfl⟩
  simp only [Program.ensures_done]
  -- the note of where the regulator is makes no difference to what the slot can do
  refine ⟨readout, hcredible, ?_, ⟨enabled, rfl⟩, ?_, ?_, ?_, ?_⟩
  · show readout.capabilities slot' = _
    rw [hsame]
    rfl
  all_goals
    show _ = _
    rw [hsame]

/-- A slot that was brought up knows what its registers said, and its interrupts are disabled. If it
could not be brought up, the registers were not touched. -/
theorem ensures_bringUp (slot : Slot) (length : Nat) (crashDump : Bool) :
    ((bringUp length crashDump).start slot).Ensures (fun _ => True) fun events outcome =>
      match outcome with
      | .ok (.ok (), slot') => ∃ readout,
          slot.UpAfter crashDump readout (events.filter Event.isAccess) slot'
      | .ok (.error _, _) => events.filter Event.isAccess = []
      | .error _ => True := by
  rw [start_bringUp]
  split
  · rfl
  rw [Program.ensures_bind]
  refine (ensures_providePages (slot.readied crashDump)).mono ?_
  rintro events (cause | cause | provided) ⟨hevents, hslot⟩
  · trivial
  · simp only [Program.ensures_done, List.append_nil]
    exact filter_isAccess_eq_nil hevents
  obtain ⟨hprovided, -⟩ := hslot _ rfl
  simp only [List.filter_append, filter_isAccess_eq_nil hevents, List.nil_append]
  refine (ensures_settle provided).mono ?_
  rintro later (cause | ⟨cause | ⟨⟩, slot'⟩) hsettled
  · trivial
  · exact hsettled
  obtain ⟨readout, hup⟩ := hsettled
  refine ⟨readout, hup.credible, ?_, hup.accesses_eq, ?_, ?_, ?_, ?_⟩
  · rw [hup.capabilities_eq, hprovided]
    rfl
  · rw [hup.controller_eq, hprovided]
    rfl
  · rw [hup.options_eq, hprovided]
    rfl
  · rw [hup.regulator_eq, hprovided]
    rfl
  · rw [hup.crashDump_eq, hprovided]
    rfl

end Slot

end SdHost
