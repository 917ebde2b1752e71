import SdHost.Proofs.Slot.DmaFormat
import SdHost.Proofs.Slot.Step

/-!
# What a slot advertises

What the framework is told that a slot can do goes through four stages: the capability register is put
right, the capabilities are read off it, they are put right for the controller, and the currents that the
slot can supply are added. Each stage goes by one capability at a time, and together they have to tell
one story.

The module introduces:

* `Capabilities.Consistent`: what has to be in line with what;
* `Controller.BuiltIn`: the controllers of this library;
* `Slot.SameMake`: two states of a slot with the same controller, choices, channel and capabilities.

`Controller.BuiltIn.consistent` carries consistency through the stages, and `Slot.Step.sameMake` says
that nothing that is done with a slot in use changes what it advertises. `advertised_of_bringUp` puts
them together.
-/

namespace SdHost

open SdHost.Task (Maintains)

/-! ## Consistent capabilities -/

namespace Capabilities

/-- What a slot advertises is in line with itself. -/
structure Consistent (caps : Capabilities) : Prop where
  /-- The modes with signals of 1.8 V come with such signals. -/
  signaling : caps.sdr50 = true ∨ caps.sdr104 = true ∨ caps.ddr50 = true → caps.signaling18 = true
  /-- Descriptors are as long as the entries of the tables, if there are tables. -/
  descriptorSize_eq : caps.descriptorSize = if caps.scatterGather && caps.address64 then 12 else 8
  /-- Whoever can supply a current can supply every smaller one. -/
  limits : (caps.limit800 = true → caps.limit600 = true) ∧
    (caps.limit600 = true → caps.limit400 = true) ∧ (caps.limit400 = true → caps.limit200 = true)
  /-- The largest block has one of the lengths of the specification. -/
  maximumBlockSize_mem : caps.maximumBlockSize ∈ [512, 1024, 2048]

variable {raw : DoubleWord}

/-- Capabilities are consistent when they are read off the register. -/
theorem consistent_ofRegister (hlength : CapabilityBits.maxBlockLength.get raw < 3) (spec : Byte)
    (pioThreshold : Nat) : (ofRegister raw spec pioThreshold).Consistent where
  signaling := by
    simp only [ofRegister, Bool.or_eq_true]
    tauto
  descriptorSize_eq := rfl
  limits := by simp [ofRegister]
  maximumBlockSize_mem := by
    simp only [ofRegister]
    generalize CapabilityBits.maxBlockLength.get raw = shift at hlength
    interval_cases shift <;> decide

/-- The currents are compared with one number. -/
theorem Consistent.withCurrentLimits {caps : Capabilities} (h : caps.Consistent)
    (maximumCurrent : Word) : (caps.withCurrentLimits raw maximumCurrent).Consistent where
  signaling := h.signaling
  descriptorSize_eq := h.descriptorSize_eq
  limits := by
    simp only [Capabilities.withCurrentLimits, decide_eq_true_eq]
    omega
  maximumBlockSize_mem := h.maximumBlockSize_mem

end Capabilities

/-! ## What the controllers put right -/

namespace Controller

/-- The controllers of this library. -/
inductive BuiltIn : Controller → Prop
  | standard (errata : Bool) : BuiltIn (.standard errata)
  | brcme88c (revision : Word) : BuiltIn (.brcme88c revision)

variable {controller : Controller}

/-- The length of the largest block is always believed. -/
theorem BuiltIn.get_maxBlockLength (h : controller.BuiltIn) (raw : DoubleWord) :
    CapabilityBits.maxBlockLength.get (controller.correctRegister raw) =
      CapabilityBits.maxBlockLength.get raw := by
  cases h with
  | brcme88c revision => rfl
  | standard errata =>
    cases errata with
    | false => rfl
    | true =>
      show CapabilityBits.maxBlockLength.get (CapabilityBits.ddr50.put false
        (CapabilityBits.sdma.put false (CapabilityBits.adma2.put false raw))) = _
      simp (disch := decide) only [Field.get_put_of_disjoint]

/-- What a controller puts right was consistent before and is so afterwards. -/
theorem BuiltIn.consistent_correct (h : controller.BuiltIn) {caps : Capabilities}
    (hcaps : caps.Consistent) (raw : DoubleWord) (regulator : Bool) :
    (controller.correct raw regulator caps).Consistent := by
  cases h with
  | standard errata => exact hcaps
  | brcme88c revision =>
    exact
      { signaling := by
          simp only [Controller.brcme88c, Bool.and_eq_true]
          rintro (hoff | hsdr104 | hddr50)
          · cases hoff
          · exact hsdr104.1
          · exact hddr50
        descriptorSize_eq := rfl
        limits := hcaps.limits
        maximumBlockSize_mem := hcaps.maximumBlockSize_mem }

/-- What a slot with one of the controllers advertises is consistent, whatever else its registers hold
and whether there is a regulator or not. -/
theorem BuiltIn.consistent (h : controller.BuiltIn) {raw : DoubleWord}
    (hlength : CapabilityBits.maxBlockLength.get raw < 3) (spec : Byte) (maximumCurrent : Word)
    (pioThreshold : Nat) (regulator : Bool) :
    (controller.capabilities raw spec maximumCurrent pioThreshold regulator).Consistent := by
  rw [← h.get_maxBlockLength] at hlength
  have hread := Capabilities.consistent_ofRegister hlength spec pioThreshold
  exact (h.consistent_correct hread _ regulator).withCurrentLimits maximumCurrent

/-- What the controller of the BCM2711 never advertises, and that it needs a regulator for signals of
1.8 V. -/
theorem capabilities_brcme88c (revision : Word) (raw : DoubleWord) (spec : Byte)
    (maximumCurrent : Word) (pioThreshold : Nat) (regulator : Bool) :
    let caps := (brcme88c revision).capabilities raw spec maximumCurrent pioThreshold regulator
    (caps.signaling18 = true → regulator = true) ∧ caps.scatterGather = false ∧
      caps.busWidth8 = false ∧ caps.sdr50 = false ∧ caps.voltage18 = false := by
  simp [capabilities, brcme88c, Capabilities.withCurrentLimits]

/-- What a controller never advertises if its register is not to be believed. -/
theorem capabilities_errata (raw : DoubleWord) (spec : Byte) (maximumCurrent : Word)
    (pioThreshold : Nat) (regulator : Bool) :
    let caps := (standard true).capabilities raw spec maximumCurrent pioThreshold regulator
    caps.scatterGather = false ∧ caps.ddr50 = false :=
  ⟨Readout.test_adma2_correctRegister raw, Field.test_put _ (by decide) rfl _ _⟩

end Controller

/-! ## What does not change -/

namespace Slot

/-- Two states of a slot that agree in what it advertises, and in all that this depends on. -/
structure SameMake (slot slot' : Slot) : Prop where
  capabilities_eq : slot'.capabilities = slot.capabilities
  controller_eq : slot'.controller = slot.controller
  options_eq : slot'.options = slot.options
  regulator_eq : slot'.regulator = slot.regulator

theorem SameMake.refl (slot : Slot) : slot.SameMake slot :=
  ⟨rfl, rfl, rfl, rfl⟩

theorem SameMake.trans {slot slot' slot'' : Slot} (h : slot.SameMake slot')
    (h' : slot'.SameMake slot'') : slot.SameMake slot'' where
  capabilities_eq := h'.capabilities_eq.trans h.capabilities_eq
  controller_eq := h'.controller_eq.trans h.controller_eq
  options_eq := h'.options_eq.trans h.options_eq
  regulator_eq := h'.regulator_eq.trans h.regulator_eq

/-- Where the regulator is does not count. -/
theorem SameMake.noted {slot slot' : Slot} (h : slot.SameMake slot') (regulatorAt18 : Bool) :
    slot.SameMake { slot' with regulatorAt18 } :=
  ⟨h.capabilities_eq, h.controller_eq, h.options_eq, h.regulator_eq⟩

/-- Nor do the bounce pages and what goes through them. -/
theorem SameMake.paged {slot slot' : Slot} (h : slot.SameMake slot') (bounce : Option BouncePages)
    (bounceInProgress : Option Direction) :
    slot.SameMake { slot' with bounce, bounceInProgress } :=
  ⟨h.capabilities_eq, h.controller_eq, h.options_eq, h.regulator_eq⟩

variable {σ : Type} {host : Host σ} {slot slot' : Slot} {state after : σ}

/-- A step of a request touches no part of the slot but the bounce pages, which do not count. -/
theorem maintains_step_sameMake (slot : Slot) :
    Maintains (fun _ => True) (fun t => slot.SameMake t.slot) Transfer.step := by
  have hpio : ∀ command direction,
      Maintains (fun _ => True) (fun t => slot.SameMake t.slot)
        (Transfer.setUpPio command direction) :=
    Transfer.maintains_setUpPio (fun _ _ => trivial) fun _ bounce bounceInProgress h =>
      h.paged bounce bounceInProgress
  exact Transfer.maintains_step (fun _ _ => trivial) (fun _ _ h => h) hpio
    (fun t bounceInProgress h => h.paged t.slot.bounce bounceInProgress) fun _ _ => trivial

/-- Nothing that is done with a slot in use changes what it advertises. -/
theorem Step.sameMake (h : Step host (slot, state) (slot', after)) : slot.SameMake slot' := by
  cases h with
  | @operated _ _ _ _ operation _ hrun =>
    have hkept : Maintains (fun _ => True) slot.SameMake (performBusOperation operation) :=
      maintains_performBusOperation (fun _ regulatorAt18 h => h.noted regulatorAt18) operation
    exact hkept.of_run (.refl slot) hrun
  | issued hrun =>
    exact (maintains_step_sameMake slot).of_run (SameMake.refl slot) (run_step_of_issueRequest hrun)
  | called => exact .refl slot
  | cleanedUp hrun =>
    obtain ⟨_, _, -, hrest, -⟩ := Program.exists_of_run_bind hrun
    cases hrest
    exact (SameMake.refl slot).paged _ _
  | stored => exact (SameMake.refl slot).paged _ _

/-- So does no number of such things. -/
theorem sameMake_of_steps
    (hsteps : Relation.ReflTransGen (fun before after : Slot =>
      ∃ state state' : σ, Step host (before, state) (after, state')) slot slot') :
    slot.SameMake slot' := by
  -- induction on the steps, between which the surroundings may change
  induction hsteps with
  | refl => exact .refl slot
  | tail _ hstep ih =>
    obtain ⟨state, state', hstep⟩ := hstep
    exact ih.trans hstep.sameMake

end Slot

namespace Readout

/-- What the registers hold can be told from the accesses that read them. -/
theorem eq_of_prefix {readout other : Readout} {later : List Event}
    (h : readout.events <+: other.events ++ later) : readout = other := by
  have hother : readout.events <+: other.events :=
    List.prefix_of_prefix_length_le h (List.prefix_append _ _) le_rfl
  have hevents : readout.events = other.events := hother.eq_of_length rfl
  obtain ⟨spec, maximumCurrent, low, high⟩ := readout
  obtain ⟨spec', maximumCurrent', low', high'⟩ := other
  simpa [events, Register.readEvents] using hevents

/-- What a slot advertises depends on its controller, its choices and whether it has a channel. -/
theorem capabilities_congr (readout : Readout) {slot slot' : Slot}
    (hcontroller : slot'.controller = slot.controller) (hoptions : slot'.options = slot.options)
    (hregulator : slot'.regulator = slot.regulator) :
    readout.capabilities slot' = readout.capabilities slot := by
  rw [capabilities, capabilities, hcontroller, hoptions, hregulator]

end Readout

/-- **What a slot advertises.** Bring up a slot with one of the controllers of this library, whatever
its registers hold and whether there is a regulator or not. What it then advertises follows from what
was read, and is consistent. A controller of the BCM2711 advertises signals of 1.8 V only with a
regulator, and never tables for the framework, eight data lines, SDR50 or a supply of 1.8 V. A standard
controller whose register is not to be believed advertises neither tables nor DDR50.

Nothing that is done with the slot afterwards changes what it advertises, and if it is brought up again
and its registers hold the same, it advertises the same. -/
theorem advertised_of_bringUp {σ : Type} {host : Host σ} {slot slot' : Slot} {length : Nat}
    {crashDump : Bool} {state up : σ} (hbuiltIn : slot.controller.BuiltIn)
    (hup : ((Slot.bringUp length crashDump).start slot).run host state =
      (.ok (.ok (), slot'), up)) :
    ∃ readout : Readout,
      readout.events <+:
        (((Slot.bringUp length crashDump).start slot).history host state).filter Event.isAccess ∧
      readout.Credible ∧ slot'.capabilities = readout.capabilities slot ∧
      slot'.capabilities.Consistent ∧
      (∀ revision, slot.controller = .brcme88c revision →
        (slot'.capabilities.signaling18 = true → slot.regulator.isSome = true) ∧
        slot'.capabilities.scatterGather = false ∧ slot'.capabilities.busWidth8 = false ∧
        slot'.capabilities.sdr50 = false ∧ slot'.capabilities.voltage18 = false) ∧
      (slot.controller = .standard true →
        slot'.capabilities.scatterGather = false ∧ slot'.capabilities.ddr50 = false) ∧
      ∀ used : Slot,
        Relation.ReflTransGen (fun before after : Slot =>
          ∃ state state' : σ, Slot.Step host (before, state) (after, state')) slot' used →
        used.capabilities = slot'.capabilities ∧
        ∀ (length : Nat) (crashDump : Bool) (again : Slot) (state up : σ),
          ((Slot.bringUp length crashDump).start used).run host state =
            (.ok (.ok (), again), up) →
          readout.events <+:
            (((Slot.bringUp length crashDump).start used).history host state).filter
              Event.isAccess →
          again.capabilities = slot'.capabilities := by
  obtain ⟨readout, hafter⟩ := (Slot.ensures_bringUp slot length crashDump).of_run hup
  obtain ⟨enabled, haccesses⟩ := hafter.accesses_eq
  have hcaps := hafter.capabilities_eq
  refine ⟨readout, ⟨_, haccesses.symm⟩, hafter.credible, hcaps, ?_, ?_, ?_,
    fun used hsteps => ⟨?_, ?_⟩⟩
  · -- the readout of a slot that came up tells a length that the specification knows
    rw [hcaps]
    exact hbuiltIn.consistent hafter.credible.2 _ _ _ _
  · intro revision hcontroller
    rw [hcaps, Readout.capabilities, hcontroller]
    exact Controller.capabilities_brcme88c _ _ _ _ _ _
  · intro hcontroller
    rw [hcaps, Readout.capabilities, hcontroller]
    exact Controller.capabilities_errata _ _ _ _ _
  · exact (Slot.sameMake_of_steps hsteps).capabilities_eq
  · intro length crashDump again state up hagain hprefix
    have hused := Slot.sameMake_of_steps hsteps
    obtain ⟨other, hafter'⟩ := (Slot.ensures_bringUp used length crashDump).of_run hagain
    obtain ⟨enabled', haccesses'⟩ := hafter'.accesses_eq
    -- both readouts begin the accesses of the second run, so that they are one
    rw [haccesses'] at hprefix
    obtain rfl := Readout.eq_of_prefix hprefix
    rw [hafter'.capabilities_eq, hcaps]
    exact readout.capabilities_congr (hused.controller_eq.trans hafter.controller_eq)
      (hused.options_eq.trans hafter.options_eq) (hused.regulator_eq.trans hafter.regulator_eq)

namespace AdvertisedTwice

/-- Registers that tell a base clock, tables, SDR50 and DDR50. -/
def file (offset : Nat) : Byte :=
  if offset = 0x41 then 100 else if offset = 0x42 then 8 else if offset = 0x44 then 5 else 0

/-- What is read from them. -/
def readout : Readout where
  spec := 0
  maximumCurrent := 0
  low := 0x00086400
  high := 5

/-- A slot of a controller of which the register is not to be believed. -/
def slot : Slot where
  controller := .standard true

end AdvertisedTwice

/-- The slot is brought up, cleaned up and brought up again, to write a crash dump, while its registers
hold the same. Of what they say, SDR50 is advertised with signals of 1.8 V, and DDR50 is not. The second
time it is the same. -/
theorem advertised_of_bringUp_twice :
    AdvertisedTwice.slot.controller.BuiltIn ∧ ∃ slot' up used later again after,
      ((Slot.bringUp registerBlockSize false).start AdvertisedTwice.slot).run RegisterFile.host
        AdvertisedTwice.file = (.ok (.ok (), slot'), up) ∧
      slot'.cleanup.run RegisterFile.host up = (.ok used, later) ∧
      ((Slot.bringUp registerBlockSize true).start used).run RegisterFile.host
        AdvertisedTwice.file = (.ok (.ok (), again), after) ∧
      slot'.capabilities.Consistent ∧ slot'.capabilities.sdr50 = true ∧
      slot'.capabilities.signaling18 = true ∧ slot'.capabilities.ddr50 = false ∧
      again.capabilities = slot'.capabilities := by
  obtain ⟨slot', up, used, later, again, after, hup, hcleanup, hagain, hsdr50, ⟨rest, hreads⟩,
      hreads'⟩ : ∃ slot' up used later again after,
      ((Slot.bringUp registerBlockSize false).start AdvertisedTwice.slot).run RegisterFile.host
        AdvertisedTwice.file = (.ok (.ok (), slot'), up) ∧
      slot'.cleanup.run RegisterFile.host up = (.ok used, later) ∧
      ((Slot.bringUp registerBlockSize true).start used).run RegisterFile.host
        AdvertisedTwice.file = (.ok (.ok (), again), after) ∧
      slot'.capabilities.sdr50 = true ∧
      AdvertisedTwice.readout.events <+:
        (((Slot.bringUp registerBlockSize false).start AdvertisedTwice.slot).history
          RegisterFile.host AdvertisedTwice.file).filter Event.isAccess ∧
      AdvertisedTwice.readout.events <+:
        (((Slot.bringUp registerBlockSize true).start used).history
          RegisterFile.host AdvertisedTwice.file).filter Event.isAccess :=
    ⟨_, _, _, _, _, _, rfl, rfl, rfl, by decide, ⟨_, rfl⟩, ⟨_, rfl⟩⟩
  have hbuiltIn : AdvertisedTwice.slot.controller.BuiltIn := .standard true
  obtain ⟨readout, hprefix, -, -, hconsistent, -, herrata, hused⟩ := advertised_of_bringUp hbuiltIn hup
  obtain ⟨-, hsame⟩ := hused used (.single ⟨up, later, .cleanedUp hcleanup⟩)
  rw [← hreads] at hprefix
  obtain rfl := Readout.eq_of_prefix hprefix
  exact ⟨hbuiltIn, slot', up, used, later, again, after, hup, hcleanup, hagain, hconsistent, hsdr50,
    hconsistent.signaling (.inl hsdr50), (herrata rfl).2, hsame _ _ _ _ _ hagain hreads'⟩

end SdHost
