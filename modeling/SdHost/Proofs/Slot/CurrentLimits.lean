import SdHost.Proofs.Slot.Advertised

/-!
# The currents of a slot

What a slot can supply is told by four flags, one for each of 200, 400, 600 and 800 mA. The register of
the most current has a byte for each voltage of supply, in units of 4 mA, and the highest voltage counts.
There are two places to look for the highest voltage: the capability register, and the capabilities that
were put right for the controller. The flags go by the register, and the framework sees the capabilities.

The module introduces:

* `SupplyVoltage.milliamperes`: the most current at a voltage, as the register tells it;
* `Capabilities.highestSupply`: the highest voltage of supply that a slot advertises;
* `Capabilities.LimitsMatch`: the flags are the thresholds of a current;
* `Controller.Overstates`: a controller advertises no voltage of supply and yet a current.

`limits_of_highestSupply` says that the flags match the highest voltage that is advertised unless the
controller overstates its current.
-/

namespace SdHost

/-- The most current that can be supplied at a voltage, in milliamperes. Each voltage has a byte of its
own in the register. -/
def SupplyVoltage.milliamperes (maximumCurrent : Word) : SupplyVoltage → Nat
  | .v33 => (maximumCurrent.extractLsb' 0 8).toNat * 4
  | .v30 => (maximumCurrent.extractLsb' 8 8).toNat * 4
  | .v18 => (maximumCurrent.extractLsb' 16 8).toNat * 4
  | .off => 0

namespace Capabilities

/-- The highest voltage of supply that is advertised, if there is any. -/
def highestSupply (caps : Capabilities) : SupplyVoltage :=
  if caps.voltage33 then .v33
  else if caps.voltage30 then .v30
  else if caps.voltage18 then .v18
  else .off

/-- The flags are the thresholds of a current. -/
structure LimitsMatch (caps : Capabilities) (available : Nat) : Prop where
  limit200_eq : caps.limit200 = decide (200 ≤ available)
  limit400_eq : caps.limit400 = decide (400 ≤ available)
  limit600_eq : caps.limit600 = decide (600 ≤ available)
  limit800_eq : caps.limit800 = decide (800 ≤ available)

variable {caps : Capabilities} {raw : DoubleWord}

/-- The current that the flags are worked out from is the one at the highest voltage of the register. -/
theorem milliamperes_eq (raw : DoubleWord) (maximumCurrent : Word) (spec : Byte)
    (pioThreshold : Nat) :
    milliamperes raw maximumCurrent =
      (ofRegister raw spec pioThreshold).highestSupply.milliamperes maximumCurrent := by
  have hsupply : (ofRegister raw spec pioThreshold).highestSupply =
      if CapabilityBits.voltage3_3.test raw then .v33
      else if CapabilityBits.voltage3_0.test raw then .v30
      else if CapabilityBits.voltage1_8.test raw then .v18
      else .off := rfl
  rw [hsupply, milliamperes]
  simp only [apply_ite (SupplyVoltage.milliamperes maximumCurrent)]
  rfl

/-- Where the register tells of 1.8 V alone, the current is the one at 1.8 V. -/
theorem milliamperes_of_only_v18 (h33 : CapabilityBits.voltage3_3.test raw = false)
    (h30 : CapabilityBits.voltage3_0.test raw = false)
    (h18 : CapabilityBits.voltage1_8.test raw = true) (maximumCurrent : Word) :
    milliamperes raw maximumCurrent = SupplyVoltage.v18.milliamperes maximumCurrent := by
  simp only [milliamperes, h33, h30, h18]
  rfl

theorem limitsMatch_withCurrentLimits (raw : DoubleWord) (maximumCurrent : Word)
    (caps : Capabilities) :
    (caps.withCurrentLimits raw maximumCurrent).LimitsMatch (milliamperes raw maximumCurrent) :=
  ⟨rfl, rfl, rfl, rfl⟩

/-- The flags tell two currents apart only if there is a threshold between them. -/
theorem LimitsMatch.iff_of_match {available other : Nat} (h : caps.LimitsMatch available) :
    caps.LimitsMatch other ↔
      ∀ threshold ∈ [200, 400, 600, 800], threshold ≤ other ↔ threshold ≤ available := by
  obtain ⟨h200, h400, h600, h800⟩ := h
  have hflags : caps.LimitsMatch other ↔
      caps.limit200 = decide (200 ≤ other) ∧ caps.limit400 = decide (400 ≤ other) ∧
        caps.limit600 = decide (600 ≤ other) ∧ caps.limit800 = decide (800 ≤ other) :=
    ⟨fun ⟨h1, h2, h3, h4⟩ => ⟨h1, h2, h3, h4⟩, fun ⟨h1, h2, h3, h4⟩ => ⟨h1, h2, h3, h4⟩⟩
  rw [hflags, h200, h400, h600, h800]
  simp [decide_eq_decide, iff_comm]

/-- They tell a current from none exactly if it reaches the lowest threshold. -/
theorem LimitsMatch.zero_iff {available : Nat} (h : caps.LimitsMatch available) :
    caps.LimitsMatch 0 ↔ ¬ 200 ≤ available := by
  rw [h.iff_of_match]
  constructor
  · intro hall
    have hlowest := hall 200 (by simp)
    omega
  · intro hbelow threshold hmem
    -- no threshold is below the lowest
    have hlowest : 200 ≤ threshold := by
      revert threshold
      decide
    omega

end Capabilities

namespace Controller

/-- The controller of the BCM2711 never advertises a supply of 1.8 V. Where its register tells of no
other, and of 200 mA or more, no voltage is advertised and the current still is. -/
def Overstates (controller : Controller) (raw : DoubleWord) (maximumCurrent : Word) : Prop :=
  (∃ revision, controller = .brcme88c revision) ∧
    CapabilityBits.voltage3_3.test raw = false ∧ CapabilityBits.voltage3_0.test raw = false ∧
    CapabilityBits.voltage1_8.test raw = true ∧ 200 ≤ SupplyVoltage.v18.milliamperes maximumCurrent

variable {controller : Controller}

/-- A controller that follows the specification advertises the voltages that the flags go by. -/
theorem limitsMatch_standard (errata : Bool) (raw : DoubleWord) (spec : Byte) (maximumCurrent : Word)
    (pioThreshold : Nat) (regulator : Bool) :
    let caps := (standard errata).capabilities raw spec maximumCurrent pioThreshold regulator
    caps.LimitsMatch (caps.highestSupply.milliamperes maximumCurrent) := by
  intro caps
  have hcurrent := Capabilities.milliamperes_eq ((standard errata).correctRegister raw)
    maximumCurrent spec pioThreshold
  -- neither the controller nor the flags change a voltage
  have hsupply : caps.highestSupply =
      (Capabilities.ofRegister ((standard errata).correctRegister raw) spec
        pioThreshold).highestSupply := rfl
  rw [hsupply, ← hcurrent]
  exact Capabilities.limitsMatch_withCurrentLimits _ _ _

/-- The controller of the BCM2711 advertises one voltage less. -/
theorem limitsMatch_brcme88c_iff (revision : Word) (raw : DoubleWord) (spec : Byte)
    (maximumCurrent : Word) (pioThreshold : Nat) (regulator : Bool) :
    let caps := (brcme88c revision).capabilities raw spec maximumCurrent pioThreshold regulator
    caps.LimitsMatch (caps.highestSupply.milliamperes maximumCurrent) ↔
      ¬ (brcme88c revision).Overstates raw maximumCurrent := by
  intro caps
  have hmatch : caps.LimitsMatch (Capabilities.milliamperes raw maximumCurrent) :=
    Capabilities.limitsMatch_withCurrentLimits _ _ _
  have hsupply : caps.highestSupply =
      if CapabilityBits.voltage3_3.test raw then .v33
      else if CapabilityBits.voltage3_0.test raw then .v30
      else .off := by
    simp [caps, capabilities, brcme88c, Capabilities.withCurrentLimits, Capabilities.ofRegister,
      Capabilities.highestSupply]
  rw [hsupply, Overstates]
  -- the two go apart where 1.8 V is the only voltage of the register
  cases h33 : CapabilityBits.voltage3_3.test raw with
  | true => simpa [Capabilities.milliamperes, SupplyVoltage.milliamperes, h33] using hmatch
  | false =>
    cases h30 : CapabilityBits.voltage3_0.test raw with
    | true => simpa [Capabilities.milliamperes, SupplyVoltage.milliamperes, h33, h30] using hmatch
    | false =>
      cases h18 : CapabilityBits.voltage1_8.test raw with
      | false =>
        simpa [Capabilities.milliamperes, SupplyVoltage.milliamperes, h33, h30, h18] using hmatch
      | true =>
        rw [Capabilities.milliamperes_of_only_v18 h33 h30 h18] at hmatch
        have hlowest := hmatch.zero_iff
        simpa [SupplyVoltage.milliamperes] using hlowest

/-- Of the controllers of this library, only that of the BCM2711 can overstate its current. -/
theorem BuiltIn.limitsMatch_iff (h : controller.BuiltIn) (raw : DoubleWord) (spec : Byte)
    (maximumCurrent : Word) (pioThreshold : Nat) (regulator : Bool) :
    let caps := controller.capabilities raw spec maximumCurrent pioThreshold regulator
    caps.LimitsMatch (caps.highestSupply.milliamperes maximumCurrent) ↔
      ¬ controller.Overstates raw maximumCurrent := by
  cases h with
  | brcme88c revision => exact limitsMatch_brcme88c_iff _ _ _ _ _ _
  | standard errata =>
    refine iff_of_true (limitsMatch_standard _ _ _ _ _ _) ?_
    rintro ⟨⟨revision, hcontroller⟩, -⟩
    have hname : "SDHC" = "BRCME88C" := congrArg Controller.name hcontroller
    exact absurd hname (by decide)

end Controller

/-- **The currents of a slot.** Take one of the controllers of this library, any contents of its
registers, and a regulator or none. The flags are the thresholds of the current at the highest voltage of
supply that is advertised, and all clear if none is, unless the controller overstates its current. If it
does, no voltage is advertised and the flag for 200 mA is set.

So it is for every slot that was brought up, and the registers are those that were read. -/
theorem limits_of_highestSupply {controller : Controller} (hbuiltIn : controller.BuiltIn) :
    (∀ (raw : DoubleWord) (spec : Byte) (maximumCurrent : Word) (pioThreshold : Nat)
        (regulator : Bool),
      let caps := controller.capabilities raw spec maximumCurrent pioThreshold regulator
      (caps.LimitsMatch (caps.highestSupply.milliamperes maximumCurrent) ↔
        ¬ controller.Overstates raw maximumCurrent) ∧
      (controller.Overstates raw maximumCurrent →
        caps.highestSupply = .off ∧ caps.limit200 = true)) ∧
    ∀ (σ : Type) (host : Host σ) (slot slot' : Slot) (length : Nat) (crashDump : Bool)
        (state up : σ),
      slot.controller = controller →
      ((Slot.bringUp length crashDump).start slot).run host state = (.ok (.ok (), slot'), up) →
      ∃ readout : Readout,
        readout.events <+:
          (((Slot.bringUp length crashDump).start slot).history host state).filter Event.isAccess ∧
        (slot'.capabilities.LimitsMatch
            (slot'.capabilities.highestSupply.milliamperes readout.maximumCurrent) ↔
          ¬ controller.Overstates readout.raw readout.maximumCurrent) := by
  refine ⟨fun raw spec maximumCurrent pioThreshold regulator =>
    ⟨hbuiltIn.limitsMatch_iff _ _ _ _ _, ?_⟩, ?_⟩
  · rintro ⟨⟨revision, rfl⟩, h33, h30, h18, hcurrent⟩
    -- the register has 1.8 V and the controller takes it away
    rw [← Capabilities.milliamperes_of_only_v18 h33 h30 h18] at hcurrent
    simp [Controller.capabilities, Controller.brcme88c, Capabilities.withCurrentLimits,
      Capabilities.ofRegister, Capabilities.highestSupply, h33, h30, hcurrent]
  · intro σ host slot slot' length crashDump state up hcontroller hup
    obtain ⟨readout, hafter⟩ := (Slot.ensures_bringUp slot length crashDump).of_run hup
    obtain ⟨enabled, haccesses⟩ := hafter.accesses_eq
    refine ⟨readout, ⟨_, haccesses.symm⟩, ?_⟩
    rw [hafter.capabilities_eq, Readout.capabilities, hcontroller]
    exact hbuiltIn.limitsMatch_iff _ _ _ _ _

/-- A controller that follows the specification, supplies 3.0 V and 1.8 V, and tells 400 mA for the
one and 800 mA for the other. The flags go by the higher voltage. -/
theorem limits_of_highestSupply_two_voltages :
    let caps := (Controller.standard false).capabilities 0x06006400 2 0x00C86400 64 false
    (Controller.standard false).BuiltIn ∧ caps.highestSupply = .v30 ∧
      caps.LimitsMatch 400 ∧ ¬ caps.LimitsMatch 800 := by
  intro caps
  have hbuiltIn : (Controller.standard false).BuiltIn := .standard false
  have hnot : ¬ (Controller.standard false).Overstates 0x06006400 0x00C86400 := by
    rintro ⟨-, -, h30, -⟩
    exact absurd h30 (by decide)
  have hmatch := (((limits_of_highestSupply hbuiltIn).1 0x06006400 2 0x00C86400 64 false).1).mpr hnot
  refine ⟨hbuiltIn, by decide, hmatch, fun h => ?_⟩
  exact absurd h.limit600_eq (by decide)

/-- The controller of the BCM2711, over registers that tell of 1.8 V alone and 800 mA. No voltage of
supply is advertised, and a current of 800 mA is. -/
theorem current_without_supply :
    let caps := (Controller.brcme88c 0x27110020).capabilities 0x04006400 2 0x00C80000 64 false
    caps.highestSupply = .off ∧ caps.limit800 = true ∧
      ¬ caps.LimitsMatch (caps.highestSupply.milliamperes 0x00C80000) := by
  intro caps
  refine ⟨by decide, by decide, fun h => ?_⟩
  exact absurd h.limit800_eq (by decide)

end SdHost
