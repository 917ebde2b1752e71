import SdHost.Proofs.Bus.Footprint
import SdHost.Proofs.Host.Along
import SdHost.Proofs.Host.Block
import SdHost.Proofs.Register.Field

/-!
# Settings of the bus

Most operations of the bus just set a field or two, in registers that they share with other operations.
They read a register, replace the bits of their fields and write it back, so that each field holds what
it was set to last and everything else is as it was.

The module introduces:

* `Setting`: the fields that are set this way, with the clock of the card, which is let through again
  after the timing mode is set;
* `BusOperation.settings`: what an operation gives to which of them;
* `Slot.performAll`: any number of operations, one after the other.

`settings_of_operations` says what the registers hold after that.
-/

namespace SdHost

/-! ## Fields that can be set -/

/-- A field that operations of the bus set. -/
inductive Setting where
  /-- The activity light. -/
  | led
  /-- Four data lines. -/
  | width4
  /-- Eight data lines. -/
  | width8
  /-- The faster of the two legacy timing modes. -/
  | highSpeed
  /-- The ultra high speed mode. -/
  | uhsMode
  /-- The driver type. -/
  | driverStrength
  /-- Clock and driver settings come from the presets. -/
  | presetValue
  /-- A gap between blocks raises an interrupt. -/
  | gapInterrupt
  /-- The card is clocked. -/
  | clock
  deriving DecidableEq, Repr

namespace Setting

/-- Width of the register that the field is in. -/
@[reducible]
def width : Setting → Width
  | .led | .width4 | .width8 | .highSpeed | .gapInterrupt => .byte
  | .uhsMode | .driverStrength | .presetValue | .clock => .half

/-- The register that the field is in. -/
def register : (setting : Setting) → Register setting.width
  | .led | .width4 | .width8 | .highSpeed => HostControl1.register
  | .gapInterrupt => BlockGapControl.register
  | .uhsMode | .driverStrength | .presetValue => HostControl2.register
  | .clock => ClockControl.register

/-- The bits of the register. -/
def field : (setting : Setting) → Field setting.width.bits
  | .led => HostControl1.led
  | .width4 => HostControl1.width4
  | .width8 => HostControl1.width8
  | .highSpeed => HostControl1.highSpeed
  | .gapInterrupt => BlockGapControl.interruptAtGap
  | .uhsMode => HostControl2.uhsMode
  | .driverStrength => HostControl2.driverStrength
  | .presetValue => HostControl2.presetValueEnable
  | .clock => ClockControl.sdClockEnable

/-- Place of the lowest bit, counted from the start of the block. -/
def lsb (setting : Setting) : Nat :=
  8 * setting.register.offset + setting.field.lsb

/-- The bit of the block belongs to the field. -/
def Covers (setting : Setting) (place : Nat) : Prop :=
  setting.lsb ≤ place ∧ place < setting.lsb + setting.field.width

instance (setting : Setting) (place : Nat) : Decidable (setting.Covers place) :=
  inferInstanceAs (Decidable (_ ∧ _))

/-- The number that the field holds. -/
def get (setting : Setting) (file : Nat → Byte) : Nat :=
  setting.field.get (RegisterFile.value file setting.width setting.register.offset)

/-- Set the field, and write its register back. -/
def put (setting : Setting) (value : Nat) (file : Nat → Byte) : Nat → Byte :=
  RegisterFile.store file setting.width setting.register.offset
    (setting.field.set value (RegisterFile.value file setting.width setting.register.offset))

theorem fits (setting : Setting) : setting.field.Fits := by
  cases setting <;> decide

/-- Different fields have no bit in common. -/
theorem not_covers_of_ne {setting other : Setting} (h : setting ≠ other) {place : Nat}
    (hplace : setting.Covers place) : ¬ other.Covers place := by
  have hdisjoint : setting.lsb + setting.field.width ≤ other.lsb ∨
      other.lsb + other.field.width ≤ setting.lsb := by
    revert h
    cases setting <;> cases other <;> decide
  obtain ⟨hbefore, hafter⟩ := hplace
  rintro ⟨hbefore', hafter'⟩
  omega

/-- The bits of the number are those of the block. -/
theorem testBit_get (setting : Setting) (file : Nat → Byte) (i : Nat) :
    (setting.get file).testBit i =
      (decide (i < setting.field.width) && RegisterFile.bit file (setting.lsb + i)) := by
  have hfits := setting.fits
  rw [get, Field.get, BitVec.testBit_toNat, BitVec.getLsbD_extractLsb', RegisterFile.getLsbD_value,
    lsb, Nat.add_assoc]
  by_cases hi : i < setting.field.width
  · have hlt : setting.field.lsb + i < setting.width.bits := by
      unfold Field.Fits at hfits
      omega
    rw [decide_eq_true hi, decide_eq_true hlt, Bool.true_and]
  · rw [decide_eq_false hi, Bool.false_and, Bool.false_and]

/-- The bits of the field come from the number, every other bit is as it was. -/
theorem bit_put (setting : Setting) (value : Nat) (file : Nat → Byte) (place : Nat) :
    RegisterFile.bit (setting.put value file) place =
      if setting.Covers place then value.testBit (place - setting.lsb)
      else RegisterFile.bit file place := by
  have hfits := setting.fits
  unfold Field.Fits at hfits
  rw [put, RegisterFile.bit_store]
  by_cases hregister : 8 * setting.register.offset ≤ place ∧
      place < 8 * setting.register.offset + setting.width.bits
  · obtain ⟨i, rfl⟩ := Nat.exists_eq_add_of_le hregister.1
    have hi : i < setting.width.bits := by omega
    have hcovers : setting.Covers (8 * setting.register.offset + i) ↔ setting.field.Covers i := by
      unfold Covers lsb Field.Covers
      omega
    rw [if_pos hregister, Nat.add_sub_cancel_left, Field.getLsbD_set, RegisterFile.getLsbD_value,
      decide_eq_true hi, Bool.true_and, Bool.true_and, lsb, Nat.add_sub_add_left]
    simp only [hcovers]
  · have hcovers : ¬ setting.Covers place := by
      unfold Covers lsb
      omega
    rw [if_neg hregister, if_neg hcovers]

/-- The field holds what it was set to, as far as there is room for it. -/
theorem get_put (setting : Setting) {value : Nat} (h : value < 2 ^ setting.field.width)
    (file : Nat → Byte) : setting.get (setting.put value file) = value := by
  rw [get, put, RegisterFile.value_store, Field.get_set_of_lt _ setting.fits h]

/-- Setting another field leaves it as it was. -/
theorem get_put_of_ne {setting other : Setting} (h : setting ≠ other) (value : Nat)
    (file : Nat → Byte) : setting.get (other.put value file) = setting.get file := by
  refine Nat.eq_of_testBit_eq fun i => ?_
  rw [testBit_get, testBit_get]
  by_cases hi : i < setting.field.width
  · have hcovers : setting.Covers (setting.lsb + i) := ⟨by omega, by omega⟩
    rw [bit_put, if_neg (not_covers_of_ne h hcovers)]
  · rw [decide_eq_false hi, Bool.false_and, Bool.false_and]

/-- Of two values that a field is set to the second counts. -/
theorem put_put (setting : Setting) (value value' : Nat) (file : Nat → Byte) :
    setting.put value (setting.put value' file) = setting.put value file := by
  refine RegisterFile.eq_of_bit_eq fun place => ?_
  rw [bit_put, bit_put, bit_put]
  split <;> rfl

/-- The order in which two fields are set does not matter. -/
theorem put_comm {setting other : Setting} (h : setting ≠ other) (value value' : Nat)
    (file : Nat → Byte) :
    setting.put value (other.put value' file) = other.put value' (setting.put value file) := by
  refine RegisterFile.eq_of_bit_eq fun place => ?_
  rw [bit_put, bit_put, bit_put, bit_put]
  by_cases hsetting : setting.Covers place
  · rw [if_pos hsetting, if_pos hsetting, if_neg (not_covers_of_ne h hsetting)]
  · rw [if_neg hsetting, if_neg hsetting]

/-- Blocks are the same if all fields hold the same, and all other bits are the same. -/
theorem eq_of_get_eq {file file' : Nat → Byte}
    (h : ∀ setting : Setting, setting.get file = setting.get file')
    (hother : ∀ place, (∀ setting : Setting, ¬ setting.Covers place) →
      RegisterFile.bit file place = RegisterFile.bit file' place) : file = file' := by
  refine RegisterFile.eq_of_bit_eq fun place => ?_
  by_cases hcovers : ∀ setting : Setting, ¬ setting.Covers place
  · exact hother place hcovers
  · obtain ⟨setting, hsetting⟩ := not_forall_not.mp hcovers
    obtain ⟨i, rfl⟩ := Nat.exists_eq_add_of_le hsetting.1
    have hi : i < setting.field.width := by
      have := hsetting.2
      omega
    have hbit := congrArg (Nat.testBit · i) (h setting)
    simpa only [testBit_get, decide_eq_true hi, Bool.true_and] using hbit

/-- Set some fields. The one that comes first in the list is set last. -/
def putAll (entries : List (Setting × Nat)) (file : Nat → Byte) : Nat → Byte :=
  entries.foldr (fun entry => entry.1.put entry.2) file

theorem get_putAll (setting : Setting) {entries : List (Setting × Nat)} (file : Nat → Byte)
    (h : ∀ entry ∈ entries, entry.2 < 2 ^ entry.1.field.width) :
    setting.get (putAll entries file) = (entries.lookup setting).getD (setting.get file) := by
  induction entries with
  | nil => rfl
  | cons entry entries ih =>
    obtain ⟨hentry, hentries⟩ := List.forall_mem_cons.mp h
    obtain ⟨other, value⟩ := entry
    rw [putAll, List.foldr_cons, List.lookup_cons]
    by_cases heq : setting = other
    · subst heq
      rw [get_put _ hentry, beq_self_eq_true]
      rfl
    · rw [get_put_of_ne heq, beq_eq_false_iff_ne.mpr heq]
      exact ih hentries

theorem bit_putAll (entries : List (Setting × Nat)) (file : Nat → Byte) {place : Nat}
    (h : ∀ setting : Setting, ¬ setting.Covers place) :
    RegisterFile.bit (putAll entries file) place = RegisterFile.bit file place := by
  induction entries with
  | nil => rfl
  | cons entry entries ih =>
    rw [putAll, List.foldr_cons, bit_put, if_neg (h entry.1)]
    exact ih

end Setting

/-! ## What operations set -/

/-- What a timing mode gives to which field. -/
def BusSpeed.setting? : BusSpeed → Option (Setting × Nat)
  | .normal => some (.highSpeed, 0)
  | .high => some (.highSpeed, 1)
  | .sdr12 => some (.uhsMode, 0)
  | .sdr25 => some (.uhsMode, 1)
  | .sdr50 => some (.uhsMode, 2)
  | .sdr104 => some (.uhsMode, 3)
  | .ddr50 => some (.uhsMode, 4)
  | .hs200 | .hs400 => none

namespace BusOperation

/-- The operation just sets fields, to what they can be set to. -/
def IsSetting : BusOperation → Prop
  | .setLed _ | .setDriverType _ | .setPresetValue _ | .setBlockGapInterrupt _ => True
  | .setBusWidth width => width = 0 ∨ width = 1 ∨ width = 4 ∨ width = 8
  | .setBusSpeed speed => speed ≠ .hs200 ∧ speed ≠ .hs400
  | _ => False

/-- What the operation gives to the fields. -/
def settings : BusOperation → List (Setting × Nat)
  | .setLed on => [(.led, on.toNat)]
  | .setBusWidth width =>
    match width.toNat with
    | 0 | 1 => [(.width8, 0), (.width4, 0)]
    | 4 => [(.width8, 0), (.width4, 1)]
    | 8 => [(.width8, 1), (.width4, 0)]
    | _ => []
  | .setBusSpeed speed =>
    match speed.setting? with
    | some entry => [(.clock, 1), entry]
    | none => []
  | .setDriverType driver => [(.driverStrength, driver.select)]
  | .setPresetValue on => [(.presetValue, on.toNat)]
  | .setBlockGapInterrupt on => [(.gapInterrupt, on.toNat)]
  | _ => []

/-- What the operation gives to a field, if anything. -/
def gives? (operation : BusOperation) (setting : Setting) : Option Nat :=
  operation.settings.lookup setting

/-- What the operation makes of the registers. -/
def apply (operation : BusOperation) (file : Nat → Byte) : Nat → Byte :=
  Setting.putAll operation.settings file

/-- A field has room for what it is given. -/
theorem lt_of_mem_settings (operation : BusOperation) :
    ∀ entry ∈ operation.settings, entry.2 < 2 ^ entry.1.field.width := by
  have hflag : ∀ on : Bool, on.toNat < 2 := by decide
  cases operation with
  | setLed on => exact List.forall_mem_singleton.mpr (hflag on)
  | setPresetValue on => exact List.forall_mem_singleton.mpr (hflag on)
  | setBlockGapInterrupt on => exact List.forall_mem_singleton.mpr (hflag on)
  | setDriverType driver => cases driver <;> decide
  | setBusSpeed speed => cases speed <;> decide
  | setBusWidth width =>
    rw [settings]
    split <;> decide
  | _ => exact List.forall_mem_nil _

/-- After an operation a field holds what it was given, if anything. -/
theorem get_apply (operation : BusOperation) (file : Nat → Byte) (setting : Setting) :
    setting.get (operation.apply file) = (operation.gives? setting).getD (setting.get file) :=
  setting.get_putAll file operation.lt_of_mem_settings

/-- The operation sets the timing mode. -/
def isSpeed : BusOperation → Bool
  | .setBusSpeed _ => true
  | _ => false

/-- Whatever the timing mode is set to, the card is clocked after it. No other of the operations has to
do with the clock. -/
theorem gives?_clock {operation : BusOperation} (h : operation.IsSetting) :
    operation.gives? .clock = if operation.isSpeed then some 1 else none := by
  cases operation with
  | setBusSpeed speed =>
    cases speed with
    | hs200 => exact absurd rfl h.1
    | hs400 => exact absurd rfl h.2
    | _ => rfl
  | setBusWidth width => rcases h with rfl | rfl | rfl | rfl <;> rfl
  | setLed | setDriverType | setPresetValue | setBlockGapInterrupt => rfl
  | _ => exact h.elim

/-- What some operations make of the registers, one after the other. -/
def applyAll (operations : List BusOperation) (file : Nat → Byte) : Nat → Byte :=
  operations.foldl (fun file operation => operation.apply file) file

/-- After some operations a field holds what the last one gave that gave it anything. -/
theorem get_applyAll (operations : List BusOperation) (file : Nat → Byte) (setting : Setting) :
    setting.get (applyAll operations file) =
      ((operations.filterMap (·.gives? setting)).getLast?).getD (setting.get file) := by
  -- induction from the back, as the last one counts
  induction operations using List.reverseRecOn with
  | nil => rfl
  | append_singleton operations operation ih =>
    rw [applyAll, List.foldl_concat, get_apply, List.filterMap_append]
    cases hgives : operation.gives? setting with
    | none =>
      have hlast : [operation].filterMap (·.gives? setting) = [] := by simp [hgives]
      rw [hlast, List.append_nil, ← ih]
      rfl
    | some value =>
      have hlast : [operation].filterMap (·.gives? setting) = [value] := by simp [hgives]
      rw [hlast, List.getLast?_concat]
      rfl

/-- After the timing mode was set the card is clocked, whatever came after that. -/
theorem clock_applyAll_of_mem {operations : List BusOperation}
    (h : ∀ operation ∈ operations, operation.IsSetting) {speed : BusSpeed}
    (hspeed : .setBusSpeed speed ∈ operations) (file : Nat → Byte) :
    Setting.clock.get (applyAll operations file) = 1 := by
  have hgiven : 1 ∈ operations.filterMap (·.gives? .clock) :=
    List.mem_filterMap.mpr ⟨_, hspeed, gives?_clock (h _ hspeed)⟩
  have hnonempty := List.ne_nil_of_mem hgiven
  rw [get_applyAll, List.getLast?_eq_some_getLast hnonempty, Option.getD_some]
  -- whatever was given last, it is one
  obtain ⟨operation, hoperation, hlast⟩ := List.mem_filterMap.mp (List.getLast_mem hnonempty)
  rw [gives?_clock (h _ hoperation)] at hlast
  split at hlast
  · exact (Option.some.inj hlast).symm
  · cases hlast

/-- If the timing mode was not set the clock is as it was. -/
theorem clock_applyAll_of_not_mem {operations : List BusOperation}
    (h : ∀ operation ∈ operations, operation.IsSetting)
    (hspeed : ∀ speed, .setBusSpeed speed ∉ operations) (file : Nat → Byte) :
    Setting.clock.get (applyAll operations file) = Setting.clock.get file := by
  have hnone : operations.filterMap (·.gives? .clock) = [] := by
    refine List.filterMap_eq_nil_iff.mpr fun operation hoperation => ?_
    rw [gives?_clock (h _ hoperation)]
    cases operation with
    | setBusSpeed speed => exact absurd hoperation (hspeed speed)
    | _ => rfl
  rw [get_applyAll, hnone]
  rfl

/-- Bits outside of all fields are as they were. -/
theorem bit_applyAll (operations : List BusOperation) (file : Nat → Byte) {place : Nat}
    (h : ∀ setting : Setting, ¬ setting.Covers place) :
    RegisterFile.bit (applyAll operations file) place = RegisterFile.bit file place := by
  induction operations generalizing file with
  | nil => rfl
  | cons operation operations ih =>
    exact (ih _).trans (Setting.bit_putAll _ _ h)

/-- The order of two operations does not matter if they give to different fields, but for the clock. -/
theorem apply_comm {first second : BusOperation} (hfirst : first.IsSetting)
    (hsecond : second.IsSetting)
    (h : ∀ setting : Setting, setting ≠ .clock →
      first.gives? setting = none ∨ second.gives? setting = none) (file : Nat → Byte) :
    second.apply (first.apply file) = first.apply (second.apply file) := by
  refine Setting.eq_of_get_eq (fun setting => ?_) fun place hplace => ?_
  · simp only [get_apply]
    by_cases hclock : setting = .clock
    · subst hclock
      rw [gives?_clock hfirst, gives?_clock hsecond]
      cases first.isSpeed <;> cases second.isSpeed <;> rfl
    · rcases h setting hclock with hnone | hnone
      · rw [hnone]
        rfl
      · rw [hnone]
        rfl
  · simp only [apply, Setting.bit_putAll _ _ hplace]

end BusOperation

/-! ## How operations are carried out -/

variable {σ : Type} {host : Host σ} (block : StoredBlock host)

namespace BusSpeed

/-- Both host control registers are written back, and the field of the mode holds what it gives. -/
theorem store_configure {speed : BusSpeed} {setting : Setting} {value : Nat}
    (h : speed.setting? = some (setting, value)) (file : Nat → Byte) :
    ∃ control1 control2,
      speed.configure? (RegisterFile.value file .byte HostControl1.register.offset)
        (RegisterFile.value file .half HostControl2.register.offset) = some (control1, control2) ∧
      RegisterFile.store (RegisterFile.store file .byte HostControl1.register.offset control1) .half
        HostControl2.register.offset control2 = setting.put value file := by
  -- either the first register changes and the second is written back as it is, or the other way round
  have hfirst : ∀ control1 : Byte,
      RegisterFile.store (RegisterFile.store file .byte HostControl1.register.offset control1) .half
          HostControl2.register.offset
          (RegisterFile.value file .half HostControl2.register.offset) =
        RegisterFile.store file .byte HostControl1.register.offset control1 := by
    intro control1
    have hvalue : RegisterFile.value
        (RegisterFile.store file .byte HostControl1.register.offset control1) .half
          HostControl2.register.offset =
        RegisterFile.value file .half HostControl2.register.offset :=
      RegisterFile.value_store_of_isApart rfl _ _
    rw [← hvalue, RegisterFile.store_value]
  have hsecond := RegisterFile.store_value file .byte HostControl1.register.offset
  cases speed with
  | normal | high =>
    cases h
    exact ⟨_, _, rfl, hfirst _⟩
  | hs200 | hs400 => cases h
  | sdr12 | sdr25 | sdr50 | sdr104 | ddr50 =>
    cases h
    refine ⟨_, _, rfl, ?_⟩
    rw [hsecond]
    rfl

end BusSpeed

namespace Timing

/-- Write both host control registers while the card is not clocked. -/
def switchSpeed (options : Options) (control1 : Byte) (control2 : HalfWord) : Program Unit := do
  gateClock false
  Program.delay options.clockSettle
  HostControl1.register.write control1
  HostControl2.register.write control2
  gateClock true
  Program.delay options.clockSettle

theorem run_setBusSpeed (options : Options) (speed : BusSpeed) :
    (setBusSpeed options speed).run =
      HostControl1.register.read >>= fun control1 =>
        HostControl2.register.read >>= fun control2 =>
          match speed.configure? control1 control2 with
          | none => .done (.error .notSupported)
          | some (control1, control2) =>
            switchSpeed options control1 control2 >>= fun _ => .done (.ok ()) := by
  simp only [setBusSpeed, Attempt.run_bind, Attempt.run_program, Program.bind_bind,
    Program.done_bind]
  refine congrArg _ (funext fun control1 => congrArg _ (funext fun control2 => ?_))
  cases speed.configure? control1 control2 with
  | none => rfl
  | some controls =>
    simp only [switchSpeed, Attempt.run_bind, Attempt.run_program, Program.bind_bind,
      Program.done_bind]

/-- A mode is set, and the card is clocked after that. -/
theorem makes_switchSpeed (options : Options) {control1 : Byte} {control2 : HalfWord}
    {file switched : Nat → Byte}
    (h : RegisterFile.store (RegisterFile.store (Setting.clock.put 0 file) .byte
      HostControl1.register.offset control1) .half HostControl2.register.offset control2 = switched) :
    block.Makes (switchSpeed options control1 control2) file () (Setting.clock.put 1 switched) := by
  subst h
  exact (block.makes_modify ClockControl.register _ file).bind <|
    (block.makes_delay _ _).bind <|
    (block.makes_write HostControl1.register control1 _).bind <|
    (block.makes_write HostControl2.register control2 _).bind <|
    (block.makes_modify ClockControl.register _ _).bind (block.makes_delay _ _)

/-- A supported mode is set, and the rest is as it was but for the clock. -/
theorem makes_setBusSpeed (options : Options) {speed : BusSpeed} {setting : Setting} {value : Nat}
    (h : speed.setting? = some (setting, value)) (file : Nat → Byte) :
    block.Makes (setBusSpeed options speed).run file (.ok ())
      (Setting.clock.put 1 (setting.put value file)) := by
  have hne : setting ≠ .clock := by
    cases speed <;> cases h <;> decide
  obtain ⟨control1, control2, hconfigure, hstore⟩ :=
    BusSpeed.store_configure h (Setting.clock.put 0 file)
  -- stopping the clock does not change what the two registers hold
  have hvalue1 : RegisterFile.value (Setting.clock.put 0 file) .byte HostControl1.register.offset =
      RegisterFile.value file .byte HostControl1.register.offset :=
    RegisterFile.value_store_of_isApart rfl _ _
  have hvalue2 : RegisterFile.value (Setting.clock.put 0 file) .half HostControl2.register.offset =
      RegisterFile.value file .half HostControl2.register.offset :=
    RegisterFile.value_store_of_isApart rfl _ _
  have hswitched : Setting.clock.put 1 (setting.put value (Setting.clock.put 0 file)) =
      Setting.clock.put 1 (setting.put value file) := by
    rw [Setting.put_comm hne, Setting.put_put]
  rw [hvalue1, hvalue2] at hconfigure
  rw [run_setBusSpeed, ← hswitched]
  refine (block.makes_read HostControl1.register file).bind ?_
  refine (block.makes_read HostControl2.register file).bind ?_
  rw [hconfigure]
  exact (makes_switchSpeed block options hstore).bind (block.makes_done _ _)

end Timing

namespace Slot

/-- Two fields of the first host control register are set with one access. -/
theorem put_width8_put_width4 (wide narrow : Nat) (file : Nat → Byte) :
    Setting.width8.put wide (Setting.width4.put narrow file) =
      RegisterFile.store file .byte HostControl1.register.offset
        (HostControl1.width8.set wide (HostControl1.width4.set narrow
          (RegisterFile.value file .byte HostControl1.register.offset))) := by
  have hvalue : RegisterFile.value (Setting.width4.put narrow file) .byte
      HostControl1.register.offset = HostControl1.width4.set narrow
        (RegisterFile.value file .byte HostControl1.register.offset) :=
    RegisterFile.value_store _ _ _ _
  rw [← hvalue]
  exact RegisterFile.store_store _ _ _ _ _

theorem makes_setBusWidth {width : Byte} (h : (BusOperation.setBusWidth width).IsSetting)
    (file : Nat → Byte) :
    block.Makes (setBusWidth width) file () ((BusOperation.setBusWidth width).apply file) := by
  have hmakes : ∀ wide narrow : Bool,
      (∀ control, configureWidth? width control =
        some (HostControl1.width8.put wide (HostControl1.width4.put narrow control))) →
      block.Makes (setBusWidth width) file ()
        (Setting.width8.put wide.toNat (Setting.width4.put narrow.toNat file)) := by
    intro wide narrow hconfigure
    rw [put_width8_put_width4]
    refine (block.makes_read HostControl1.register file).bind ?_
    rw [hconfigure]
    exact block.makes_write HostControl1.register _ file
  rcases h with rfl | rfl | rfl | rfl
  · exact hmakes false false fun _ => rfl
  · exact hmakes false false fun _ => rfl
  · exact hmakes false true fun _ => rfl
  · exact hmakes true false fun _ => rfl

/-- Carry out some operations, one after the other. -/
def performAll (operations : List BusOperation) : Task Slot Unit :=
  forM operations performBusOperation

/-- An operation that sets fields comes to its end, and leaves the slot alone. -/
theorem makes_performBusOperation {operation : BusOperation} (h : operation.IsSetting) (slot : Slot)
    (file : Nat → Byte) :
    block.Makes ((performBusOperation operation).start slot) file (.ok (), slot)
      (operation.apply file) := by
  rw [performBusOperation, Task.start_bind, Task.start_get, Program.done_bind]
  cases operation with
  | setLed on => exact (block.makes_modify HostControl1.register _ file).start_program slot
  | setDriverType driver => exact (block.makes_modify HostControl2.register _ file).start_program slot
  | setPresetValue on => exact (block.makes_modify HostControl2.register _ file).start_program slot
  | setBlockGapInterrupt on =>
    exact (block.makes_modify BlockGapControl.register _ file).start_program slot
  | setBusWidth width => exact (makes_setBusWidth block h file).start_program slot
  | setBusSpeed speed =>
    obtain ⟨entry, hentry⟩ : ∃ entry, speed.setting? = some entry := by
      cases speed with
      | hs200 => exact absurd rfl h.1
      | hs400 => exact absurd rfl h.2
      | _ => exact ⟨_, rfl⟩
    have hsettings : (BusOperation.setBusSpeed speed).settings = [(.clock, 1), entry] := by
      rw [BusOperation.settings, hentry]
    rw [BusOperation.apply, hsettings]
    exact (Timing.makes_setBusSpeed block slot.options hentry file).start_attempt slot
  | _ => exact h.elim

/-- So do any number of them. -/
theorem makes_performAll {operations : List BusOperation}
    (h : ∀ operation ∈ operations, operation.IsSetting) (slot : Slot) (file : Nat → Byte) :
    block.Makes ((performAll operations).start slot) file (.ok (), slot)
      (BusOperation.applyAll operations file) := by
  induction operations generalizing file with
  | nil => exact block.makes_done _ file
  | cons operation operations ih =>
    obtain ⟨hoperation, hoperations⟩ := List.forall_mem_cons.mp h
    rw [performAll, List.forM_cons]
    exact (makes_performBusOperation block hoperation slot file).start_bind (ih hoperations _)

end Slot

/-! ## The clock while the timing mode is set -/

/-- The query does not write a host control register unless the card is not clocked. -/
def ControlsUnclocked (query : Query) (state : σ) : Prop :=
  query.Reaches HostControl1.register ∨ query.Reaches HostControl2.register →
    ClockControl.sdClockEnable.test
      (RegisterFile.value (block.file state) .half ClockControl.register.offset) = false

variable {block}

/-- What writes the clock register only does not matter. -/
theorem along_of_asks {α : Type} {program : Program α}
    (h : program.Asks (Event.WritesAmong [ClockControl.register.place])) (state : σ) :
    program.Along host (ControlsUnclocked block) state := by
  refine h.along (fun event hevent state => ?_) state
  rintro (hreach | hreach)
  · exact absurd hreach (hevent.not_reaches rfl)
  · exact absurd hreach (hevent.not_reaches rfl)

/-- While the card is not clocked every register may be written. -/
theorem along_write {width : Width} (register : Register width) (value : BitVec width.bits)
    {state : σ} (h : ClockControl.sdClockEnable.test
      (RegisterFile.value (block.file state) .half ClockControl.register.offset) = false) :
    (register.write value).Along host (ControlsUnclocked block) state := by
  refine ⟨?_, fun _ => ?_, trivial⟩
  · rintro (hreach | hreach)
    · exact hreach.elim
    · exact hreach.elim
  · rw [block.file_answer]
    exact h

namespace Timing

/-- Both registers are written while the card is not clocked. -/
theorem along_switchSpeed (options : Options) (control1 : Byte) (control2 : HalfWord) (start : σ) :
    (switchSpeed options control1 control2).Along host (ControlsUnclocked block) start := by
  have hgate : ∀ on state, (gateClock on).Along host (ControlsUnclocked block) state :=
    fun on => along_of_asks (asks_gateClock (by simp) on)
  have hdelay : ∀ state,
      (Program.delay options.clockSettle).Along host (ControlsUnclocked block) state :=
    along_of_asks (Program.asks_delay _)
  -- the clock is stopped, and stays so until both registers are written
  have hstopped : ∀ file, ClockControl.sdClockEnable.test (RegisterFile.value
      (Setting.clock.put 0 file) .half ClockControl.register.offset) = false := by
    intro file
    have hvalue : RegisterFile.value (Setting.clock.put 0 file) .half ClockControl.register.offset =
        ClockControl.sdClockEnable.put false
          (RegisterFile.value file .half ClockControl.register.offset) :=
      RegisterFile.value_store _ _ _ _
    rw [hvalue]
    exact Field.test_put _ (by decide) rfl false _
  refine (block.makes_modify ClockControl.register _ _).along_bind rfl (hgate false _) ?_
  intro state hfile
  refine (block.makes_delay _ _).along_bind hfile (hdelay state) fun state hfile => ?_
  refine (block.makes_write HostControl1.register control1 _).along_bind hfile
    (along_write _ _ (by rw [hfile]; exact hstopped _)) fun state hfile => ?_
  refine (block.makes_write HostControl2.register control2 _).along_bind hfile
    (along_write _ _ ?_) fun state hfile => ?_
  · have hvalue : RegisterFile.value (RegisterFile.store (Setting.clock.put 0 (block.file start)) .byte
        HostControl1.register.offset control1) .half ClockControl.register.offset =
        RegisterFile.value (Setting.clock.put 0 (block.file start)) .half
          ClockControl.register.offset :=
      RegisterFile.value_store_of_isApart rfl _ _
    rw [hfile]
    exact (congrArg _ hvalue).trans (hstopped _)
  refine (block.makes_modify ClockControl.register _ _).along_bind hfile (hgate true state) ?_
  exact fun state _ => hdelay state

/-- So is the case when a mode is set, whichever it is. -/
theorem along_setBusSpeed (options : Options) (speed : BusSpeed) (state : σ) :
    (setBusSpeed options speed).run.Along host (ControlsUnclocked block) state := by
  have hread : ∀ {width : Width} (register : Register width) (state : σ),
      register.read.Along host (ControlsUnclocked block) state :=
    fun register => along_of_asks register.asks_read
  rw [run_setBusSpeed]
  refine (block.makes_read HostControl1.register _).along_bind rfl (hread _ state) ?_
  intro state hfile
  refine (block.makes_read HostControl2.register _).along_bind hfile (hread _ state) ?_
  intro state _
  split
  · trivial
  · rename_i control1 control2 _
    refine (Program.along_bind _ _ _).mpr ⟨along_switchSpeed options control1 control2 state, ?_⟩
    exact fun _ _ _ => trivial

end Timing

/-- **Settings of the bus are independent, and the last one counts.** Take registers that keep what is
written to them, with any contents, and any slot.

Any operations that just set fields come to their end and leave the slot alone. After them each field
holds what the last operation gave that gave it anything, or what it held before if none did. The card
is clocked if any of them set the timing mode, and otherwise as it was. Every other bit is as it was.

So the order of two operations that give to different fields does not matter. While the timing mode is
set, the two host control registers are written only while the card is not clocked. -/
theorem settings_of_operations {host : Host σ} (block : StoredBlock host) (slot : Slot) :
    (∀ operations : List BusOperation, (∀ operation ∈ operations, operation.IsSetting) →
      ∀ state, ∃ after,
        ((Slot.performAll operations).start slot).run host state = (.ok (.ok (), slot), after) ∧
        (∀ setting : Setting, setting.get (block.file after) =
          ((operations.filterMap (·.gives? setting)).getLast?).getD
            (setting.get (block.file state))) ∧
        ((∃ speed, .setBusSpeed speed ∈ operations) → Setting.clock.get (block.file after) = 1) ∧
        ((∀ speed, .setBusSpeed speed ∉ operations) →
          Setting.clock.get (block.file after) = Setting.clock.get (block.file state)) ∧
        ∀ place, (∀ setting : Setting, ¬ setting.Covers place) →
          RegisterFile.bit (block.file after) place = RegisterFile.bit (block.file state) place) ∧
    (∀ first second : BusOperation, first.IsSetting → second.IsSetting →
      (∀ setting : Setting, setting ≠ .clock →
        first.gives? setting = none ∨ second.gives? setting = none) →
      ∀ state, ∃ after after',
        ((Slot.performAll [first, second]).start slot).run host state =
          (.ok (.ok (), slot), after) ∧
        ((Slot.performAll [second, first]).start slot).run host state =
          (.ok (.ok (), slot), after') ∧
        block.file after = block.file after') ∧
    ∀ speed state, ((Slot.performBusOperation (.setBusSpeed speed)).start slot).Along host
      (fun query state =>
        query.Reaches HostControl1.register ∨ query.Reaches HostControl2.register →
          ClockControl.sdClockEnable.test
            (RegisterFile.value (block.file state) .half ClockControl.register.offset) = false)
      state := by
  refine ⟨fun operations hoperations state => ?_, fun first second hfirst hsecond hapart state => ?_,
    fun speed state => ?_⟩
  · obtain ⟨after, hrun, hafter⟩ :=
      Slot.makes_performAll block hoperations slot (block.file state) state rfl
    refine ⟨after, hrun, ?_⟩
    rw [hafter]
    refine ⟨fun setting => BusOperation.get_applyAll operations _ setting, ?_, ?_,
      fun place hplace => BusOperation.bit_applyAll operations _ hplace⟩
    · rintro ⟨speed, hspeed⟩
      exact BusOperation.clock_applyAll_of_mem hoperations hspeed _
    · exact fun hspeed => BusOperation.clock_applyAll_of_not_mem hoperations hspeed _
  · have hpair : ∀ {one other : BusOperation}, one.IsSetting → other.IsSetting →
        ∀ operation ∈ [one, other], operation.IsSetting := fun hone hother =>
      List.forall_mem_cons.mpr ⟨hone, List.forall_mem_singleton.mpr hother⟩
    obtain ⟨after, hrun, hafter⟩ :=
      Slot.makes_performAll block (hpair hfirst hsecond) slot (block.file state) state rfl
    obtain ⟨after', hrun', hafter'⟩ :=
      Slot.makes_performAll block (hpair hsecond hfirst) slot (block.file state) state rfl
    refine ⟨after, after', hrun, hrun', ?_⟩
    rw [hafter, hafter']
    exact BusOperation.apply_comm hfirst hsecond hapart _
  · rw [Slot.performBusOperation, Task.start_bind, Task.start_get, Program.done_bind]
    refine (Program.along_bind _ _ _).mpr ⟨?_, fun _ _ _ => trivial⟩
    exact Timing.along_setBusSpeed slot.options speed state

namespace AllOnes

/-- Registers of which all bits are one. -/
def file (_ : Nat) : Byte :=
  0xFF

/-- A slot. -/
def slot : Slot where
  controller := .standard false

/-- The light goes on and off again while the bus is set up. -/
def operations : List BusOperation :=
  [.setLed true, .setBusWidth 4, .setBusSpeed .sdr50, .setLed false]

theorem isSetting : ∀ operation ∈ operations, operation.IsSetting := by
  simp [operations, BusOperation.IsSetting]

end AllOnes

/-- The light is off in the end, four lines are used in the mode that was set, and the card is clocked.
The two kinds of timing modes can be set in any order. -/
theorem settings_of_operations_allOnes :
    (∃ after, ((Slot.performAll AllOnes.operations).start AllOnes.slot).run RegisterFile.host
        AllOnes.file = (.ok (.ok (), AllOnes.slot), after) ∧
      Setting.led.get after = 0 ∧ Setting.width4.get after = 1 ∧ Setting.width8.get after = 0 ∧
      Setting.highSpeed.get after = 1 ∧ Setting.uhsMode.get after = 2 ∧
      Setting.clock.get after = 1) ∧
    ∃ after,
      ((Slot.performAll [.setBusSpeed .high, .setBusSpeed .sdr50]).start AllOnes.slot).run
        RegisterFile.host AllOnes.file = (.ok (.ok (), AllOnes.slot), after) ∧
      ((Slot.performAll [.setBusSpeed .sdr50, .setBusSpeed .high]).start AllOnes.slot).run
        RegisterFile.host AllOnes.file = (.ok (.ok (), AllOnes.slot), after) := by
  obtain ⟨hall, hswap, -⟩ := settings_of_operations RegisterFile.block AllOnes.slot
  constructor
  · obtain ⟨after, hrun, hgets, hclock, -⟩ := hall _ AllOnes.isSetting AllOnes.file
    exact ⟨after, hrun, hgets .led, hgets .width4, hgets .width8, hgets .highSpeed, hgets .uhsMode,
      hclock ⟨.sdr50, by simp [AllOnes.operations]⟩⟩
  · have hapart : ∀ setting : Setting, setting ≠ .clock →
        (BusOperation.setBusSpeed .high).gives? setting = none ∨
          (BusOperation.setBusSpeed .sdr50).gives? setting = none := by
      intro setting
      cases setting <;> decide
    obtain ⟨after, after', hrun, hrun', hsame⟩ :=
      hswap (.setBusSpeed .high) (.setBusSpeed .sdr50) ⟨nofun, nofun⟩ ⟨nofun, nofun⟩ hapart
        AllOnes.file
    have hafter : after = after' := hsame
    exact ⟨after, hrun, hafter ▸ hrun'⟩

end SdHost
