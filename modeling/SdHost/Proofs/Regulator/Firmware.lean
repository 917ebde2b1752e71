import SdHost.Proofs.Regulator.Channel
import SdHost.Slot.Basic

/-!
# Firmware that drives the pin

The slot notes where the regulator is, and the pin that the regulator goes by is in the firmware. The
note is changed when the firmware accepts a call.

The module introduces:

* `PropertyResult.Accepted`: the answer to a message says that the firmware did what it was asked;
* `PinFirmware host channel`: firmware that drives the pin when it accepts a call and leaves it alone
  when the call fails, and that nobody else calls;
* `PinFirmware.Agrees`: the note of the slot says where the pin is.

`PinFirmware.switched_of_run` says what comes of switching the regulator: the note and the pin both
move, or both stay.
-/

namespace SdHost

/-- The call got through, and the answer is long enough and says that it was a success. -/
def PropertyResult.Accepted (result : PropertyResult) : Prop :=
  result.1 = .ok () ∧ PinMessage.size ≤ result.2.size ∧
    PinMessage.wordAt result.2 4 = PinMessage.success

instance (result : PropertyResult) : Decidable (PropertyResult.Accepted result) :=
  inferInstanceAs (Decidable (_ ∧ _))

/-- The state of the signaling pin for a regulator at 1.8 V, or for one at 3.3 V. -/
def Regulator.level (at18 : Bool) : Word :=
  if at18 then state18 else state33

theorem Regulator.level_eq_state18_iff (at18 : Bool) : level at18 = state18 ↔ at18 = true := by
  cases at18 <;> decide

namespace PinMessage

theorem isOk_decode_iff (buffer : Memory) :
    (decode buffer).isOk = true ↔ size ≤ buffer.size ∧ wordAt buffer 4 = success := by
  by_cases hsize : buffer.size < size
  · simp [decode, hsize, Nat.not_le.mpr hsize, Except.isOk, Except.toBool]
  · by_cases hcode : wordAt buffer 4 = success <;>
      simp [decode, hsize, hcode, Nat.not_lt.mp hsize, Except.isOk, Except.toBool]

end PinMessage

namespace Channel

variable {σ : Type} {host : Host σ} {channel : Channel} {pin level : Word} {state after : σ}

/-- An exchange is a call, and is good if the firmware accepted the call. -/
theorem exists_of_run_exchange {message : PinMessage} {outcome : Except RegulatorError PinMessage}
    (hrun : (channel.exchange message).run host state = (.ok outcome, after)) :
    ∃ result, (channel.property message.encode).run host state = (.ok result, after) ∧
      (outcome.isOk = true ↔ PropertyResult.Accepted result) := by
  obtain ⟨⟨carried, answer⟩, _, hcall, hrest, -⟩ := Program.exists_of_run_bind hrun
  rcases carried with cause | ⟨⟩
  · cases hrest
    exact ⟨_, hcall, by simp [PropertyResult.Accepted, Except.isOk, Except.toBool]⟩
  · cases hrest
    exact ⟨_, hcall, by simp [PropertyResult.Accepted, PinMessage.isOk_decode_iff]⟩

theorem exists_of_run_drivePin {outcome : Except RegulatorError Unit}
    (hrun : (channel.drivePin pin level).run host state = (.ok outcome, after)) :
    ∃ result, (channel.property (PinMessage.drive pin level).encode).run host state =
      (.ok result, after) ∧ (outcome = .ok () ↔ PropertyResult.Accepted result) := by
  obtain ⟨answer, _, hexchange, hrest, -⟩ := Program.exists_of_run_bind hrun
  obtain ⟨result, hcall, haccepted⟩ := exists_of_run_exchange hexchange
  cases hrest
  refine ⟨result, hcall, ?_⟩
  rw [← haccepted]
  cases answer <;> simp [Except.map, Except.isOk, Except.toBool]

theorem exists_of_run_readPin {outcome : Except RegulatorError Word}
    (hrun : (channel.readPin pin).run host state = (.ok outcome, after)) :
    ∃ result, (channel.property (PinMessage.read pin).encode).run host state =
      (.ok result, after) := by
  obtain ⟨answer, _, hexchange, hrest, -⟩ := Program.exists_of_run_bind hrun
  obtain ⟨result, hcall, -⟩ := exists_of_run_exchange hexchange
  cases hrest
  exact ⟨result, hcall⟩

end Channel

/-- What the slot makes of the outcome of a call that switches the regulator. -/
def Slot.noted (slot : Slot) (at18 : Bool) : Except RegulatorError Unit → Except Error Unit × Slot
  | .ok () => (.ok (), { slot with regulatorAt18 := at18 })
  | .error cause => (.error (.regulator cause), slot)

/-- Switching the regulator is a call through the channel of the slot, if there is one. -/
theorem Slot.start_switchRegulator (at18 : Bool) (slot : Slot) :
    (switchRegulator at18).start slot =
      match slot.regulator with
      | none => .done (.error (.regulator .notFound), slot)
      | some channel =>
        channel.drivePin Regulator.signalingPin (Regulator.level at18) >>= fun outcome =>
          .done (slot.noted at18 outcome) := by
  simp only [switchRegulator, Task.start_bind, Task.start_get, Program.done_bind]
  rcases slot with ⟨_, _ | channel, _⟩
  · rfl
  · simp only [Task.start_bind, Task.start_program, Program.bind_bind, Program.done_bind]
    congr 1
    funext outcome
    rcases outcome with _ | _ <;> rfl

section Switch

variable {σ : Type} {host : Host σ} {slot slot' : Slot} {at18 : Bool} {result : Except Error Unit}
  {state after : σ}

/-- Either there is no channel and nothing happens, or the slot makes something of a call. -/
theorem Slot.noted_of_run
    (hrun : ((switchRegulator at18).start slot).run host state = (.ok (result, slot'), after)) :
    result ≠ .ok () ∧ slot' = slot ∧ after = state ∨
      ∃ channel outcome, slot.regulator = some channel ∧
        (channel.drivePin Regulator.signalingPin (Regulator.level at18)).run host state =
          (.ok outcome, after) ∧ (result, slot') = slot.noted at18 outcome := by
  rw [start_switchRegulator] at hrun
  split at hrun
  · cases hrun
    exact .inl ⟨by simp, rfl, rfl⟩
  next channel hregulator =>
    obtain ⟨outcome, _, hdrive, hrest, -⟩ := Program.exists_of_run_bind hrun
    obtain ⟨hnoted, rfl⟩ := Prod.mk.inj hrest
    exact .inr ⟨channel, outcome, hregulator, hdrive, (Except.ok.inj hnoted).symm⟩

/-- The note follows the regulator. Where switching it fails, nothing about the slot is changed. -/
theorem Slot.switched_of_run
    (hrun : ((switchRegulator at18).start slot).run host state = (.ok (result, slot'), after)) :
    result = .ok () ∧ slot' = { slot with regulatorAt18 := at18 } ∨
      result ≠ .ok () ∧ slot' = slot := by
  obtain ⟨hresult, hslot, -⟩ | ⟨channel, outcome, -, -, hnoted⟩ := noted_of_run hrun
  · exact .inr ⟨hresult, hslot⟩
  rcases outcome with cause | ⟨⟩
  · cases hnoted
    exact .inr ⟨by simp, rfl⟩
  · cases hnoted
    exact .inl ⟨rfl, rfl⟩

end Switch

/-- Firmware with a signaling pin, called through the channel and by nobody else. A call to drive the
pin either succeeds and drives it, or fails in some way and leaves it alone. -/
structure PinFirmware {σ : Type} (host : Host σ) (channel : Channel) where
  /-- The state of the pin. -/
  pin : σ → Word
  /-- A call to drive the pin does so if it is accepted, and does nothing otherwise. -/
  drive : ∀ {at18 : Bool} {state after : σ} {result : PropertyResult},
    (channel.property (PinMessage.drive Regulator.signalingPin (Regulator.level at18)).encode).run
      host state = (.ok result, after) →
    PropertyResult.Accepted result ∧ pin after = Regulator.level at18 ∨
      ¬ PropertyResult.Accepted result ∧ pin after = pin state
  /-- A call to read the pin leaves it alone. -/
  read : ∀ {state after : σ} {result : PropertyResult},
    (channel.property (PinMessage.read Regulator.signalingPin).encode).run host state =
      (.ok result, after) → pin after = pin state
  /-- Nothing else drives it. -/
  other : ∀ event : Event, event.isMessage = false → event.Spares host pin

namespace PinFirmware

variable {σ : Type} {host : Host σ} {channel : Channel} (firmware : PinFirmware host channel)

/-- What the slot notes about the regulator is where the pin is. -/
def Agrees (slot : Slot) (state : σ) : Prop :=
  slot.regulatorAt18 = true ↔ firmware.pin state = Regulator.state18

variable {firmware} {slot slot' : Slot} {state after : σ}

/-- Only the note and the pin matter. -/
theorem Agrees.congr (h : firmware.Agrees slot state)
    (hnote : slot'.regulatorAt18 = slot.regulatorAt18)
    (hpin : firmware.pin after = firmware.pin state) : firmware.Agrees slot' after := by
  rwa [Agrees, hnote, hpin]

/-- Where the regulator is switched, the note and the pin both move. Where that fails both stay. -/
theorem switched_of_run (honly : ∀ used ∈ slot.regulator, used = channel) {at18 : Bool}
    {result : Except Error Unit}
    (hrun : ((Slot.switchRegulator at18).start slot).run host state =
      (.ok (result, slot'), after)) :
    result = .ok () ∧ slot' = { slot with regulatorAt18 := at18 } ∧
        firmware.pin after = Regulator.level at18 ∨
      result ≠ .ok () ∧ slot' = slot ∧ firmware.pin after = firmware.pin state := by
  obtain ⟨hresult, hslot, rfl⟩ | ⟨used, outcome, hused, hdrive, hnoted⟩ := Slot.noted_of_run hrun
  · exact .inr ⟨hresult, hslot, rfl⟩
  obtain rfl := honly used hused
  obtain ⟨answer, hcall, haccepted⟩ := Channel.exists_of_run_drivePin hdrive
  rcases outcome with cause | ⟨⟩
  · cases hnoted
    obtain ⟨h, -⟩ | ⟨-, hpin⟩ := firmware.drive hcall
    · simpa using haccepted.mpr h
    · exact .inr ⟨by simp, rfl, hpin⟩
  · cases hnoted
    obtain ⟨-, hpin⟩ | ⟨h, -⟩ := firmware.drive hcall
    · exact .inl ⟨rfl, rfl, hpin⟩
    · exact absurd (haccepted.mp rfl) h

/-- So the note still says where the pin is, and the slot has the same channel. -/
theorem Agrees.switchRegulator (h : firmware.Agrees slot state)
    (honly : ∀ used ∈ slot.regulator, used = channel) {at18 : Bool} {result : Except Error Unit}
    (hrun : ((Slot.switchRegulator at18).start slot).run host state =
      (.ok (result, slot'), after)) :
    firmware.Agrees slot' after ∧ slot'.regulator = slot.regulator := by
  obtain ⟨-, rfl, hpin⟩ | ⟨-, rfl, hpin⟩ := firmware.switched_of_run honly hrun
  · refine ⟨?_, rfl⟩
    rw [Agrees, hpin]
    exact (Regulator.level_eq_state18_iff at18).symm
  · exact ⟨h.congr rfl hpin, rfl⟩

end PinFirmware

end SdHost
