import SdHost.Bus.Perform
import SdHost.Proofs.Host.Invariant
import SdHost.Proofs.Register.Field

/-!
# What a reset leaves behind

A reset takes its time and sets several registers up again. Whatever happens before, if it comes to a
good end the last thing it does is to choose the form of direct memory access.
-/

namespace SdHost

namespace Attempt

variable {α β : Type} {Last : List Event → Prop}

/-- If the attempt succeeds, its last events are of one kind. -/
def EndsWith (Last : List Event → Prop) (attempt : Attempt α) : Prop :=
  attempt.run.Ensures (fun _ => True) fun events outcome =>
    ∀ value, outcome = .ok (.ok value) → ∃ before last, events = before ++ last ∧ Last last

/-- What comes first does not matter to how an attempt ends. -/
theorem EndsWith.bind {attempt : Attempt α} {next : α → Attempt β}
    (hnext : ∀ value, (next value).EndsWith Last) : (attempt >>= next).EndsWith Last := by
  rw [EndsWith, run_bind, Program.ensures_bind]
  have hany : attempt.run.Ensures (fun _ => True) fun _ _ => True :=
    (Program.Asks.of_forall (fun _ => trivial) attempt.run).mono fun _ _ _ => trivial
  refine hany.mono ?_
  rintro events (cause | cause | value) -
  · rintro _ ⟨⟩
  · rintro _ ⟨⟩
  · refine (hnext value).mono fun later outcome hlater result houtcome => ?_
    obtain ⟨before, last, rfl, hlast⟩ := hlater result houtcome
    exact ⟨events ++ before, last, (List.append_assoc _ _ _).symm, hlast⟩

theorem EndsWith.ite {condition : Prop} [Decidable condition] {first second : Attempt α}
    (hfirst : first.EndsWith Last) (hsecond : second.EndsWith Last) :
    (if condition then first else second).EndsWith Last := by
  split
  · exact hfirst
  · exact hsecond

theorem EndsWith.modify {width : Width} (register : Register width)
    (change : BitVec width.bits → BitVec width.bits) :
    EndsWith (fun last => ∃ value,
      last = register.readEvents value ++ register.writeEvents (change value))
      (liftM (register.modify change) : Attempt Unit) := by
  intro _ _ value _ _ _ _ _ _ _
  exact ⟨[], _, rfl, value, rfl⟩

end Attempt

namespace ResetType

/-- The form of direct memory access is chosen last, whatever was there before. -/
theorem endsWith_reset (part : ResetType) (slot : Slot) :
    (part.reset slot).EndsWith fun last => ∃ value,
      last = HostControl1.register.readEvents value ++ HostControl1.register.writeEvents
        (HostControl1.dmaSelect.set (slot.controller.dmaSelect slot.capabilities).code value) := by
  refine .bind fun _ => .bind fun _ => .bind fun _ => ?_
  have hselect := Attempt.EndsWith.modify HostControl1.register
    (HostControl1.dmaSelect.set (slot.controller.dmaSelect slot.capabilities).code)
  refine .ite (.bind fun _ => ?_) ?_
  · exact .ite (.bind fun _ => hselect) hselect
  · exact .ite (.bind fun _ => hselect) hselect

end ResetType

namespace DmaSelect

/-- What was chosen can be read off the register. -/
theorem get_set_code (select : DmaSelect) (control : Byte) :
    HostControl1.dmaSelect.get (HostControl1.dmaSelect.set select.code control) = select.code :=
  Field.get_set_of_lt _ (by decide) (by cases select <;> decide) control

end DmaSelect

/-- The last access of a reset that succeeds chooses the form of direct memory access. -/
theorem Slot.lastAccess_of_resetHost {σ : Type} {host : Host σ} {slot slot' : Slot}
    {part : ResetType} {state after : σ}
    (hrun : ((performBusOperation (.resetHost part)).start slot).run host state =
      (.ok (.ok (), slot'), after)) :
    ∃ before control,
      ((performBusOperation (.resetHost part)).start slot).history host state =
        before ++ [⟨.write .byte HostControl1.register.offset control, ()⟩] ∧
      HostControl1.dmaSelect.get control = (slot.controller.dmaSelect slot.capabilities).code := by
  have hstart : (performBusOperation (.resetHost part)).start slot =
      (part.reset slot).run >>= fun result => .done (result, slot) := rfl
  rw [hstart] at hrun ⊢
  rw [Program.history_bind_done]
  rw [Program.run_bind] at hrun
  split at hrun
  next result state' hreset =>
    cases hrun
    obtain ⟨before, last, hhistory, value, hlast⟩ :=
      (part.endsWith_reset slot).of_run hreset () rfl
    refine ⟨before ++ HostControl1.register.readEvents value ++ [⟨.barrier, ()⟩], _, ?_,
      DmaSelect.get_set_code _ value⟩
    rw [hhistory, hlast]
    simp [Register.writeEvents]
  next => cases hrun

end SdHost
