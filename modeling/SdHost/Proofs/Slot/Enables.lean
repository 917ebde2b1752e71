import SdHost.Proofs.Host.Storage
import SdHost.Proofs.Slot.BringUp

/-!
# Which interrupts are enabled

Interrupts are enabled and disabled a few at a time, and those that are not in a mask should be left as
they are. What was enabled before is read from the register of the interrupts that reach the processor.
While a crash dump is written none of them does, so that each call starts from nothing, and only the
last call counts.

The module introduces:

* `Toggle`: one call that enables or disables interrupts;
* `enabledBy`: what a list of calls leaves enabled.

`pending_enables_of_toggles` says which interrupts become pending after any calls, in either mode.
-/

namespace SdHost

/-- A call that enables or disables interrupts. -/
structure Toggle where
  /-- The interrupts, of which the low half word counts. -/
  mask : Word
  /-- They are to be enabled. -/
  enable : Bool

namespace Toggle

/-- The interrupts that the call is about. -/
def events (toggle : Toggle) : HalfWord :=
  toggle.mask.setWidth 16

/-- What the call makes of the interrupts that are enabled. -/
def apply (toggle : Toggle) (enabled : HalfWord) : HalfWord :=
  if toggle.enable then enabled ||| toggle.events else enabled &&& ~~~toggle.events

/-- A call decides about its own interrupts, and leaves all others as they are. -/
theorem getLsbD_apply (toggle : Toggle) (enabled : HalfWord) {i : Nat} (hi : i < 16) :
    (toggle.apply enabled).getLsbD i =
      if toggle.events.getLsbD i then toggle.enable else enabled.getLsbD i := by
  rw [apply]
  cases toggle.enable with
  | true =>
    rw [if_pos rfl, BitVec.getLsbD_or]
    cases toggle.events.getLsbD i <;> simp
  | false =>
    rw [if_neg Bool.false_ne_true, BitVec.getLsbD_and, BitVec.getLsbD_not]
    cases toggle.events.getLsbD i <;> simp [hi]

/-- A call that starts from nothing comes to the same as one that starts from some interrupts exactly if
it is about all of these. -/
theorem apply_zero_eq_iff (toggle : Toggle) (enabled : HalfWord) :
    toggle.apply 0 = toggle.apply enabled ↔ enabled &&& ~~~toggle.events = 0 := by
  have hzero : ∀ i, (0 : HalfWord).getLsbD i = false := fun _ => BitVec.getLsbD_zero
  constructor
  · intro h
    refine BitVec.eq_of_getLsbD_eq fun i hi => ?_
    have hbit := congrArg (fun raw => raw.getLsbD i) h
    simp only [getLsbD_apply _ _ hi, hzero] at hbit
    rw [BitVec.getLsbD_and, BitVec.getLsbD_not, hzero]
    cases hevent : toggle.events.getLsbD i with
    | true => simp
    | false =>
      rw [hevent] at hbit
      simpa [hi] using hbit.symm
  · intro h
    refine BitVec.eq_of_getLsbD_eq fun i hi => ?_
    have hbit := congrArg (fun raw => raw.getLsbD i) h
    simp only [BitVec.getLsbD_and, BitVec.getLsbD_not, hzero, hi] at hbit
    rw [getLsbD_apply _ _ hi, getLsbD_apply _ _ hi, hzero]
    cases hevent : toggle.events.getLsbD i with
    | true => rfl
    | false =>
      rw [hevent] at hbit
      simpa using hbit.symm

end Toggle

/-- The interrupts that a list of calls leaves enabled, if none is to begin with. -/
def enabledBy (toggles : List Toggle) : HalfWord :=
  toggles.foldl (fun enabled toggle => toggle.apply enabled) 0

theorem enabledBy_concat (toggles : List Toggle) (toggle : Toggle) :
    enabledBy (toggles ++ [toggle]) = toggle.apply (enabledBy toggles) := by
  rw [enabledBy, List.foldl_append]
  rfl

namespace Slot

variable {σ : Type} {host : Host σ} (pending : StoredRegister host RegisterMap.normalStatusEnable)
  (signal : StoredRegister host RegisterMap.normalSignalEnable) {slot slot' : Slot}

/-- Make a list of calls, one after the other. -/
def toggleAll (slot : Slot) (toggles : List Toggle) : Program Unit :=
  forM toggles fun toggle => slot.toggleEvents toggle.mask toggle.enable

theorem toggleAll_concat (slot : Slot) (toggles : List Toggle) (toggle : Toggle) :
    slot.toggleAll (toggles ++ [toggle]) =
      slot.toggleAll toggles >>= fun _ => slot.toggleEvents toggle.mask toggle.enable := by
  rw [toggleAll, List.forM_append, toggleAll]
  congr 1
  funext _
  exact Program.bind_done _

theorem filter_isAccess_toggleAccesses (slot : Slot) (mask : HalfWord) (enable : Bool)
    (enabled : HalfWord) :
    (slot.toggleAccesses mask enable enabled).filter Event.isAccess =
      slot.toggleAccesses mask enable enabled := by
  rw [toggleAccesses]
  cases enable with
  | false => rfl
  | true => cases slot.crashDump <;> rfl

/-- A call goes by the interrupts that reach the processor. -/
theorem accesses_of_toggleEvents (slot : Slot) (toggle : Toggle) (state : σ) :
    ∃ after, (slot.toggleEvents toggle.mask toggle.enable).run host state = (.ok (), after) ∧
      ((slot.toggleEvents toggle.mask toggle.enable).history host state).filter Event.isAccess =
        slot.toggleAccesses toggle.events toggle.enable (signal.value state) := by
  cases hrun : (slot.toggleEvents toggle.mask toggle.enable).run host state with
  | mk outcome after =>
  obtain ⟨enabled, hhistory, rfl⟩ :=
    (ensures_toggleEvents slot toggle.mask toggle.enable).of_run hrun
  -- what was read is what the register held
  have hreply : (host.answer (.read .half RegisterMap.normalSignalEnable.offset)
      (host.answer .barrier state).2).1 = signal.value state := by
    rw [signal.read_reply, signal.value_other _ _ id]
  obtain ⟨later, hread⟩ : ∃ later,
      (slot.toggleEvents toggle.mask toggle.enable).history host state =
        RegisterMap.normalSignalEnable.readEvents (host.answer
          (.read .half RegisterMap.normalSignalEnable.offset) (host.answer .barrier state).2).1 ++
          later := ⟨_, rfl⟩
  have hevent := (List.cons.inj (List.cons.inj (hread.symm.trans hhistory)).2).1
  have henabled : enabled = signal.value state :=
    (eq_of_heq (Event.mk.inj hevent).2).symm.trans hreply
  rw [hhistory, filter_isAccess_toggleAccesses, henabled]
  exact ⟨after, rfl, rfl⟩

/-- What a call makes of the interrupts that become pending, and of those that reach the processor.
Both come from the latter. -/
theorem run_toggleEvents (slot : Slot) (toggle : Toggle) (state : σ) :
    ∃ after, (slot.toggleEvents toggle.mask toggle.enable).run host state = (.ok (), after) ∧
      pending.value after = toggle.apply (signal.value state) ∧
      signal.value after =
        if slot.crashDump && toggle.enable then signal.value state
        else toggle.apply (signal.value state) := by
  obtain ⟨after, hrun, haccess⟩ := accesses_of_toggleEvents signal slot toggle state
  have hafter : after = ((slot.toggleEvents toggle.mask toggle.enable).run host state).2 := by
    rw [hrun]
  refine ⟨after, hrun, ?_⟩
  rw [hafter]
  cases henable : toggle.enable with
  | false =>
    have happly : toggle.apply (signal.value state) = signal.value state &&& ~~~toggle.events := by
      rw [Toggle.apply, henable, if_neg Bool.false_ne_true]
    rw [henable] at haccess
    rw [Bool.and_false, if_neg Bool.false_ne_true, happly]
    refine ⟨pending.value_of_written [_, _, _] haccess ?_,
      signal.value_of_written [_, _, _, _, _, _, _] haccess ?_⟩
    · exact unreached_of_writes rfl
    · exact unreached_of_writes rfl
  | true =>
    have happly : toggle.apply (signal.value state) = signal.value state ||| toggle.events := by
      rw [Toggle.apply, henable, if_pos rfl]
    rw [henable, toggleAccesses] at haccess
    rw [Bool.and_true, happly]
    cases hdump : slot.crashDump with
    | false =>
      rw [hdump] at haccess
      refine ⟨pending.value_of_written [_, _, _, _, _, _, _] haccess ?_,
        signal.value_of_written [_, _, _] haccess ?_⟩
      · exact unreached_of_writes rfl
      · exact unreached_of_writes rfl
    | true =>
      rw [hdump] at haccess
      refine ⟨pending.value_of_written [_, _, _] haccess ?_,
        signal.value_of_unreached _ _ ?_⟩
      · exact unreached_of_writes rfl
      · rw [haccess]
        exact unreached_of_writes rfl

/-- What a list of calls makes of the interrupts that become pending and of those that reach the
processor, if none does to begin with. While a crash dump is written none ever does. -/
theorem run_toggleAll (slot : Slot) {state : σ} (hpending : pending.value state = 0)
    (hsignal : signal.value state = 0) (toggles : List Toggle) :
    ∃ after, (slot.toggleAll toggles).run host state = (.ok (), after) ∧
      pending.value after =
        (if slot.crashDump then enabledBy toggles.getLast?.toList else enabledBy toggles) ∧
      signal.value after = if slot.crashDump then 0 else enabledBy toggles := by
  -- induction from the back, as a call goes by what the calls before it left
  induction toggles using List.reverseRecOn with
  | nil =>
    refine ⟨state, rfl, ?_, ?_⟩
    · rw [hpending]
      split <;> rfl
    · rw [hsignal]
      split <;> rfl
  | append_singleton toggles toggle ih =>
    obtain ⟨between, hrun, -, hbetween⟩ := ih
    obtain ⟨after, hlast, hpending', hsignal'⟩ := run_toggleEvents pending signal slot toggle between
    refine ⟨after, ?_, ?_, ?_⟩
    · rw [toggleAll_concat, Program.run_bind_of_ok hrun, hlast]
    · rw [hpending', hbetween, enabledBy_concat, List.getLast?_concat]
      split <;> rfl
    · rw [hsignal', hbetween, enabledBy_concat]
      cases slot.crashDump with
      | false => rfl
      | true =>
        -- enabling changes nothing then, and there is nothing to disable
        cases henable : toggle.enable with
        | false =>
          rw [Bool.and_false, if_neg Bool.false_ne_true, Toggle.apply, henable, if_pos rfl,
            if_neg Bool.false_ne_true]
          exact BitVec.zero_and
        | true => rfl

/-- Once a slot is brought up, no interrupt becomes pending, and none reaches the processor. -/
theorem disabled_of_bringUp {length : Nat} {crashDump : Bool} {state up : σ}
    (hup : ((bringUp length crashDump).start slot).run host state = (.ok (.ok (), slot'), up)) :
    slot'.crashDump = crashDump ∧ pending.value up = 0 ∧ signal.value up = 0 := by
  obtain ⟨readout, hafter⟩ := (ensures_bringUp slot length crashDump).of_run hup
  obtain ⟨enabled, haccess⟩ := hafter.accesses_eq
  have hstate : up = (((bringUp length crashDump).start slot).run host state).2 := by rw [hup]
  have hnone : enabled &&& ~~~(0xFFFF : HalfWord) = 0 := by
    have hall : ~~~(0xFFFF : HalfWord) = 0 := by decide
    rw [hall]
    exact BitVec.and_zero
  -- both registers are written once the capabilities have been read
  rw [toggleAccesses, if_neg Bool.false_ne_true, hnone] at haccess
  rw [hstate]
  refine ⟨hafter.crashDump_eq, ?_, ?_⟩
  · exact pending.value_of_written (readout.events ++ [_, _, _])
      (haccess.trans (List.append_assoc _ _ _).symm) (unreached_of_writes rfl)
  · exact signal.value_of_written (readout.events ++ [_, _, _, _, _, _, _])
      (haccess.trans (List.append_assoc _ _ _).symm) (unreached_of_writes rfl)

end Slot

/-- **Which interrupts become pending.** Take a slot that was brought up, over registers that keep what
is written to them, and any calls after that which enable or disable interrupts. Unless a crash dump is
written, the interrupts that become pending are those that the calls enable, one call after the other:
none of them changes anything about an interrupt that is not in its mask. The same interrupts reach the
processor.

While a crash dump is written none reaches the processor, and those that become pending are what the
last call alone enables. That is what all calls enable together exactly if those before the last
enable nothing that the last is not about. -/
theorem pending_enables_of_toggles {σ : Type} {host : Host σ}
    (pending : StoredRegister host RegisterMap.normalStatusEnable)
    (signal : StoredRegister host RegisterMap.normalSignalEnable) {slot slot' : Slot} {length : Nat}
    {crashDump : Bool} {state up : σ}
    (hup : ((Slot.bringUp length crashDump).start slot).run host state =
      (.ok (.ok (), slot'), up)) (toggles : List Toggle) :
    ∃ after, (slot'.toggleAll toggles).run host up = (.ok (), after) ∧
      pending.value after =
        (if crashDump then enabledBy toggles.getLast?.toList else enabledBy toggles) ∧
      signal.value after = (if crashDump then 0 else enabledBy toggles) ∧
      (pending.value after = enabledBy toggles ↔ crashDump = false ∨
        ∀ before last, toggles = before ++ [last] → enabledBy before &&& ~~~last.events = 0) := by
  obtain ⟨hcrash, hpending, hsignal⟩ := Slot.disabled_of_bringUp pending signal hup
  obtain ⟨after, hrun, hpending', hsignal'⟩ :=
    Slot.run_toggleAll pending signal slot' hpending hsignal toggles
  rw [hcrash] at hpending' hsignal'
  refine ⟨after, hrun, hpending', hsignal', ?_⟩
  rw [hpending']
  cases crashDump with
  | false => simp
  | true =>
    simp only [if_true, Bool.true_eq_false, false_or]
    rcases toggles.eq_nil_or_concat' with rfl | ⟨before, last, rfl⟩
    · simp [enabledBy]
    have hlast : enabledBy (before ++ [last]).getLast?.toList = last.apply 0 := by
      rw [List.getLast?_concat]
      rfl
    rw [hlast, enabledBy_concat, Toggle.apply_zero_eq_iff]
    refine ⟨?_, fun h => h before last rfl⟩
    rintro hnothing before' last' hsplit
    obtain ⟨rfl, hcons⟩ := List.append_inj' hsplit rfl
    cases hcons
    exact hnothing

namespace CrashDump

/-- Registers of which only the base clock is set. -/
def file (offset : Nat) : Byte :=
  if offset = 0x41 then 1 else 0

/-- A slot. -/
def slot : Slot where
  controller := .standard false

/-- Two calls that enable one interrupt each. -/
def toggles : List Toggle :=
  [⟨NormalEvents.commandComplete.mask.setWidth 32, true⟩,
    ⟨NormalEvents.transferComplete.mask.setWidth 32, true⟩]

theorem run_bringUp (crashDump : Bool) :
    ∃ slot' up, ((Slot.bringUp registerBlockSize crashDump).start slot).run RegisterFile.host file =
      (.ok (.ok (), slot'), up) := ⟨_, _, rfl⟩

end CrashDump

/-- Two calls that enable one interrupt each, of which both become pending. -/
theorem pending_enables_of_two_toggles :
    ∃ slot' up after,
      ((Slot.bringUp registerBlockSize false).start CrashDump.slot).run RegisterFile.host
        CrashDump.file = (.ok (.ok (), slot'), up) ∧
      (slot'.toggleAll CrashDump.toggles).run RegisterFile.host up = (.ok (), after) ∧
      RegisterFile.value after .half RegisterMap.normalStatusEnable.offset = 3 := by
  obtain ⟨slot', up, hup⟩ := CrashDump.run_bringUp false
  obtain ⟨after, hrun, hpending, -⟩ := pending_enables_of_toggles
    (RegisterFile.stored RegisterMap.normalStatusEnable)
    (RegisterFile.stored RegisterMap.normalSignalEnable) hup CrashDump.toggles
  exact ⟨slot', up, after, hup, hrun, hpending⟩

/-- While a crash dump is written, the first of the two interrupts is forgotten with the second
call. -/
theorem forgotten_in_crash_dump :
    ∃ slot' up after,
      ((Slot.bringUp registerBlockSize true).start CrashDump.slot).run RegisterFile.host
        CrashDump.file = (.ok (.ok (), slot'), up) ∧
      (slot'.toggleAll CrashDump.toggles).run RegisterFile.host up = (.ok (), after) ∧
      RegisterFile.value after .half RegisterMap.normalStatusEnable.offset = 2 ∧
      enabledBy CrashDump.toggles = 3 :=
  ⟨_, _, _, rfl, rfl, by decide, by decide⟩

end SdHost
