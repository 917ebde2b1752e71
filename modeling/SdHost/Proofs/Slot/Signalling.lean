import SdHost.Proofs.Host.Along
import SdHost.Proofs.Slot.Enables

/-!
# Which interrupts reach the processor

Two registers say which interrupts become pending, one for the normal interrupts and one for the errors,
and two more say which of the pending ones reach the processor. All four are written by every call that
enables or disables interrupts, unless a crash dump is written: then nobody could take an interrupt, and
none is ever let through.

The module introduces `errorsEnabledBy`: the errors that a list of calls leaves enabled. They are enabled
and disabled all together, so that the last call counts.

`signalling_of_toggles` says what the four registers hold after any calls.
-/

namespace SdHost

open Program (Along)

/-- Of the events that write a register, only the write itself reaches any register. -/
theorem Register.query_eq_of_mem_writeEvents {width width' : Width} {register : Register width}
    {other : Register width'} {value : BitVec width.bits} {event : Event}
    (h : event ∈ register.writeEvents value) (hreach : event.query.Reaches other) :
    event.query = .write width register.offset value := by
  simp only [writeEvents, List.mem_cons, List.not_mem_nil, or_false] at h
  rcases h with rfl | rfl
  · exact hreach.elim
  · rfl

/-- The errors that a call leaves enabled. -/
def Toggle.errors (toggle : Toggle) : HalfWord :=
  if toggle.enable then 0xFFFF else 0

/-- The errors that a list of calls leaves enabled, if none is to begin with. -/
def errorsEnabledBy (toggles : List Toggle) : HalfWord :=
  (toggles.getLast?.map Toggle.errors).getD 0

@[simp]
theorem errorsEnabledBy_nil : errorsEnabledBy [] = 0 := rfl

@[simp]
theorem errorsEnabledBy_concat (toggles : List Toggle) (toggle : Toggle) :
    errorsEnabledBy (toggles ++ [toggle]) = toggle.errors := by
  rw [errorsEnabledBy, List.getLast?_concat]
  rfl

namespace Slot

variable {σ : Type} {host : Host σ} {slot slot' : Slot}

section Errors

variable (errorPending : StoredRegister host RegisterMap.errorStatusEnable)
  (errorSignal : StoredRegister host RegisterMap.errorSignalEnable)

/-- What a call makes of the errors that become pending, and of those that reach the processor. -/
theorem errors_of_toggleEvents (slot : Slot) (toggle : Toggle) {state after : σ}
    (hrun : (slot.toggleEvents toggle.mask toggle.enable).run host state = (.ok (), after)) :
    errorPending.value after = toggle.errors ∧
      errorSignal.value after =
        if slot.crashDump && toggle.enable then errorSignal.value state else toggle.errors := by
  obtain ⟨enabled, hhistory, -⟩ :=
    (ensures_toggleEvents slot toggle.mask toggle.enable).of_run hrun
  have haccess : ((slot.toggleEvents toggle.mask toggle.enable).history host state).filter
      Event.isAccess = slot.toggleAccesses toggle.events toggle.enable enabled := by
    rw [hhistory]
    exact filter_isAccess_toggleAccesses _ _ _ _
  have hafter : after = ((slot.toggleEvents toggle.mask toggle.enable).run host state).2 := by
    rw [hrun]
  rw [hafter, Toggle.errors]
  cases henable : toggle.enable with
  | false =>
    rw [henable] at haccess
    rw [Bool.and_false, if_neg Bool.false_ne_true]
    exact ⟨errorPending.value_of_written [_, _, _, _, _] haccess (unreached_of_writes rfl),
      errorSignal.value_of_written [_, _, _, _, _, _, _, _, _] haccess (unreached_of_writes rfl)⟩
  | true =>
    rw [henable, toggleAccesses] at haccess
    rw [Bool.and_true, if_pos rfl]
    cases hdump : slot.crashDump with
    | false =>
      rw [hdump] at haccess
      exact ⟨errorPending.value_of_written [_, _, _, _, _, _, _, _, _] haccess
          (unreached_of_writes rfl),
        errorSignal.value_of_written [_, _, _, _, _] haccess (unreached_of_writes rfl)⟩
    | true =>
      rw [hdump] at haccess
      refine ⟨errorPending.value_of_written [_, _, _, _, _] haccess (unreached_of_writes rfl),
        errorSignal.value_of_unreached _ _ ?_⟩
      rw [haccess]
      exact unreached_of_writes rfl

/-- What a list of calls makes of the errors, if none is enabled to begin with. -/
theorem errors_of_toggleAll (slot : Slot) {state after : σ} (hpending : errorPending.value state = 0)
    (hsignal : errorSignal.value state = 0) {toggles : List Toggle}
    (hrun : (slot.toggleAll toggles).run host state = (.ok (), after)) :
    errorPending.value after = errorsEnabledBy toggles ∧
      errorSignal.value after = if slot.crashDump then 0 else errorsEnabledBy toggles := by
  -- induction from the back, as the last call counts
  induction toggles using List.reverseRecOn generalizing after with
  | nil =>
    cases hrun
    rw [hpending, hsignal, errorsEnabledBy_nil, ite_self]
    exact ⟨rfl, rfl⟩
  | append_singleton toggles toggle ih =>
    rw [toggleAll_concat] at hrun
    obtain ⟨⟨⟩, between, hbetween, hlast, -⟩ := Program.exists_of_run_bind hrun
    obtain ⟨-, hkept⟩ := ih hbetween
    obtain ⟨hpending', hsignal'⟩ := errors_of_toggleEvents errorPending errorSignal slot toggle hlast
    rw [hpending', hsignal', hkept, errorsEnabledBy_concat]
    refine ⟨rfl, ?_⟩
    cases slot.crashDump with
    | false => rfl
    | true =>
      cases henable : toggle.enable with
      | false => rw [Toggle.errors, henable]; rfl
      | true => rfl

/-- Once a slot is brought up, no error becomes pending, and none reaches the processor. -/
theorem errors_disabled_of_bringUp {length : Nat} {crashDump : Bool} {state up : σ}
    (hup : ((bringUp length crashDump).start slot).run host state = (.ok (.ok (), slot'), up)) :
    errorPending.value up = 0 ∧ errorSignal.value up = 0 := by
  obtain ⟨readout, hafter⟩ := (ensures_bringUp slot length crashDump).of_run hup
  obtain ⟨enabled, haccess⟩ := hafter.accesses_eq
  have hstate : up = (((bringUp length crashDump).start slot).run host state).2 := by rw [hup]
  rw [toggleAccesses, if_neg Bool.false_ne_true] at haccess
  rw [hstate]
  exact ⟨errorPending.value_of_written (readout.events ++ [_, _, _, _, _])
      (haccess.trans (List.append_assoc _ _ _).symm) (unreached_of_writes rfl),
    errorSignal.value_of_written (readout.events ++ [_, _, _, _, _, _, _, _, _])
      (haccess.trans (List.append_assoc _ _ _).symm) (unreached_of_writes rfl)⟩

end Errors

section CrashDump

variable (signal : StoredRegister host RegisterMap.normalSignalEnable)
  (errorSignal : StoredRegister host RegisterMap.errorSignalEnable)

/-- No interrupt reaches the processor, and no error. -/
def Silent (state : σ) : Prop :=
  signal.value state = 0 ∧ errorSignal.value state = 0

variable {signal errorSignal}

/-- What does not reach the two registers, or writes nothing to them, lets nothing through. -/
theorem Silent.answer {state : σ} (h : Silent signal errorSignal state) {query : Query}
    (hsignal : query.Reaches RegisterMap.normalSignalEnable →
      query = .write .half RegisterMap.normalSignalEnable.offset 0)
    (herror : query.Reaches RegisterMap.errorSignalEnable →
      query = .write .half RegisterMap.errorSignalEnable.offset 0) :
    Silent signal errorSignal (host.answer query state).2 := by
  refine ⟨?_, ?_⟩
  · by_cases hreach : query.Reaches RegisterMap.normalSignalEnable
    · rw [hsignal hreach, signal.value_write]
    · rw [signal.value_other query state hreach, h.1]
  · by_cases hreach : query.Reaches RegisterMap.errorSignalEnable
    · rw [herror hreach, errorSignal.value_write]
    · rw [errorSignal.value_other query state hreach, h.2]

/-- While a crash dump is written and nothing is let through, a call lets nothing through either, at no
time in its course. -/
theorem silent_of_toggleEvents (hdump : slot.crashDump = true) (toggle : Toggle) {state : σ}
    (h : Silent signal errorSignal state) :
    (slot.toggleEvents toggle.mask toggle.enable).Along host (fun _ => Silent signal errorSignal)
        state ∧
      Silent signal errorSignal
        ((slot.toggleEvents toggle.mask toggle.enable).run host state).2 := by
  have hrun : (slot.toggleEvents toggle.mask toggle.enable).run host state = _ := rfl
  obtain ⟨enabled, hhistory, -⟩ :=
    (ensures_toggleEvents slot toggle.mask toggle.enable).of_run hrun
  obtain ⟨-, -, haccess⟩ := accesses_of_toggleEvents signal slot toggle state
  -- what was read is that nothing is let through
  rw [hhistory, filter_isAccess_toggleAccesses, h.1] at haccess
  have hevents : (slot.toggleEvents toggle.mask toggle.enable).history host state =
      slot.toggleAccesses toggle.events toggle.enable 0 := hhistory.trans haccess
  refine Program.along_of_history _ (fun event hevent state hsilent => ?_) h
  rw [hevents, toggleAccesses, hdump] at hevent
  have hunreached : ∀ {width : Width} {register : Register width},
      ¬ event.query.Reaches register → event.query.Reaches register →
        event.query = .write width register.offset 0 := fun hnot hreach => absurd hreach hnot
  cases henable : toggle.enable with
  | true =>
    rw [henable] at hevent
    exact hsilent.answer (hunreached (unreached_of_writes rfl event hevent))
      (hunreached (unreached_of_writes rfl event hevent))
  | false =>
    have hnothing : (0 : HalfWord) &&& ~~~toggle.events = 0 := BitVec.zero_and
    rw [henable, if_neg Bool.false_ne_true, hnothing] at hevent
    simp only [List.mem_append] at hevent
    obtain hread | ((hpending | herrors) | hsignal) | herror := hevent
    · exact hsilent.answer (hunreached (unreached_of_writes rfl event hread))
        (hunreached (unreached_of_writes rfl event hread))
    · exact hsilent.answer (hunreached (unreached_of_writes rfl event hpending))
        (hunreached (unreached_of_writes rfl event hpending))
    · exact hsilent.answer (hunreached (unreached_of_writes rfl event herrors))
        (hunreached (unreached_of_writes rfl event herrors))
    · exact hsilent.answer (Register.query_eq_of_mem_writeEvents hsignal)
        (hunreached (unreached_of_writes rfl event hsignal))
    · exact hsilent.answer (hunreached (unreached_of_writes rfl event herror))
        (Register.query_eq_of_mem_writeEvents herror)

/-- So do any calls. -/
theorem silent_of_toggleAll (hdump : slot.crashDump = true) (toggles : List Toggle) {state : σ}
    (h : Silent signal errorSignal state) :
    (slot.toggleAll toggles).Along host (fun _ => Silent signal errorSignal) state ∧
      Silent signal errorSignal ((slot.toggleAll toggles).run host state).2 := by
  induction toggles using List.reverseRecOn with
  | nil => exact ⟨trivial, h⟩
  | append_singleton toggles toggle ih =>
    obtain ⟨halong, hafter⟩ := ih
    rw [toggleAll_concat, Program.along_bind, Program.run_bind]
    rcases hrun : (slot.toggleAll toggles).run host state with ⟨cause | ⟨⟩, between⟩
    · rw [hrun] at hafter
      exact ⟨⟨halong, by rintro _ _ ⟨⟩⟩, hafter⟩
    · rw [hrun] at hafter
      obtain ⟨hlast, hlast'⟩ := silent_of_toggleEvents hdump toggle hafter
      refine ⟨⟨halong, ?_⟩, hlast'⟩
      rintro _ _ ⟨⟩
      exact hlast

end CrashDump

end Slot

/-- **Which interrupts reach the processor.** Take a slot that was brought up, over registers that keep
what is written to them, and any calls after that which enable or disable interrupts.

While a crash dump is written, no interrupt and no error reaches the processor, after the calls and at
any time in their course. Otherwise the normal interrupts that reach the processor are those that become
pending, and both are what the calls enable, one after the other. Likewise the errors that reach the
processor are those that become pending: all of them if the last call enabled interrupts, and none if it
disabled them or if there was no call. -/
theorem signalling_of_toggles {σ : Type} {host : Host σ}
    (pending : StoredRegister host RegisterMap.normalStatusEnable)
    (signal : StoredRegister host RegisterMap.normalSignalEnable)
    (errorPending : StoredRegister host RegisterMap.errorStatusEnable)
    (errorSignal : StoredRegister host RegisterMap.errorSignalEnable) {slot slot' : Slot}
    {length : Nat} {crashDump : Bool} {state up : σ}
    (hup : ((Slot.bringUp length crashDump).start slot).run host state =
      (.ok (.ok (), slot'), up)) (toggles : List Toggle) :
    ∃ after, (slot'.toggleAll toggles).run host up = (.ok (), after) ∧
      (crashDump = true →
        (slot'.toggleAll toggles).Along host
          (fun _ state => signal.value state = 0 ∧ errorSignal.value state = 0) up ∧
        signal.value after = 0 ∧ errorSignal.value after = 0) ∧
      (crashDump = false →
        signal.value after = enabledBy toggles ∧ pending.value after = enabledBy toggles ∧
        errorPending.value after = errorsEnabledBy toggles ∧
        errorSignal.value after = errorsEnabledBy toggles) := by
  obtain ⟨hcrash, hpending, hsignal⟩ := Slot.disabled_of_bringUp pending signal hup
  obtain ⟨herrorPending, herrorSignal⟩ :=
    Slot.errors_disabled_of_bringUp errorPending errorSignal hup
  obtain ⟨after, hrun, hpending', hsignal'⟩ :=
    Slot.run_toggleAll pending signal slot' hpending hsignal toggles
  obtain ⟨herrorPending', herrorSignal'⟩ :=
    Slot.errors_of_toggleAll errorPending errorSignal slot' herrorPending herrorSignal hrun
  rw [hcrash] at hpending' hsignal' herrorSignal'
  refine ⟨after, hrun, ?_, ?_⟩
  · rintro rfl
    exact ⟨(Slot.silent_of_toggleAll hcrash toggles ⟨hsignal, herrorSignal⟩).1, hsignal',
      herrorSignal'⟩
  · rintro rfl
    exact ⟨hsignal', hpending', herrorPending', herrorSignal'⟩

/-- Two calls that enable one interrupt each. Both reach the processor, and so do all errors. -/
theorem signalling_of_two_toggles :
    ∃ slot' up after,
      ((Slot.bringUp registerBlockSize false).start CrashDump.slot).run RegisterFile.host
        CrashDump.file = (.ok (.ok (), slot'), up) ∧
      (slot'.toggleAll CrashDump.toggles).run RegisterFile.host up = (.ok (), after) ∧
      RegisterFile.value after .half RegisterMap.normalSignalEnable.offset = 3 ∧
      RegisterFile.value after .half RegisterMap.errorSignalEnable.offset = 0xFFFF := by
  obtain ⟨slot', up, hup⟩ := CrashDump.run_bringUp false
  obtain ⟨after, hrun, -, hlet⟩ := signalling_of_toggles
    (RegisterFile.stored RegisterMap.normalStatusEnable)
    (RegisterFile.stored RegisterMap.normalSignalEnable)
    (RegisterFile.stored RegisterMap.errorStatusEnable)
    (RegisterFile.stored RegisterMap.errorSignalEnable) hup CrashDump.toggles
  obtain ⟨hsignal, -, -, herrors⟩ := hlet rfl
  exact ⟨slot', up, after, hup, hrun, hsignal, herrors⟩

end SdHost
