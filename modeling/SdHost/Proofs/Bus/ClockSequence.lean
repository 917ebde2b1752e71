import SdHost.Proofs.Bus.ClockArithmetic
import SdHost.Proofs.Bus.Footprint
import SdHost.Proofs.Host.Values
import SdHost.Proofs.Register.Field

/-!
# The order of setting the clock

The card's clock is stopped before a divisor is programmed, and the card is not clocked again until the
internal clock has been seen to be stable. If that does not happen in time the card is left without a
clock. All of this holds whatever the clock control register reads, and for every base clock and every
frequency.

The module introduces:

* `Timing.programEvents`, `startEvents`: what the stages ask;
* `Timing.Course`: every way in which the clock can be set;
* `Timing.Programs`: a word programs a divisor, and does nothing else but to start the internal clock;
* `Timing.Sequenced`: what is to hold of the order.

Main statement: `Slot.setClock_sequenced`, setting the clock keeps to the order.
-/

namespace SdHost

namespace Timing

open ClockControl (register)

/-! ## What the stages ask -/

/-- What is found in the clock control register, without the clocks running. -/
def halted (clock : HalfWord) : HalfWord :=
  ClockControl.sdClockEnable.put false (ClockControl.internalClockEnable.put false clock)

/-- The clocks are stopped, and a word that programs a divisor is written. -/
def programEvents (clock word : HalfWord) : List Event :=
  register.readEvents clock ++ (register.writeEvents (halted clock) ++ register.writeEvents word)

/-- The clock is let through to the card. -/
def startEvents (clock : HalfWord) : List Event :=
  register.readEvents clock ++ register.writeEvents (ClockControl.sdClockEnable.put true clock)

/-- The looks at the clock control register that wait for the internal clock, with what they read. -/
def stableLooks (looked : List HalfWord) : List Trial :=
  register.looks ClockControl.internalClockStable.test looked

/-! ## How the clock can be set -/

/-- The divisor for a frequency, as the slot works it out. -/
def divisorFor (slot : Slot) (khz : Word) : Except Fault (Except Error Nat) :=
  (ClockDivisor.find slot.capabilities.baseClockKHz khz slot.capabilities.specVersion).run

/-- The ways in which the clock can be set, part by part. -/
inductive Course (slot : Slot) (khz : Word) :
    List Stretch → Except Fault (Except Error Unit) → Prop
  /-- The clock is stopped. -/
  | stopped {clock : HalfWord} (hkhz : khz = 0) :
      Course slot khz [.plain (register.readEvents clock ++
        register.writeEvents (ClockControl.sdClockEnable.put false clock))] (.ok (.ok ()))
  /-- The divisor cannot be worked out. -/
  | broken {clock : HalfWord} {cause : Fault} (hkhz : khz ≠ 0)
      (hfind : divisorFor slot khz = .error cause) :
      Course slot khz [.plain (register.readEvents clock)] (.error cause)
  /-- There is no divisor for the frequency. -/
  | refused {clock : HalfWord} {cause : Error} (hkhz : khz ≠ 0)
      (hfind : divisorFor slot khz = .ok (.error cause)) :
      Course slot khz [.plain (register.readEvents clock)] (.ok (.error cause))
  /-- The internal clock does not become stable in time. -/
  | unstable {clock : HalfWord} {divisor : Nat} {looked : List HalfWord} (hkhz : khz ≠ 0)
      (hfind : divisorFor slot khz = .ok (.ok divisor))
      (hpolls : slot.options.Polls (stableLooks looked) false) :
      Course slot khz [.plain (programEvents clock (divisorWord divisor)),
        .polling (stableLooks looked) false] (.ok (.error .timeout))
  /-- The card is clocked. -/
  | started {clock last : HalfWord} {divisor : Nat} {looked : List HalfWord} (hkhz : khz ≠ 0)
      (hfind : divisorFor slot khz = .ok (.ok divisor))
      (hpolls : slot.options.Polls (stableLooks looked) true) :
      Course slot khz [.plain (programEvents clock (divisorWord divisor)),
        .polling (stableLooks looked) true, .plain (startEvents last)] (.ok (.ok ()))

/-- The waiting for the internal clock, and what comes after it. -/
theorem ensures_start (slot : Slot) {khz : Word} {divisor : Nat} (clock : HalfWord) (hkhz : khz ≠ 0)
    (hfind : divisorFor slot khz = .ok (.ok divisor)) :
    (slot.options.pollUntil (register.read >>= fun clock =>
        .done (ClockControl.internalClockStable.test clock)) >>= fun _ =>
      (liftM (gateClock true) : Attempt Unit)).run.Ensures (fun _ => True) fun events outcome =>
        ∃ stretches, Course slot khz stretches outcome ∧
          programEvents clock (divisorWord divisor) ++ events =
            slot.options.eventsOf stretches := by
  rw [Attempt.ensures_bind]
  refine (slot.options.ensures_pollUntil_read register _).mono ?_
  rintro _ _ ⟨looked, _ | _, hpolls, rfl, rfl⟩
  · refine ⟨[.plain (programEvents clock (divisorWord divisor)), .polling (stableLooks looked) false],
      .unstable hkhz hfind hpolls, ?_⟩
    simp [stableLooks]
  · refine Attempt.ensures_modify _ fun last => ?_
    refine ⟨[.plain (programEvents clock (divisorWord divisor)), .polling (stableLooks looked) true,
      .plain (startEvents last)], .started hkhz hfind hpolls, ?_⟩
    simp [stableLooks, startEvents]

/-- Whatever the clock control register reads, the clock is set in one of these ways. -/
theorem ensures_setClock (slot : Slot) (khz : Word) :
    (setClock slot khz).run.Ensures (fun _ => True) fun events outcome =>
      ∃ stretches, Course slot khz stretches outcome ∧
        events = slot.options.eventsOf stretches := by
  refine Attempt.ensures_read_bind _ fun clock => ?_
  by_cases hkhz : khz = 0
  · rw [if_pos hkhz]
    exact Attempt.ensures_write _ ⟨_, .stopped hkhz, (List.append_nil _).symm⟩
  rw [if_neg hkhz]
  -- up to here the register has only been read
  have hread : register.readEvents clock ++ [] =
      slot.options.eventsOf [.plain (register.readEvents clock)] :=
    rfl
  refine Attempt.ensures_ofExcept_bind (fun found hfound => ?_)
    fun cause hfind => ⟨_, .broken hkhz hfind, hread⟩
  refine Attempt.ensures_except_bind (fun divisor hdivisor => ?_)
    fun cause hcause => ⟨_, .refused hkhz (hcause ▸ hfound), hread⟩
  refine Attempt.ensures_write_bind _ ?_
  refine Attempt.ensures_write_bind _ ?_
  refine (ensures_start slot clock hkhz (hdivisor ▸ hfound)).mono ?_
  rintro events outcome ⟨stretches, hcourse, hevents⟩
  refine ⟨stretches, hcourse, ?_⟩
  rw [← hevents]
  simp [programEvents, halted]

/-- A frequency is not refused for want of time. -/
theorem divisorFor_ne_timeout (slot : Slot) (khz : Word) :
    divisorFor slot khz ≠ .ok (.error .timeout) := by
  intro hfind
  rcases ClockDivisor.mem_version3_or_notSupported hfind with ⟨_, -, hfound⟩ | hrefused
  · cases hfound
  · cases hrefused

/-! ## The word that programs a divisor -/

/-- The word programs the divisor and starts the internal clock, and it does nothing else. A clock that
is not divided is programmed as zero. -/
structure Programs (divisor : Nat) (word : HalfWord) : Prop where
  /-- The internal clock is started. -/
  enabled : ClockControl.internalClockEnable.test word = true
  /-- The divisor can be read off the word. -/
  divisor_eq : ClockControl.divisor word = if divisor = 1 then 0 else divisor
  /-- There are no bits but those of the divisor and the one that starts the internal clock. -/
  covered : ∀ place, word.getLsbD place = true → ClockControl.internalClockEnable.Covers place ∨
    ClockControl.frequencySelectUpper.Covers place ∨ ClockControl.frequencySelect.Covers place

/-- Half the divisor is split over two fields, and put together again it is the same. -/
theorem divisor_divisorWord {divisor : Nat} (h : divisor < 2048) :
    ClockControl.divisor (divisorWord divisor) = divisor / 2 * 2 := by
  have hupper : ClockControl.frequencySelectUpper.get (divisorWord divisor) = divisor / 512 := by
    rw [divisorWord, Field.get_put_of_disjoint _ _ (by decide)]
    have hroom : divisor / 512 < 2 ^ ClockControl.frequencySelectUpper.width := by
      show divisor / 512 < 4
      omega
    exact Field.get_set_of_lt _ (by decide) hroom _
  have hlower : ClockControl.frequencySelect.get (divisorWord divisor) = divisor / 2 % 256 := by
    rw [divisorWord, Field.get_put_of_disjoint _ _ (by decide),
      Field.get_set_of_disjoint _ _ (by decide), Field.get_set _ (by decide), BitVec.toNat_ofNat]
    rfl
  rw [ClockControl.divisor, hupper, hlower]
  omega

/-- Every divisor of either kind of host is programmed by its word. -/
theorem programs_divisorWord {divisor : Nat} (h : divisor ∈ ClockDivisor.version3) :
    Programs divisor (divisorWord divisor) where
  enabled := Field.test_put _ (by decide) rfl _ _
  divisor_eq := by
    rcases h with rfl | ⟨⟨half, rfl⟩, hpos, hle⟩
    · rfl
    · rw [ClockDivisor.largest] at hle
      rw [divisor_divisorWord (by omega), if_neg (by omega)]
      omega
  covered := by
    intro place hplace
    by_contra hcovers
    obtain ⟨henable, hupper, hlower⟩ := not_or.mp hcovers |>.imp_right not_or.mp
    rw [divisorWord, Field.put, Field.getLsbD_set, if_neg henable, Field.getLsbD_set, if_neg hupper,
      Field.getLsbD_set, if_neg hlower] at hplace
    simp at hplace

/-! ## What is to hold of the order -/

/-- The internal clock was seen to be stable after it was started last. -/
def StableSeen (earlier : List Event) : Prop :=
  ∃ before word later value, earlier = before ++ ⟨.write .half register.offset word, ()⟩ :: later ∧
    ClockControl.internalClockEnable.test word = true ∧
    ⟨.read .half register.offset, value⟩ ∈ later ∧
    ClockControl.internalClockStable.test value = true

/-- The event lets the clock through to the card. -/
def Starts (event : Event) : Prop :=
  ∃ value, event = ⟨.write .half register.offset value, ()⟩ ∧
    ClockControl.sdClockEnable.test value = true

/-- The clock is set in order, and what becomes of it is told by the events. -/
structure Sequenced (slot : Slot) (khz : Word) (events : List Event)
    (outcome : Except Fault (Except Error Unit)) : Prop where
  /-- Nothing but the clock control register is written. -/
  writesAmong : ∀ event ∈ events, event.WritesAmong [register.place]
  /-- The clock is stopped by writing back what was read, without the bit that lets the clock through. -/
  stopped : khz = 0 → ∃ clock,
    events = register.readEvents clock ++
      register.writeEvents (ClockControl.sdClockEnable.put false clock) ∧
    outcome = .ok (.ok ())
  /-- A frequency for which there is no divisor is refused, and nothing is written. -/
  refused : khz ≠ 0 → ∀ cause, divisorFor slot khz = .ok (.error cause) →
    writes events = [] ∧ outcome = .ok (.error cause)
  /-- Nothing is written either if the divisor cannot be worked out. -/
  broken : khz ≠ 0 → ∀ cause, divisorFor slot khz = .error cause →
    writes events = [] ∧ outcome = .error cause
  /-- A divisor that was found is programmed with both clocks stopped. The register is looked at until
  the internal clock is stable. If it gets stable in time the clock is let through to the card, by
  writing back what was read last with one bit more, and the operation succeeds. Otherwise nothing more
  is written. -/
  programmed : khz ≠ 0 → ∀ divisor, divisorFor slot khz = .ok (.ok divisor) →
    ∃ clock word looked last success, Programs divisor word ∧
      (success = true ↔ ∃ value ∈ looked, ClockControl.internalClockStable.test value = true) ∧
      events = register.readEvents clock ++ (register.writeEvents (halted clock) ++
        (register.writeEvents word ++ (pausing slot.options.pollInterval (stableLooks looked) ++
          if success then startEvents last else []))) ∧
      outcome = .ok (if success then .ok () else .error .timeout)
  /-- The clock is never let through to the card unless the internal clock was seen to be stable. -/
  gated : OnlyAfter Starts StableSeen events
  /-- If time runs out, the last that was written keeps the clock from the card. -/
  timedOut : outcome = .ok (.error .timeout) → ∃ value,
    (register.valuesWritten events).getLast? = some value ∧
      ClockControl.sdClockEnable.test value = false

section Order

variable {slot : Slot} {khz : Word} {stretches : List Stretch} {events : List Event}
  {outcome : Except Fault (Except Error Unit)}

/-- If no value that is written lets the clock through, nothing is to be made right. -/
theorem onlyAfter_of_valuesWritten {Ready : List Event → Prop}
    (h : ∀ value ∈ register.valuesWritten events, ClockControl.sdClockEnable.test value = false) :
    OnlyAfter Starts Ready events := by
  refine .of_forall_not ?_
  rintro _ hevent ⟨value, rfl, hstarts⟩
  have hstopped := h value (Register.mem_valuesWritten.mpr hevent)
  rw [hstarts] at hstopped
  cases hstopped

theorem valuesWritten_programEvents (clock word : HalfWord) :
    register.valuesWritten (programEvents clock word) = [halted clock, word] := by
  simp [programEvents]

theorem test_halted (clock : HalfWord) : ClockControl.sdClockEnable.test (halted clock) = false :=
  Field.test_put _ (by decide) rfl _ _

theorem test_divisorWord (divisor : Nat) :
    ClockControl.sdClockEnable.test (divisorWord divisor) = false := by
  rw [divisorWord, Field.test_put_of_disjoint _ _ (by decide) rfl,
    Field.test_set_of_disjoint _ _ (by decide) rfl, Field.test_set_of_disjoint _ _ (by decide) rfl,
    Field.test_zero]

/-- Until the internal clock is stable, nothing lets the clock through. -/
theorem test_of_mem_valuesWritten (interval : Word) (clock : HalfWord) (divisor : Nat)
    (looked : List HalfWord) :
    ∀ value ∈ register.valuesWritten (programEvents clock (divisorWord divisor) ++
      pausing interval (stableLooks looked)), ClockControl.sdClockEnable.test value = false := by
  rw [Register.valuesWritten_append, valuesWritten_programEvents, stableLooks,
    Register.valuesWritten_looks, List.append_nil]
  exact List.forall_mem_cons.mpr
    ⟨test_halted clock, List.forall_mem_singleton.mpr (test_divisorWord divisor)⟩

/-- A look that finds the internal clock stable comes after the divisor was programmed. -/
theorem stableSeen_append {interval : Word} {clock : HalfWord} {divisor : Nat}
    {looked : List HalfWord}
    (h : ∃ value ∈ looked, ClockControl.internalClockStable.test value = true)
    (more : List Event) :
    StableSeen (programEvents clock (divisorWord divisor) ++ pausing interval (stableLooks looked) ++
      more) := by
  obtain ⟨value, hvalue, hstable⟩ := h
  have hlooked : ⟨.read .half register.offset, value⟩ ∈ pausing interval (stableLooks looked) := by
    rw [← Register.mem_valuesRead, stableLooks, Register.valuesRead_looks]
    exact hvalue
  refine ⟨register.readEvents clock ++ (register.writeEvents (halted clock) ++ [⟨.barrier, ()⟩]),
    divisorWord divisor, pausing interval (stableLooks looked) ++ more, value, ?_,
    Field.test_put _ (by decide) rfl _ _, List.mem_append_left _ hlooked, hstable⟩
  simp [programEvents, Register.writeEvents]

theorem exists_stable_iff (looked : List HalfWord) :
    (∃ trial ∈ stableLooks looked, trial.reached = true) ↔
      ∃ value ∈ looked, ClockControl.internalClockStable.test value = true := by
  simp [stableLooks, Register.looks]

namespace Course

theorem stop (h : Course slot khz stretches outcome) (hkhz : khz = 0) :
    ∃ clock, slot.options.eventsOf stretches =
        register.readEvents clock ++
          register.writeEvents (ClockControl.sdClockEnable.put false clock) ∧
      outcome = .ok (.ok ()) := by
  cases h with
  | @stopped clock => exact ⟨clock, List.append_nil _, rfl⟩
  | broken hne | refused hne | unstable hne | started hne => exact absurd hkhz hne

theorem refuse (h : Course slot khz stretches outcome) (hkhz : khz ≠ 0) {cause : Error}
    (hfind : divisorFor slot khz = .ok (.error cause)) :
    writes (slot.options.eventsOf stretches) = [] ∧ outcome = .ok (.error cause) := by
  cases h with
  | stopped heq => exact absurd heq hkhz
  | refused _ hother =>
    cases hother.symm.trans hfind
    exact ⟨rfl, rfl⟩
  | broken _ hother | unstable _ hother | started _ hother => cases hother.symm.trans hfind

theorem fault (h : Course slot khz stretches outcome) (hkhz : khz ≠ 0) {cause : Fault}
    (hfind : divisorFor slot khz = .error cause) :
    writes (slot.options.eventsOf stretches) = [] ∧ outcome = .error cause := by
  cases h with
  | stopped heq => exact absurd heq hkhz
  | broken _ hother =>
    cases hother.symm.trans hfind
    exact ⟨rfl, rfl⟩
  | refused _ hother | unstable _ hother | started _ hother => cases hother.symm.trans hfind

theorem program (h : Course slot khz stretches outcome) (hkhz : khz ≠ 0) {divisor : Nat}
    (hfind : divisorFor slot khz = .ok (.ok divisor)) :
    ∃ clock word looked last success, Programs divisor word ∧
      (success = true ↔ ∃ value ∈ looked, ClockControl.internalClockStable.test value = true) ∧
      slot.options.eventsOf stretches =
        register.readEvents clock ++ (register.writeEvents (halted clock) ++
          (register.writeEvents word ++ (pausing slot.options.pollInterval (stableLooks looked) ++
            if success then startEvents last else []))) ∧
      outcome = .ok (if success then .ok () else .error .timeout) := by
  -- whatever the search finds has room in the two fields
  have hword : Programs divisor (divisorWord divisor) := by
    rcases ClockDivisor.mem_version3_or_notSupported hfind with ⟨found, hfound, hdivisor⟩ | hnone
    · cases hdivisor
      exact programs_divisorWord hfound
    · cases hnone
  cases h with
  | stopped heq => exact absurd heq hkhz
  | broken _ hother | refused _ hother => cases hother.symm.trans hfind
  | @unstable clock _ looked _ hother hpolls =>
    cases hother.symm.trans hfind
    refine ⟨clock, _, looked, 0, false, hword, hpolls.success_iff.trans (exists_stable_iff looked), ?_,
      rfl⟩
    simp [programEvents]
  | @started clock last _ looked _ hother hpolls =>
    cases hother.symm.trans hfind
    refine ⟨clock, _, looked, last, true, hword, hpolls.success_iff.trans (exists_stable_iff looked), ?_,
      rfl⟩
    simp [programEvents]

theorem gate (h : Course slot khz stretches outcome) :
    OnlyAfter Starts StableSeen (slot.options.eventsOf stretches) := by
  cases h with
  | @stopped clock hkhz =>
    have hstopped : ClockControl.sdClockEnable.test
        (ClockControl.sdClockEnable.put false clock) = false := Field.test_put _ (by decide) rfl _ _
    refine onlyAfter_of_valuesWritten ?_
    simpa using hstopped
  | broken | refused =>
    refine onlyAfter_of_valuesWritten ?_
    simp
  | unstable =>
    refine onlyAfter_of_valuesWritten ?_
    simpa using test_of_mem_valuesWritten _ _ _ _
  | @started clock last divisor looked hkhz hfind hpolls =>
    have hstable := (hpolls.success_iff.trans (exists_stable_iff looked)).mp rfl
    have hevents : slot.options.eventsOf [.plain (programEvents clock (divisorWord divisor)),
        .polling (stableLooks looked) true, .plain (startEvents last)] =
        programEvents clock (divisorWord divisor) ++
          pausing slot.options.pollInterval (stableLooks looked) ++ startEvents last := by
      simp
    rw [hevents]
    -- nothing starts the clock before the loop is over, and a look has been good by then
    refine (onlyAfter_of_valuesWritten ?_).append_of_forall (stableSeen_append hstable)
    exact test_of_mem_valuesWritten _ _ _ _

theorem timeOut (h : Course slot khz stretches outcome) (houtcome : outcome = .ok (.error .timeout)) :
    ∃ value, (register.valuesWritten (slot.options.eventsOf stretches)).getLast? = some value ∧
      ClockControl.sdClockEnable.test value = false := by
  cases h with
  | stopped => cases houtcome
  | broken => cases houtcome
  | refused _ hfind =>
    cases houtcome
    exact absurd hfind (divisorFor_ne_timeout slot khz)
  | @unstable clock divisor looked =>
    refine ⟨divisorWord divisor, ?_, test_divisorWord divisor⟩
    simp [valuesWritten_programEvents, stableLooks]
  | started => cases houtcome

/-- Every way in which the clock can be set keeps to the order. -/
theorem sequenced (h : Course slot khz stretches outcome)
    (hamong : ∀ event ∈ slot.options.eventsOf stretches, event.WritesAmong [register.place]) :
    Sequenced slot khz (slot.options.eventsOf stretches) outcome where
  writesAmong := hamong
  stopped := h.stop
  refused hkhz _ := h.refuse hkhz
  broken hkhz _ := h.fault hkhz
  programmed hkhz _ := h.program hkhz
  gated := h.gate
  timedOut := h.timeOut

end Course

/-- Whatever the clock control register reads, the clock is set in order. -/
theorem ensures_sequenced (slot : Slot) (khz : Word) :
    (setClock slot khz).run.Ensures (fun _ => True) (Sequenced slot khz) := by
  refine ((ensures_setClock slot khz).and (BusOperation.asks_setClock slot khz)).mono ?_
  rintro _ outcome ⟨⟨stretches, hcourse, rfl⟩, hamong⟩
  exact hcourse.sequenced hamong

end Order

end Timing

/-- **The order of setting the clock.** Take any slot, any frequency and any state of what surrounds the
slot, whatever the registers read. The clock is set in order, what becomes of it is told by the events,
and the slot stays as it is. -/
theorem Slot.setClock_sequenced {σ : Type} (host : Host σ) (slot : Slot) (khz : Word) (state : σ) :
    ∃ outcome, Timing.Sequenced slot khz
        (((performBusOperation (.setClock khz)).start slot).history host state) outcome ∧
      (((performBusOperation (.setClock khz)).start slot).run host state).1 =
        outcome.map fun result => (result, slot) := by
  rw [BusOperation.start_setClock]
  exact Task.exists_outcome_of_attempt (Timing.ensures_sequenced slot khz) slot host state

end SdHost
