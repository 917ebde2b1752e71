import SdHost.Proofs.Bus.ClockSequence
import SdHost.Proofs.Bus.Sequence
import SdHost.Proofs.Bus.Supply
import SdHost.Proofs.Regulator.Span

/-!
# No bus operation hangs

Every bus operation comes to its end after a bounded number of steps, however the hardware behaves.
Three of the operations poll, and they give up once the retries of the slot are used up; the others have
no loop at all.

The module introduces:

* `ResetType.Course`: every way in which a reset can go;
* `BusOperation.LoopFree`: what holds of an operation that has no loop;
* `BusOperation.Course`: every way in which an operation can go, part by part;
* `BusOperation.Breaks`: the ways in which an operation stops on a broken promise;
* `BusOperation.Bounded`: the bounds that hold of an operation.

Main statement: `Slot.performBusOperation_bounded`, every operation keeps within these bounds.
-/

namespace SdHost

/-! ## Resets -/

namespace ResetType

/-- The looks at the reset register that wait for the end of a reset, with what they read. -/
def resetLooks (part : ResetType) (looked : List Byte) : List Trial :=
  SoftwareReset.register.looks (fun bits => bits &&& part.bit.put true 0 == 0) looked

/-- What is set up again when the reset is done. -/
def setUpEvents (slot : Slot) (control2 : HalfWord) (control1 : Byte) : List Event :=
  TimeoutControl.register.writeEvents
      (TimeoutControl.dataTimeoutCounter.set TimeoutControl.longest 0) ++
    ((if slot.controller.clearsStatusOnReset then RegisterMap.normalStatus.writeEvents 0xFFFF else []) ++
      ((if slot.regulatorAt18 then HostControl2.register.readEvents control2 ++
          HostControl2.register.writeEvents (HostControl2.signaling1_8.put true control2) else []) ++
        (HostControl1.register.readEvents control1 ++ HostControl1.register.writeEvents
          (HostControl1.dmaSelect.set (slot.controller.dmaSelect slot.capabilities).code control1))))

/-- The ways in which a reset can go, part by part. -/
inductive Course (part : ResetType) (slot : Slot) :
    List Stretch → Except Fault (Except Error Unit) → Prop
  /-- The reset does not come to its end in time. -/
  | stuck {looked : List Byte} (hpolls : slot.options.Polls (part.resetLooks looked) false) :
      Course part slot [.plain (SoftwareReset.register.writeEvents (part.bit.put true 0)),
        .polling (part.resetLooks looked) false] (.ok (.error .timeout))
  /-- The reset is done, and the controller is set up again. -/
  | finished {looked : List Byte} (control2 : HalfWord) (control1 : Byte)
      (hpolls : slot.options.Polls (part.resetLooks looked) true) :
      Course part slot [.plain (SoftwareReset.register.writeEvents (part.bit.put true 0)),
        .polling (part.resetLooks looked) true, .plain (setUpEvents slot control2 control1)]
        (.ok (.ok ()))

theorem ensures_reset (part : ResetType) (slot : Slot) :
    (part.reset slot).run.Ensures (fun _ => True) fun events outcome =>
      ∃ stretches, part.Course slot stretches outcome ∧
        events = slot.options.eventsOf stretches := by
  refine Attempt.ensures_write_bind _ ((Attempt.ensures_bind _ _ _).mpr ?_)
  refine (slot.options.ensures_pollUntil_read SoftwareReset.register _).mono ?_
  rintro _ _ ⟨looked, _ | _, hpolls, rfl, rfl⟩
  · exact ⟨_, .stuck hpolls, by simp [resetLooks]⟩
  have hdone : ∀ control2 control1 later, later = setUpEvents slot control2 control1 →
      ∃ stretches, part.Course slot stretches (.ok (.ok ())) ∧
        SoftwareReset.register.writeEvents (part.bit.put true 0) ++
          (pausing slot.options.pollInterval (part.resetLooks looked) ++ later) =
            slot.options.eventsOf stretches := by
    rintro control2 control1 _ rfl
    exact ⟨_, .finished control2 control1 hpolls, by simp⟩
  refine Attempt.ensures_write_bind _ ?_
  -- some controllers clear their status, and some slots have the signals at 1.8 V
  refine Attempt.ensures_ite (fun hclears => ?_) fun hleaves => ?_
  · refine Attempt.ensures_write_bind _ ?_
    refine Attempt.ensures_ite (fun hat18 => ?_) fun hat33 => ?_
    · refine Attempt.ensures_modify_bind _ fun control2 => ?_
      refine Attempt.ensures_modify _ fun control1 => ?_
      exact hdone control2 control1 _ (by simp [setUpEvents, hclears, hat18])
    · refine Attempt.ensures_modify _ fun control1 => ?_
      exact hdone 0 control1 _ (by simp [setUpEvents, hclears, hat33])
  · refine Attempt.ensures_ite (fun hat18 => ?_) fun hat33 => ?_
    · refine Attempt.ensures_modify_bind _ fun control2 => ?_
      refine Attempt.ensures_modify _ fun control1 => ?_
      exact hdone control2 control1 _ (by simp [setUpEvents, hleaves, hat18])
    · refine Attempt.ensures_modify _ fun control1 => ?_
      exact hdone 0 control1 _ (by simp [setUpEvents, hleaves, hat33])

end ResetType

/-! ## What operations may take -/

/-- How many things a call to the regulator of the slot asks for at most. -/
def Slot.callSpan (slot : Slot) : Nat :=
  slot.regulator.elim 0 Channel.span

theorem Event.pauses_of_isMessage {event : Event} (h : event.isMessage = true) :
    event.pauses = false := by
  obtain ⟨query, reply⟩ := event
  cases query <;> first | rfl | cases h

theorem eq_error_of_map {α β : Type} {make : α → β} {result : Except Fault α} {cause : Fault}
    (h : result.map make = .error cause) : result = .error cause := by
  cases result with
  | error =>
    cases h
    rfl
  | ok => cases h

namespace BusOperation

/-- The number of polling loops that the operation may run. -/
def loops : BusOperation → Nat
  | .resetHost _ | .setClock _ => 1
  | .setVoltage _ => 2
  | _ => 0

/-- How often the operation lets something settle, for a time that has nothing to do with polling. -/
def settles : BusOperation → Nat
  | .setBusSpeed _ => 2
  | .setSignalingVoltage _ => 3
  | _ => 0

/-- The ways in which an operation with some events stops on a broken promise. -/
inductive Breaks (slot : Slot) (events : List Event) : BusOperation → Prop
  /-- No card has so many data lines. -/
  | badWidth {width : Byte} (hwidth : width ∉ [0, 1, 4, 8]) : Breaks slot events (.setBusWidth width)
  /-- The divisor has no room in a word while it is worked out. -/
  | overflow {khz : Word} (hbase : slot.capabilities.baseClockKHz = 0xFFFFFFFF) (hkhz : khz = 1)
      (hspec : specVersion3 ≤ slot.capabilities.specVersion) : Breaks slot events (.setClock khz)
  /-- The stream to the regulator takes none of the bytes, or more than there are. -/
  | stream {voltage : SignalingVoltage} (hstream : ∃ event ∈ events, ¬ event.TakesSome) :
      Breaks slot events (.setSignalingVoltage voltage)

/-- What holds of the events and of the outcome of an operation that has no loop. -/
structure LoopFree (slot : Slot) (operation : BusOperation) (events : List Event)
    (outcome : Except Fault (Except Error Unit × Slot)) : Prop where
  /-- Few events have nothing to do with a call to the regulator. -/
  count_le : events.countP (fun event => !event.isMessage) ≤ 21
  /-- The pauses let something settle. -/
  pauses_le : events.countP Event.pauses ≤ operation.settles
  /-- There are two calls at most, if no worker runs its work more than once. -/
  messages_le : (∀ event ∈ events, event.RunsOnce) →
    events.countP Event.isMessage ≤ 2 * slot.callSpan
  /-- Time does not run out. -/
  ne_timeout : ∀ slot', outcome ≠ .ok (.error .timeout, slot')
  /-- The operation comes to its end, if no promise is broken. -/
  breaks : ∀ cause, outcome = .error cause → Breaks slot events operation

/-- Some accesses and pauses make no call, and come to an end. -/
theorem LoopFree.of_quiet {slot : Slot} {operation : BusOperation} {events : List Event}
    {result : Except Error Unit} (hquiet : ∀ event ∈ events, event.isMessage = false)
    (hlength : events.length ≤ 21) (hpauses : events.countP Event.pauses ≤ operation.settles)
    (hresult : result ≠ .error .timeout) :
    LoopFree slot operation events (.ok (result, slot)) where
  count_le := List.countP_le_length.trans hlength
  pauses_le := hpauses
  messages_le _ := by
    have hzero : events.countP Event.isMessage = 0 := by simpa using hquiet
    exact hzero ▸ Nat.zero_le _
  ne_timeout slot' h := by
    cases h
    exact hresult rfl
  breaks _ h := by cases h

end BusOperation

/-! ## Switches of the signals -/

namespace Signaling

variable {slot moved : Slot} {at18 : Bool} {calls : List RegulatorCall} {events : List Event}
  {outcome : Except Fault (Except Error Unit × Slot)}

section Counts

variable {p : Event → Bool} {n : Nat}
  (hmessage : ∀ event : Event, event.isMessage = true → p event = false)
  (hgate : ∀ options on clock present, (gateEvents options on clock present).countP p ≤ n)
  (hlatch : ∀ options at18 control latched, (latchEvents options at18 control latched).countP p ≤ n)

include hmessage in
/-- Calls do not count, where messages do not. -/
theorem countP_calls (calls : List RegulatorCall) :
    (calls.flatMap RegulatorCall.events).countP p = 0 := by
  refine List.countP_eq_zero.mpr fun event hevent => ?_
  rw [hmessage event (RegulatorCall.isMessage_flatMap calls event hevent)]
  exact Bool.false_ne_true

include hgate hlatch in
theorem Spoiled.countP_le {options : Options} (h : Spoiled options at18 events) :
    events.countP p ≤ 2 * n := by
  cases h with
  | dropped => exact (hlatch _ _ _ _).trans (by omega)
  | @unreleased control latched clock present =>
    have hfirst := hlatch options at18 control latched
    have hsecond := hgate options true clock present
    rw [List.countP_append]
    omega

include hmessage hgate hlatch in
theorem Continued.countP_le (h : Continued slot at18 calls events outcome) :
    events.countP p ≤ 2 * n := by
  cases h with
  | unreached => exact Nat.zero_le _
  | @refused forth =>
    have hzero := countP_calls hmessage [forth]
    rw [List.flatMap_singleton] at hzero
    exact hzero ▸ Nat.zero_le _
  | spoiled _ hspoiled _ =>
    rw [List.countP_append, List.countP_append, countP_calls hmessage, countP_calls hmessage]
    simpa using hspoiled.countP_le hgate hlatch
  | @completed _ _ control latched clock present =>
    have hfirst := hlatch slot.options at18 control latched
    have hsecond := hgate slot.options true clock present
    rw [List.countP_append, List.countP_append, countP_calls hmessage]
    omega

include hmessage hgate hlatch in
/-- A switch goes through three stages at most. -/
theorem Trace.countP_le (h : Trace slot at18 calls events outcome) : events.countP p ≤ 3 * n := by
  cases h with
  | blocked => exact (hgate _ _ _ _).trans (by omega)
  | @continued clock present _ _ _ _ hlater =>
    have hfirst := hgate slot.options false clock present
    have hrest := hlater.countP_le hmessage hgate hlatch
    rw [List.countP_append]
    omega

end Counts

/-- A switch does not wait for anything, and so time does not run out. -/
theorem Trace.ne_timeout (h : Trace slot at18 calls events outcome) (slot' : Slot) :
    outcome ≠ .ok (.error .timeout, slot') := by
  cases h with
  | blocked => rintro ⟨⟩
  | continued _ hlater =>
    cases hlater with
    | unreached => rintro ⟨⟩
    | refused _ _ _ _ hrefused =>
      intro houtcome
      rcases RegulatorCall.accepted_or_refused houtcome with ⟨haccepted, -⟩ | ⟨_, -, hnoted⟩
      · exact hrefused haccepted
      · cases hnoted
    | @spoiled _ _ _ _ restored =>
      cases restored with
      | error | ok => rintro ⟨⟩
    | completed => rintro ⟨⟩

theorem Restore.exists_of_error {previous : Bool} {restored : Except Fault Slot}
    (h : Restore previous moved calls restored) {cause : Fault} (hrestored : restored = .error cause) :
    ∃ call ∈ calls, call.outcome = .error cause := by
  cases h with
  | still | unreached => cases hrestored
  | called => exact ⟨_, List.mem_cons_self, eq_error_of_map hrestored⟩

/-- A switch stops only where a call does. -/
theorem Trace.exists_of_error (h : Trace slot at18 calls events outcome) {cause : Fault}
    (houtcome : outcome = .error cause) : ∃ call ∈ calls, call.outcome = .error cause := by
  cases h with
  | blocked => cases houtcome
  | continued _ hlater =>
    cases hlater with
    | unreached | completed => cases houtcome
    | refused => exact ⟨_, List.mem_cons_self, eq_error_of_map houtcome⟩
    | spoiled _ _ hrestore =>
      obtain ⟨call, hcall, hstopped⟩ := hrestore.exists_of_error (eq_error_of_map houtcome)
      exact ⟨call, List.mem_append_right _ hcall, hstopped⟩

theorem length_flatMap_calls_le {bound : Nat} {calls : List RegulatorCall}
    (h : ∀ call ∈ calls, call.events.length ≤ bound) :
    (calls.flatMap RegulatorCall.events).length ≤ calls.length * bound := by
  have hsum := List.sum_le_card_nsmul (calls.map fun call => call.events.length) bound
    (by simpa using h)
  rw [List.length_flatMap]
  simpa using hsum

/-- A switch has no loop. -/
theorem Trace.loopFree {voltage : SignalingVoltage} (h : Trace slot at18 calls events outcome) :
    BusOperation.LoopFree slot (.setSignalingVoltage voltage) events outcome := by
  have hsequenced := h.sequenced
  have hcalls : ∀ call ∈ calls, ∀ event ∈ call.events, event ∈ events := by
    intro call hcall event hevent
    have hmessage : event ∈ events.filter Event.isMessage := by
      rw [hsequenced.messages]
      exact List.mem_flatMap.mpr ⟨call, hcall, hevent⟩
    exact List.mem_of_mem_filter hmessage
  refine ⟨?_, ?_, fun honce => ?_, h.ne_timeout, fun cause houtcome => ?_⟩
  · -- every stage has seven events
    have hcount : events.countP (fun event => !event.isMessage) ≤ 3 * 7 :=
      h.countP_le (by simp) (fun _ _ _ _ => List.countP_le_length) fun _ _ _ _ =>
        List.countP_le_length
    exact hcount
  · -- and one of them is a pause
    have hpauses : events.countP Event.pauses ≤ 3 * 1 :=
      h.countP_le (fun _ => Event.pauses_of_isMessage) (fun _ _ _ _ => Nat.le_refl 1)
        fun _ _ _ _ => Nat.le_refl 1
    exact hpauses
  · -- the messages are those of the calls, of which there are two
    have hspan : ∀ call ∈ calls, call.events.length ≤ slot.callSpan := by
      intro call hcall
      rw [Slot.callSpan, hsequenced.channel call hcall]
      exact call.length_le fun event hevent => honce event (hcalls call hcall event hevent)
    rw [List.countP_eq_length_filter, hsequenced.messages]
    exact (length_flatMap_calls_le hspan).trans (Nat.mul_le_mul_right _ hsequenced.length_le)
  · -- if every stream took some of its bytes, the call that stopped would have come to its end
    obtain ⟨call, hcall, hstopped⟩ := h.exists_of_error houtcome
    by_contra hbreaks
    have htakes : ∀ event ∈ call.events, event.TakesSome := by
      intro event hevent
      by_contra hnot
      exact hbreaks (.stream ⟨event, hcalls call hcall event hevent, hnot⟩)
    obtain ⟨result, hresult⟩ := call.exists_outcome htakes
    rw [hresult] at hstopped
    cases hstopped

end Signaling

namespace BusOperation

/-! ## Operations that have no loop -/

/-- A number of data lines is not taken only if no card has so many. -/
theorem not_mem_of_configureWidth? {width control : Byte}
    (h : configureWidth? width control = none) : width ∉ [0, 1, 4, 8] := by
  intro hmem
  fin_cases hmem <;> cases h

theorem ensures_setBusWidth (slot : Slot) (width : Byte) :
    (Slot.setBusWidth width).Ensures (fun _ => True) fun events outcome =>
      LoopFree slot (.setBusWidth width) events (outcome.map fun _ => (.ok (), slot)) := by
  rw [Slot.setBusWidth, Program.ensures_bind]
  intro _ _ control _
  simp only [Program.ensures_done]
  cases hwidth : configureWidth? width control with
  | some control' =>
    intro _ _ _ _
    refine .of_quiet ?_ (by simp) (by simp [Event.pauses]) (by rintro ⟨⟩)
    simp [Event.isMessage]
  | none =>
    refine (Program.ensures_fault _ _).mpr ?_
    refine ⟨by simp [Event.isMessage], by simp [Event.pauses], by simp [Event.isMessage], ?_, ?_⟩
    · rintro _ ⟨⟩
    · rintro _ ⟨⟩
      exact .badWidth (not_mem_of_configureWidth? hwidth)

theorem ensures_setBusSpeed (slot : Slot) (speed : BusSpeed) :
    (Timing.setBusSpeed slot.options speed).run.Ensures (fun _ => True) fun events outcome =>
      LoopFree slot (.setBusSpeed speed) events (outcome.map fun result => (result, slot)) := by
  refine Attempt.ensures_read_bind _ fun control1 => ?_
  refine Attempt.ensures_read_bind _ fun control2 => ?_
  cases speed.configure? control1 control2 with
  | none =>
    refine .of_quiet ?_ ?_ ?_ (by rintro ⟨⟩)
    · simp [Register.readEvents, Event.isMessage]
    · simp
    · simp [Register.readEvents, Event.pauses]
  | some controls =>
    refine Attempt.ensures_modify_bind _ fun clock => ?_
    refine Attempt.ensures_delay_bind ?_
    refine Attempt.ensures_write_bind _ ?_
    refine Attempt.ensures_write_bind _ ?_
    refine Attempt.ensures_modify_bind _ fun clock' => ?_
    refine (Attempt.ensures_program _ _).mpr fun _ _ => ?_
    refine .of_quiet ?_ ?_ ?_ (by rintro ⟨⟩)
    · simp [Register.readEvents, Register.writeEvents, Event.isMessage]
    · simp
    · exact Nat.le_refl 2

/-- An operation that has no loop is told all it needs to know by a few reads. -/
theorem ensures_loopFree (slot : Slot) {operation : BusOperation} (hloops : operation.loops = 0) :
    ((Slot.performBusOperation operation).start slot).Ensures (fun _ => True)
      (LoopFree slot operation) := by
  have hmodify : ∀ {operation : BusOperation} {width : Width} (register : Register width)
      (change : BitVec width.bits → BitVec width.bits) (value : BitVec width.bits),
      LoopFree slot operation (register.readEvents value ++ register.writeEvents (change value))
        (.ok (.ok (), slot)) := by
    intro operation width register change value
    refine .of_quiet ?_ (by simp) ?_ (by rintro ⟨⟩)
    · simp [Register.readEvents, Register.writeEvents, Event.isMessage]
    · simp [Register.readEvents, Register.writeEvents, Event.pauses]
  cases operation with
  | resetHost | setClock | setVoltage => cases hloops
  | resetCard | executeTuning =>
    exact .of_quiet (List.forall_mem_nil _) (Nat.zero_le _) (Nat.zero_le _) (by rintro ⟨⟩)
  | setPower | setDriveStrength =>
    exact .of_quiet (List.forall_mem_nil _) (Nat.zero_le _) (Nat.zero_le _) (by rintro ⟨⟩)
  | setDriverType | setPresetValue =>
    exact fun _ _ control _ _ _ _ _ => hmodify HostControl2.register _ control
  | setBlockGapInterrupt =>
    exact fun _ _ control _ _ _ _ _ => hmodify BlockGapControl.register _ control
  | setLed => exact fun _ _ control _ _ _ _ _ => hmodify HostControl1.register _ control
  | setBusWidth width => exact (Task.ensures_program _ _ _).mpr (ensures_setBusWidth slot width)
  | setBusSpeed speed =>
    rw [start_setBusSpeed, Task.ensures_attempt]
    exact ensures_setBusSpeed slot speed
  | setSignalingVoltage voltage =>
    rw [Signaling.start_performBusOperation]
    refine (Signaling.ensures_switch voltage slot).mono ?_
    rintro events outcome ⟨calls, htrace⟩
    exact htrace.loopFree

end BusOperation

/-! ## Operations that poll -/

section Polling

variable {slot : Slot} {stretches : List Stretch} {outcome : Except Fault (Except Error Unit)}

theorem Register.pauses_of_mem_append {width : Width} (register : Register width)
    (value value' : BitVec width.bits) :
    ∀ event ∈ register.readEvents value ++ register.writeEvents value', event.pauses = false :=
  List.forall_mem_append.mpr
    ⟨register.pauses_of_mem_readEvents value, register.pauses_of_mem_writeEvents value'⟩

theorem Register.length_of_mem_looks {width : Width} (register : Register width)
    (test : BitVec width.bits → Bool) (looked : List (BitVec width.bits)) :
    ∀ trial ∈ register.looks test looked, trial.events.length ≤ 4 := by
  simp [Register.looks, Register.readEvents]

theorem ResetType.length_setUpEvents (slot : Slot) (control2 : HalfWord) (control1 : Byte) :
    (setUpEvents slot control2 control1).length ≤ 12 := by
  rw [setUpEvents]
  split <;> split <;> simp [Register.readEvents, Register.writeEvents]

theorem ResetType.pauses_of_mem_setUpEvents (slot : Slot) (control2 : HalfWord) (control1 : Byte) :
    ∀ event ∈ setUpEvents slot control2 control1, event.pauses = false := by
  rw [setUpEvents]
  split <;> split <;> simp [Register.readEvents, Register.writeEvents, Event.pauses]

/-- A reset runs one loop. -/
theorem ResetType.Course.within {part : ResetType} (h : part.Course slot stretches outcome) :
    slot.options.Within 1 21 stretches := by
  have hwrite := SoftwareReset.register.pauses_of_mem_writeEvents (part.bit.put true 0)
  cases h with
  | stuck hpolls =>
    have hloop := Options.Within.nil.polling hpolls (Register.length_of_mem_looks _ _ _)
    exact (hloop.plain hwrite).mono (Nat.le_refl 1) (by simp)
  | finished control2 control1 hpolls =>
    have hrest : slot.options.Within 0 12 [.plain (setUpEvents slot control2 control1)] :=
      (Options.Within.nil.plain (ResetType.pauses_of_mem_setUpEvents slot control2 control1)).mono
        (Nat.le_refl 0) (ResetType.length_setUpEvents slot control2 control1)
    have hloop := hrest.polling hpolls (Register.length_of_mem_looks _ _ _)
    exact (hloop.plain hwrite).mono (Nat.le_refl 1) (by simp)

theorem ResetType.Course.timedOut_iff {part : ResetType} (h : part.Course slot stretches outcome) :
    outcome = .ok (.error .timeout) ↔ ∃ trials, .polling trials false ∈ stretches := by
  cases h <;> simp

/-- If a reset does not come to its end in time, the write that starts it is the only one. -/
theorem ResetType.Course.writes_eq {part : ResetType} (h : part.Course slot stretches outcome)
    (houtcome : outcome = .ok (.error .timeout)) :
    writes (slot.options.eventsOf stretches) = [SoftwareReset.register.place] := by
  cases h with
  | @stuck looked =>
    have hlooks : writes (pausing slot.options.pollInterval (part.resetLooks looked)) = [] :=
      Register.writes_looks _ _ _ _
    have hevents : writes (slot.options.eventsOf
        [.plain (SoftwareReset.register.writeEvents (part.bit.put true 0)),
          .polling (part.resetLooks looked) false]) =
        SoftwareReset.register.place ::
          writes (slot.options.eventsOf [.polling (part.resetLooks looked) false]) := rfl
    rw [hevents, Options.eventsOf_polling, hlooks]
  | finished => cases houtcome

/-- Setting the clock runs one loop. -/
theorem Timing.Course.within {khz : Word} (h : Timing.Course slot khz stretches outcome) :
    slot.options.Within 1 21 stretches := by
  have hread := ClockControl.register.pauses_of_mem_readEvents
  have hwrite := ClockControl.register.pauses_of_mem_writeEvents
  have hprogram : ∀ clock word, ∀ event ∈ programEvents clock word, event.pauses = false :=
    fun clock word => List.forall_mem_append.mpr
      ⟨hread clock, List.forall_mem_append.mpr ⟨hwrite _, hwrite word⟩⟩
  cases h with
  | @stopped clock =>
    have hquiet := ClockControl.register.pauses_of_mem_append clock
      (ClockControl.sdClockEnable.put false clock)
    exact (Options.Within.nil.plain hquiet).mono (Nat.zero_le 1) (by simp)
  | @broken clock | @refused clock =>
    exact (Options.Within.nil.plain (hread clock)).mono (Nat.zero_le 1) (by simp)
  | unstable _ _ hpolls =>
    have hloop := Options.Within.nil.polling hpolls (Register.length_of_mem_looks _ _ _)
    exact (hloop.plain (hprogram _ _)).mono (Nat.le_refl 1) (by simp [programEvents])
  | @started clock last _ _ _ _ hpolls =>
    have hquiet : ∀ event ∈ startEvents last, event.pauses = false :=
      ClockControl.register.pauses_of_mem_append last _
    have hloop := (Options.Within.nil.plain hquiet).polling hpolls (Register.length_of_mem_looks _ _ _)
    exact (hloop.plain (hprogram _ _)).mono (Nat.le_refl 1) (by simp [programEvents, startEvents])

theorem Timing.Course.timedOut_iff {khz : Word} (h : Timing.Course slot khz stretches outcome) :
    outcome = .ok (.error .timeout) ↔ ∃ trials, .polling trials false ∈ stretches := by
  cases h with
  | refused _ hfind =>
    have hne := divisorFor_ne_timeout slot khz
    rw [hfind] at hne
    simpa using hne
  | _ => simp

namespace SupplyVoltage

variable {voltage : SupplyVoltage} {options : Options}

theorem pauses_of_writesBack {change : Byte → Byte} {test : Byte → Bool} {power left : Byte}
    {events : List Event} {reached : Bool} (h : WritesBack change test power events left reached) :
    ∀ event ∈ events, event.pauses = false := by
  obtain ⟨rfl, -⟩ := h
  exact List.forall_mem_append.mpr ⟨Register.pauses_of_mem_writeEvents _ _,
    Register.pauses_of_mem_readEvents _ _⟩

/-- A loop that writes back keeps to what the options allow. -/
theorem within_polling {change : Byte → Byte} {test : Byte → Bool} {power : Byte}
    {trials : List Trial} {left : Option Byte} {loops rest : Nat}
    (hpolled : Polled (WritesBack change test) options.pollRetries power trials left)
    (h : options.Within loops rest stretches) :
    options.Within (loops + 1) rest (.polling trials left.isSome :: stretches) := by
  refine h.polling (hpolled.polls fun _ _ _ _ => pauses_of_writesBack) (hpolled.forall_mem ?_)
  rintro _ _ _ _ ⟨rfl, -⟩
  exact Nat.le_refl 4

theorem PowerDown.within {initial : Byte} {down : List Stretch} {left : Option Byte}
    (h : PowerDown options initial down left) : options.Within 1 0 down := by
  cases h with
  | already => exact Options.Within.nil.mono (Nat.zero_le 1) (Nat.le_refl 0)
  | polled _ hpolled => exact within_polling hpolled .nil

/-- Setting the voltage runs two loops. -/
theorem Course.within (h : Course voltage options stretches outcome) :
    options.Within 2 21 stretches := by
  have hread := PowerControl.register.pauses_of_mem_readEvents
  have hwrite := PowerControl.register.pauses_of_mem_writeEvents
  cases h with
  | @stuck initial down hdown | @off initial _ down hdown =>
    exact (hdown.within.plain (hread initial)).mono (Nat.le_succ 1) (by simp)
  | @on initial power select _ _ _ hdown _ hpolled =>
    have hup := (within_polling hpolled .nil).plain (hwrite (selecting select power))
    exact ((hdown.within.append hup).plain (hread initial)).mono (Nat.le_refl 2) (by simp)

theorem Course.timedOut_iff (h : Course voltage options stretches outcome) :
    outcome = .ok (.error .timeout) ↔ ∃ trials, .polling trials false ∈ stretches := by
  cases h with
  | stuck hdown => cases hdown; simp
  | off hdown => cases hdown <;> simp
  | @on _ _ _ _ _ left hdown => cases hdown <;> cases left <;> simp

end SupplyVoltage

end Polling

namespace BusOperation

/-! ## All operations -/

/-- The ways in which an operation can go, part by part. -/
inductive Course (slot : Slot) :
    BusOperation → List Stretch → Except Fault (Except Error Unit × Slot) → Prop
  /-- A part of the host is reset. -/
  | resetHost {part : ResetType} {stretches : List Stretch}
      {outcome : Except Fault (Except Error Unit)} (hcourse : part.Course slot stretches outcome) :
      Course slot (.resetHost part) stretches (outcome.map fun result => (result, slot))
  /-- The clock is set. -/
  | setClock {khz : Word} {stretches : List Stretch} {outcome : Except Fault (Except Error Unit)}
      (hcourse : Timing.Course slot khz stretches outcome) :
      Course slot (.setClock khz) stretches (outcome.map fun result => (result, slot))
  /-- The voltage is set. -/
  | setVoltage {voltage : SupplyVoltage} {stretches : List Stretch}
      {outcome : Except Fault (Except Error Unit)}
      (hcourse : voltage.Course slot.options stretches outcome) :
      Course slot (.setVoltage voltage) stretches (outcome.map fun result => (result, slot))
  /-- There is no loop. -/
  | loopFree {operation : BusOperation} {events : List Event}
      {outcome : Except Fault (Except Error Unit × Slot)} (hloops : operation.loops = 0)
      (hfree : LoopFree slot operation events outcome) :
      Course slot operation [.plain events] outcome

theorem ensures_course (slot : Slot) (operation : BusOperation) :
    ((Slot.performBusOperation operation).start slot).Ensures (fun _ => True) fun events outcome =>
      ∃ stretches, Course slot operation stretches outcome ∧
        events = slot.options.eventsOf stretches := by
  by_cases hloops : operation.loops = 0
  · refine (ensures_loopFree slot hloops).mono ?_
    intro events outcome hfree
    exact ⟨_, .loopFree hloops hfree, (slot.options.eventsOf_plain events).symm⟩
  cases operation with
  | resetHost part =>
    rw [start_resetHost, Task.ensures_attempt]
    refine (part.ensures_reset slot).mono ?_
    rintro _ _ ⟨stretches, hcourse, rfl⟩
    exact ⟨stretches, .resetHost hcourse, rfl⟩
  | setClock khz =>
    rw [start_setClock, Task.ensures_attempt]
    refine (Timing.ensures_setClock slot khz).mono ?_
    rintro _ _ ⟨stretches, hcourse, rfl⟩
    exact ⟨stretches, .setClock hcourse, rfl⟩
  | setVoltage voltage =>
    rw [start_setVoltage, Task.ensures_attempt]
    refine (voltage.ensures_supply slot.options).mono ?_
    rintro _ _ ⟨stretches, hcourse, rfl⟩
    exact ⟨stretches, .setVoltage hcourse, rfl⟩
  | _ => exact absurd rfl hloops

/-- The bounds that hold of an operation that went some way, and what comes of running out of retries. -/
structure Bounded (slot : Slot) (operation : BusOperation) (stretches : List Stretch)
    (outcome : Except Fault (Except Error Unit × Slot)) : Prop where
  /-- Each loop does what the options allow. -/
  polls : ∀ trials success, .polling trials success ∈ stretches →
    slot.options.Polls trials success
  /-- No operation runs more loops than it has. -/
  loops_le : stretches.countP Stretch.isPolling ≤ operation.loops
  /-- The loops together do not pause more than twice for each retry. -/
  pollPauses_le : (slot.options.eventsOf (stretches.filter Stretch.isPolling)).countP Event.pauses ≤
    2 * slot.options.pollRetries
  /-- The other pauses are few, and there are none besides a loop. -/
  pauses_le : (slot.options.eventsOf stretches).countP Event.pauses ≤
    operation.loops * slot.options.pollRetries + operation.settles
  /-- Time runs out exactly if a loop does not succeed. -/
  timedOut_iff : (∃ slot', outcome = .ok (.error .timeout, slot')) ↔
    ∃ trials, .polling trials false ∈ stretches
  /-- After a reset that does not come to its end in time nothing is written. -/
  resetStops : ∀ part, operation = .resetHost part → (∃ trials, .polling trials false ∈ stretches) →
    writes (slot.options.eventsOf stretches) = [SoftwareReset.register.place]
  /-- Five events for each attempt, and a few more, are all that has nothing to do with a call to the
  regulator. -/
  count_le : (slot.options.eventsOf stretches).countP (fun event => !event.isMessage) ≤
    operation.loops * (5 * (slot.options.pollRetries + 1)) + 21
  /-- There are two calls at most, if no worker runs its work more than once. -/
  messages_le : (∀ event ∈ slot.options.eventsOf stretches, event.RunsOnce) →
    (slot.options.eventsOf stretches).countP Event.isMessage ≤ 2 * slot.callSpan
  /-- The operation comes to its end, if no promise is broken. -/
  breaks : ∀ cause, outcome = .error cause →
    Breaks slot (slot.options.eventsOf stretches) operation

theorem loops_le_two (operation : BusOperation) : operation.loops ≤ 2 := by
  cases operation <;> simp [loops]

/-- An operation without a loop keeps within the bounds. -/
theorem LoopFree.bounded {slot : Slot} {operation : BusOperation} {events : List Event}
    {outcome : Except Fault (Except Error Unit × Slot)} (h : LoopFree slot operation events outcome) :
    Bounded slot operation [.plain events] outcome := by
  have hevents := slot.options.eventsOf_plain events
  have hnone : ¬ ∃ trials, Stretch.polling trials false ∈ [Stretch.plain events] := by simp
  refine ⟨?_, Nat.zero_le _, Nat.zero_le _, ?_, ?_, ?_, ?_, ?_, ?_⟩
  · intro trials success hmem
    simp at hmem
  · rw [hevents]
    exact h.pauses_le.trans (Nat.le_add_left _ _)
  · exact iff_of_false (fun ⟨slot', houtcome⟩ => h.ne_timeout slot' houtcome) hnone
  · exact fun _ _ htimeout => absurd htimeout hnone
  · rw [hevents]
    exact h.count_le.trans (Nat.le_add_left _ _)
  · rw [hevents]
    exact h.messages_le
  · rw [hevents]
    exact h.breaks

section Polling

variable {slot : Slot} {operation : BusOperation} {stretches : List Stretch}
  {outcome : Except Fault (Except Error Unit)}

theorem exists_timeout_iff :
    (∃ slot', (outcome.map fun result => (result, slot)) = .ok (.error .timeout, slot')) ↔
      outcome = .ok (.error .timeout) := by
  constructor
  · rintro ⟨slot', hmap⟩
    cases outcome <;> cases hmap
    rfl
  · rintro rfl
    exact ⟨slot, rfl⟩

/-- An operation that polls keeps within the bounds. -/
theorem Bounded.of_within (hwithin : slot.options.Within operation.loops 21 stretches)
    (hquiet : ∀ event ∈ slot.options.eventsOf stretches, event.isMessage = false)
    (htimedOut : outcome = .ok (.error .timeout) ↔ ∃ trials, .polling trials false ∈ stretches)
    (hreset : ∀ part, operation = .resetHost part → outcome = .ok (.error .timeout) →
      writes (slot.options.eventsOf stretches) = [SoftwareReset.register.place])
    (hbreaks : ∀ cause, outcome = .error cause →
      Breaks slot (slot.options.eventsOf stretches) operation) :
    Bounded slot operation stretches (outcome.map fun result => (result, slot)) where
  polls := hwithin.polls
  loops_le := hwithin.loops_le
  pollPauses_le := hwithin.filter_isPolling.countP_pauses_le.trans
    (Nat.mul_le_mul_right _ operation.loops_le_two)
  pauses_le := hwithin.countP_pauses_le.trans (Nat.le_add_right _ _)
  timedOut_iff := exists_timeout_iff.trans htimedOut
  resetStops part hpart htimeout := hreset part hpart (htimedOut.mpr htimeout)
  count_le := List.countP_le_length.trans hwithin.length_le
  messages_le _ := by
    have hzero : (slot.options.eventsOf stretches).countP Event.isMessage = 0 := by
      simpa using hquiet
    exact hzero ▸ Nat.zero_le _
  breaks cause hmap := hbreaks cause (eq_error_of_map hmap)

end Polling

/-- Every way in which an operation can go is within the bounds. -/
theorem Course.bounded {slot : Slot} {operation : BusOperation} {stretches : List Stretch}
    {outcome : Except Fault (Except Error Unit × Slot)} (h : Course slot operation stretches outcome)
    (hquiet : operation.loops ≠ 0 →
      ∀ event ∈ slot.options.eventsOf stretches, event.isMessage = false) :
    Bounded slot operation stretches outcome := by
  cases h with
  | loopFree _ hfree => exact hfree.bounded
  | resetHost hcourse =>
    refine .of_within hcourse.within (hquiet one_ne_zero) hcourse.timedOut_iff
      (fun _ _ => hcourse.writes_eq) ?_
    rintro cause rfl
    cases hcourse
  | @setClock khz _ _ hcourse =>
    refine .of_within hcourse.within (hquiet one_ne_zero) hcourse.timedOut_iff ?_ ?_
    · rintro part ⟨⟩
    · rintro cause rfl
      cases hcourse with
      | broken _ hfind =>
        have hsearch : ClockDivisor.Search slot.capabilities.baseClockKHz khz
            slot.capabilities.specVersion (Timing.divisorFor slot khz) := ClockDivisor.search_find _ _ _
        rw [hfind] at hsearch
        cases hsearch with
        | stopped hlargest hspec => exact .overflow hlargest.1 hlargest.2 hspec
  | setVoltage hcourse =>
    refine .of_within hcourse.within (hquiet two_ne_zero) hcourse.timedOut_iff ?_ ?_
    · rintro part ⟨⟩
    · rintro cause rfl
      cases hcourse

theorem ensures_bounded (slot : Slot) (operation : BusOperation) :
    ((Slot.performBusOperation operation).start slot).Ensures (fun _ => True) fun events outcome =>
      ∃ stretches, events = slot.options.eventsOf stretches ∧
        Course slot operation stretches outcome ∧ Bounded slot operation stretches outcome := by
  by_cases hloops : operation.loops = 0
  · refine (ensures_course slot operation).mono ?_
    rintro _ outcome ⟨stretches, hcourse, rfl⟩
    exact ⟨stretches, rfl, hcourse, hcourse.bounded fun hne => absurd hloops hne⟩
  -- only the switch of the signals makes calls, and it has no loop
  have hne : ∀ voltage, operation ≠ .setSignalingVoltage voltage := by
    rintro voltage rfl
    exact hloops rfl
  have hmaintains : Task.Maintains (Event.WritesAmong operation.places) (fun _ => True)
      (Slot.performBusOperation operation) := Slot.maintains_performBusOperation_of_ne hne
  refine ((ensures_course slot operation).and (hmaintains slot trivial)).mono ?_
  rintro _ outcome ⟨⟨stretches, hcourse, rfl⟩, hamong, -⟩
  exact ⟨stretches, rfl, hcourse,
    hcourse.bounded fun _ event hevent => (hamong event hevent).isMessage_eq⟩

end BusOperation

/-- **No operation hangs.** Take any operation on any slot and any state of what surrounds the slot,
whatever the registers read for ever. The operation goes in one of its ways, and it keeps within the
bounds. -/
theorem Slot.performBusOperation_bounded {σ : Type} (host : Host σ) (slot : Slot)
    (operation : BusOperation) (state : σ) :
    ∃ stretches,
      ((performBusOperation operation).start slot).history host state =
        slot.options.eventsOf stretches ∧
      operation.Course slot stretches
        (((performBusOperation operation).start slot).run host state).1 ∧
      operation.Bounded slot stretches
        (((performBusOperation operation).start slot).run host state).1 :=
  (BusOperation.ensures_bounded slot operation).run (fun _ _ => trivial) state

end SdHost
