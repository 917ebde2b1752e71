import SdHost.Bench.World
import SdHost.Proofs.Transfer.Invariant
import SdHost.Proofs.Transfer.Steps
import SdHost.Slot.Events

/-!
# How often the framework is told that a step is done

A step of a request begins when it is issued, and what it waits for comes with interrupts. The
framework should be told once that the step is done. It is told with the interrupt that brings the
last event the step waits for, and then once more with every interrupt that is accounted to the
request before it is issued again, even if no event comes with it.
-/

namespace SdHost

open Program (Asks)
open SdHost.Task (Maintains)

/-- How many of the events tell the framework that a step is done. -/
def timesCompleted (events : List Event) : Nat :=
  events.countP Event.completes

theorem timesCompleted_append (first second : List Event) :
    timesCompleted (first ++ second) = timesCompleted first + timesCompleted second :=
  List.countP_append

theorem timesCompleted_eq_zero {events : List Event}
    (h : ∀ event ∈ events, event.completes = false) : timesCompleted events = 0 := by
  rw [timesCompleted, List.countP_eq_zero]
  intro event hevent
  rw [h event hevent]
  exact Bool.false_ne_true

namespace Transfer

/-! ## Issuing a step -/

/-- A step that comes to a good end has told the framework so, if it is done, and else waits for an
interrupt. -/
def Reported (events : List Event) :
    Except Fault (Except Error Progress × Transfer) → Prop
  | .ok (.ok .pending, t) => timesCompleted events = 0 ∧ t.request.requiredEvents ≠ 0
  | .ok (.ok .completed, _) => timesCompleted events = 1
  | _ => True

/-- The end of a step reports it, from wherever it starts. -/
def Reports (task : Task Transfer Progress) : Prop :=
  ∀ t, (task.start t).Ensures (fun _ => True) Reported

/-- Nothing is lost by what comes before and says nothing. -/
theorem Reported.append {before events : List Event}
    {outcome : Except Fault (Except Error Progress × Transfer)}
    (hbefore : ∀ event ∈ before, event.completes = false) (h : Reported events outcome) :
    Reported (before ++ events) outcome := by
  have hcount : timesCompleted (before ++ events) = timesCompleted events := by
    rw [timesCompleted_append, timesCompleted_eq_zero hbefore, Nat.zero_add]
  rcases outcome with cause | ⟨cause | progress, t⟩
  · trivial
  · trivial
  · cases progress with
    | pending => exact ⟨hcount.trans h.1, h.2⟩
    | completed => exact hcount.trans h

theorem Reports.bind {α : Type} {task : Task Transfer α} {next : α → Task Transfer Progress}
    (h : Maintains (fun event => event.completes = false) (fun _ => True) task)
    (hnext : ∀ value, Reports (next value)) : Reports (task >>= next) := by
  intro t
  rw [Task.start_bind, Program.ensures_bind]
  refine (h t trivial).mono ?_
  rintro events (cause | ⟨cause | value, t'⟩) ⟨hevents, -⟩
  · trivial
  · trivial
  · exact (hnext value t').mono fun later outcome hlater => hlater.append hevents

theorem Reports.throw_bind {α : Type} (cause : Error) (next : α → Task Transfer Progress) :
    Reports (throwThe Error cause >>= next) := by
  intro t
  rw [Task.start_bind]
  trivial

theorem Reports.ite {condition : Prop} [Decidable condition] {first second : Task Transfer Progress}
    (hfirst : condition → Reports first) (hsecond : ¬ condition → Reports second) :
    Reports (if condition then first else second) := by
  split
  next h => exact hfirst h
  next h => exact hsecond h

/-- Once an event is waited for, something is waited for. -/
theorem or_ne_zero_right (before : Word) {events : Word} (h : events ≠ 0) :
    before ||| events ≠ 0 := by
  intro hzero
  exact h (BitVec.or_eq_zero_iff.mp hzero).2

/-- Every command is waited for. -/
theorem firstEvents_ne_zero (command : Command) (phase : Option (Direction × DataPhase)) :
    firstEvents command phase ≠ 0 := by
  intro hzero
  have hcommand := (BitVec.or_eq_zero_iff.mp (BitVec.or_eq_zero_iff.mp hzero).1).1
  exact absurd hcommand (by decide)

theorem blockMoved_ne_zero (request : Request) (direction : Direction) :
    (blockMoved request direction).requiredEvents ≠ 0 := by
  rw [blockMoved]
  split
  · exact or_ne_zero_right _ (by decide)
  · exact or_ne_zero_right _ (by cases direction <;> decide)

theorem reports_sendCommand : Reports sendCommand := by
  intro t
  -- neither setting up the data phase nor the accesses tell the framework anything
  have hset : Maintains (fun event => event.completes = false) (fun _ => True)
      (setUpDataPhase t.request.command) :=
    maintains_setUpDataPhase (fun _ => Event.completes_of_transfers) (fun _ _ _ => trivial)
      (maintains_setUpPio (fun _ => Event.completes_of_transfers) fun _ _ _ _ => trivial) _
  rw [start_sendCommand, Program.ensures_bind]
  refine (hset t.fresh trivial).mono ?_
  rintro events (cause | ⟨cause | phase, t'⟩) ⟨hevents, -⟩
  · trivial
  · trivial
  simp only [Program.ensures_bind]
  refine (asks_writeCommand (fun _ => Event.completes_of_transfers) t.request.command phase).mono ?_
  rintro later (cause | ⟨⟩) hlater
  · trivial
  have hpending : Reported [] (.ok (.ok .pending,
      { t' with request.requiredEvents := firstEvents t.request.command phase })) :=
    ⟨rfl, firstEvents_ne_zero _ _⟩
  exact (hpending.append hlater).append hevents

theorem reports_continuePio : Reports continuePio := by
  intro t
  by_cases hcount : t.request.command.blockCount = 0
  · rw [start_continuePio_zero hcount]
    trivial
  cases hdirection : t.request.command.direction with
  | none =>
    simp only [continuePio, Task.start_bind, Task.start_get, Program.done_bind, if_neg hcount,
      hdirection, start_require_none, Program.ensures_done]
    trivial
  | some direction =>
    rw [start_continuePio hcount hdirection, Program.ensures_bind]
    -- moving the block tells the framework nothing, and then an event is waited for
    have hmove : Maintains (fun event => event.completes = false) (fun _ => True)
        (moveBlock t.request.command direction) :=
      maintains_moveBlock (fun _ => Event.completes_of_transfers) (fun _ _ _ => trivial) _ _
    refine (hmove t trivial).mono ?_
    rintro events (cause | ⟨cause | ⟨⟩, t'⟩) ⟨hevents, -⟩
    · trivial
    · trivial
    have hpending : Reported [] (.ok (.ok .pending,
        { t' with request := blockMoved t'.request direction })) :=
      ⟨rfl, blockMoved_ne_zero _ _⟩
    exact hpending.append hevents

theorem reports_finish : Reports finish := by
  intro t
  rw [start_finish]
  intro _ _
  rfl

theorem reports_finishBounce : Reports finishBounce := by
  refine Reports.bind .get fun t => Reports.bind .get fun t' => ?_
  refine Reports.bind (.modify fun _ _ => trivial) fun _ => ?_
  refine .ite (fun _ => ?_) fun _ => reports_finish
  -- what was read is copied before the framework is told
  refine Reports.bind (maintains_require _ _) fun pages => ?_
  refine Reports.bind (maintains_require _ _) fun source => ?_
  refine Reports.bind (maintains_require _ _) fun buffer => ?_
  refine Reports.bind (maintains_require _ _).discard fun _ => ?_
  exact Reports.bind (.modify fun _ _ => trivial) fun _ => reports_finish

/-- Every step that is issued reports its end. -/
theorem reports_step : Reports step := by
  refine Reports.bind (.modify fun _ _ => trivial) fun _ => Reports.bind .get fun t => ?_
  cases t.request.requestType with
  | commandNoTransfer => exact reports_sendCommand
  | commandWithTransfer => exact reports_sendCommand
  | startTransfer =>
    refine Reports.bind .get fun t => ?_
    cases t.request.command.method with
    | scatterGather =>
      refine Reports.bind .get fun t => ?_
      exact .ite (fun _ => .throw_bind _ _) fun _ => reports_finish
    | pio => exact .ite (fun _ => reports_finishBounce) fun _ => reports_continuePio

end Transfer

namespace Request

/-! ## Accounting for interrupts -/

/-- Account for interrupts without errors, one after the other. -/
def accountAll (request : Request) (calls : List Word) : Program Request :=
  calls.foldlM (fun request events => request.account events 0) request

/-- All events that come with a list of calls. -/
def allEvents (calls : List Word) : Word :=
  calls.foldr (· ||| ·) 0

/-- The calls bring every event of a mask. -/
def SettledBy (mask : Word) (calls : List Word) : Prop :=
  mask &&& ~~~allEvents calls = 0

instance (mask : Word) (calls : List Word) : Decidable (SettledBy mask calls) :=
  inferInstanceAs (Decidable (_ = _))

theorem settledBy_nil (mask : Word) : SettledBy mask [] ↔ mask = 0 := by
  show mask &&& ~~~0#32 = 0 ↔ mask = 0
  rw [BitVec.not_zero, BitVec.and_allOnes]

/-- The first call is accounted for by what it leaves of the mask. -/
theorem and_not_allEvents_cons (mask events : Word) (calls : List Word) :
    mask &&& ~~~allEvents (events :: calls) = mask &&& ~~~events &&& ~~~allEvents calls := by
  rw [allEvents, List.foldr_cons, BitVec.not_or, BitVec.and_assoc]
  rfl

theorem settledBy_cons (mask events : Word) (calls : List Word) :
    SettledBy mask (events :: calls) ↔ SettledBy (mask &&& ~~~events) calls := by
  rw [SettledBy, SettledBy, and_not_allEvents_cons]

/-- What is settled stays so. -/
theorem SettledBy.append {mask : Word} {calls : List Word} (h : SettledBy mask calls)
    (more : List Word) : SettledBy mask (calls ++ more) := by
  induction calls generalizing mask with
  | nil =>
    rw [(settledBy_nil mask).mp h]
    exact BitVec.zero_and
  | cons events calls ih =>
    rw [settledBy_cons] at h
    rw [List.cons_append, settledBy_cons]
    exact ih h

/-- How many of the calls find nothing left of a mask. -/
def settlings (mask : Word) (calls : List Word) : Nat :=
  (List.range calls.length).countP fun n => SettledBy mask (calls.take (n + 1))

/-- One call tells the framework if it leaves nothing of what is waited for. -/
theorem ensures_account (request : Request) (events : Word) :
    (request.account events 0).Ensures (fun _ => True) fun history outcome =>
      ∃ request', outcome = .ok request' ∧
        request'.requiredEvents = request.requiredEvents &&& ~~~events ∧
        timesCompleted history =
          if SettledBy (request.requiredEvents &&& ~~~events) [] then 1 else 0 := by
  rw [account, if_neg (by decide)]
  by_cases hsettled : request.requiredEvents &&& ~~~events = 0
  · rw [if_pos ((settledBy_nil _).mpr hsettled), clearRequiredEvents, if_pos hsettled]
    intro _ _
    exact ⟨_, rfl, rfl, rfl⟩
  · rw [if_neg (mt (settledBy_nil _).mp hsettled), clearRequiredEvents, if_neg hsettled]
    exact ⟨_, rfl, rfl, rfl⟩

/-- A list of calls tells the framework with the call that brings the last event, and with every
call after it. -/
theorem ensures_accountAll (request : Request) (calls : List Word) :
    (request.accountAll calls).Ensures (fun _ => True) fun history outcome =>
      ∃ request', outcome = .ok request' ∧
        request'.requiredEvents = request.requiredEvents &&& ~~~allEvents calls ∧
        timesCompleted history = settlings request.requiredEvents calls := by
  induction calls generalizing request with
  | nil =>
    refine ⟨request, rfl, ?_, rfl⟩
    show _ = request.requiredEvents &&& ~~~0#32
    rw [BitVec.not_zero, BitVec.and_allOnes]
  | cons events calls ih =>
    rw [accountAll, List.foldlM_cons, Program.ensures_bind]
    -- the calls that follow are accounted to what the first one leaves of the mask
    refine (ensures_account request events).mono ?_
    rintro first _ ⟨middle, rfl, hmask, hfirst⟩
    refine (ih middle).mono ?_
    rintro later _ ⟨request', rfl, hleft, hlater⟩
    refine ⟨request', rfl, ?_, ?_⟩
    · rw [hleft, hmask, and_not_allEvents_cons]
    · rw [timesCompleted_append, hfirst, hlater, hmask, settlings, settlings,
        List.length_cons, List.range_succ_eq_map, List.countP_cons, List.countP_map, Nat.add_comm]
      simp only [Function.comp_def, List.take_succ_cons, settledBy_cons, List.take_zero,
        decide_eq_true_eq]

/-! ## Counting the calls that tell the framework -/

theorem settlings_concat (mask : Word) (calls : List Word) (events : Word) :
    settlings mask (calls ++ [events]) =
      settlings mask calls + if SettledBy mask (calls ++ [events]) then 1 else 0 := by
  rw [settlings, List.length_append, List.length_singleton, List.range_succ, List.countP_append,
    List.countP_singleton, List.take_of_length_le (by simp)]
  -- the calls before the last are those of the shorter list
  have hbefore : ∀ n ∈ List.range calls.length,
      SettledBy mask ((calls ++ [events]).take (n + 1)) ↔ SettledBy mask (calls.take (n + 1)) := by
    intro n hn
    rw [List.take_append_of_le_length (List.mem_range.mp hn)]
  congr 1
  · refine List.countP_congr fun n hn => ?_
    simpa using hbefore n hn
  · simp

/-- No call finds nothing left as long as something is left at the end. -/
theorem settlings_eq_zero_iff (mask : Word) (calls : List Word) :
    settlings mask calls = 0 ↔ calls = [] ∨ ¬ SettledBy mask calls := by
  induction calls using List.reverseRecOn with
  | nil => exact ⟨fun _ => .inl rfl, fun _ => rfl⟩
  | append_singleton calls events ih =>
    rw [settlings_concat]
    by_cases hsettled : SettledBy mask (calls ++ [events])
    · simp [hsettled]
    · have hbefore : ¬ SettledBy mask calls := fun h => hsettled (h.append [events])
      simp [hsettled, ih.mpr (.inr hbefore)]

/-- At most one call finds nothing left if something is left before the last. -/
theorem settlings_le_one_iff (mask : Word) (calls : List Word) :
    settlings mask calls ≤ 1 ↔ calls.dropLast = [] ∨ ¬ SettledBy mask calls.dropLast := by
  rcases List.eq_nil_or_concat' calls with rfl | ⟨before, events, rfl⟩
  · simp [settlings]
  rw [settlings_concat, List.dropLast_concat, ← settlings_eq_zero_iff]
  by_cases hzero : settlings mask before = 0
  · simp only [hzero, iff_true]
    split <;> decide
  · -- a call before the last found nothing left, and so the last finds nothing either
    have hsettled : SettledBy mask before := by
      by_contra hnot
      exact hzero ((settlings_eq_zero_iff mask before).mpr (.inr hnot))
    rw [if_pos (hsettled.append [events])]
    omega

end Request

/-- **How often the framework is told that a step is done.** Take a step that was issued, and all calls
that account for interrupts without errors until the request is issued again. The framework is told
once by the issue, if that was the end of the step, and once more by every call that finds nothing
left to wait for. The first such call is the one that brings the last event, but it is not the only
one: so is every call after it, whatever comes with it.

So the framework is told once at most exactly if no call follows the one that ends the step. -/
theorem completions_of_step {σ : Type} {host : Host σ} {slot slot' : Slot}
    {request request' : Request} {progress : Progress} {state after : σ}
    (hissue : (slot.issueRequest request).run host state =
      (.ok (.ok progress, slot', request'), after)) (calls : List Word) (between : σ) :
    ∃ request'' later,
      (request'.accountAll calls).run host between = (.ok request'', later) ∧
      request''.requiredEvents = request'.requiredEvents &&& ~~~Request.allEvents calls ∧
      let times := timesCompleted ((slot.issueRequest request).history host state) +
        timesCompleted ((request'.accountAll calls).history host between)
      times = (if progress = .completed then 1 else 0) +
        Request.settlings request'.requiredEvents calls ∧
      (progress = .pending →
        (1 ≤ times ↔ request''.requiredEvents = 0) ∧
        (times ≤ 1 ↔ ¬ Request.SettledBy request'.requiredEvents calls.dropLast)) ∧
      (progress = .completed →
        (times ≤ 1 ↔ calls = [] ∨ ¬ Request.SettledBy request'.requiredEvents calls)) := by
  have hstep := (Transfer.reports_step _).of_run (Slot.run_step_of_issueRequest hissue)
  rw [Slot.issueRequest_eq, Program.history_bind_done]
  cases hrun : (request'.accountAll calls).run host between with
  | mk outcome later =>
  obtain ⟨request'', rfl, hmask, hcalls⟩ := (Request.ensures_accountAll request' calls).of_run hrun
  refine ⟨request'', later, rfl, hmask, ?_⟩
  have hsettled : request''.requiredEvents = 0 ↔ Request.SettledBy request'.requiredEvents calls := by
    rw [hmask, Request.SettledBy]
  intro times
  cases progress with
  | pending =>
    obtain ⟨hissued, hwaits⟩ := hstep
    -- as something is waited for, no calls at all settle nothing
    have hnil : ¬ Request.SettledBy request'.requiredEvents [] := mt (Request.settledBy_nil _).mp hwaits
    have htimes : times = Request.settlings request'.requiredEvents calls := by
      show timesCompleted _ + timesCompleted _ = _
      rw [hissued, hcalls, Nat.zero_add]
    refine ⟨by rw [htimes]; exact (Nat.zero_add _).symm, fun _ => ⟨?_, ?_⟩, by rintro ⟨⟩⟩
    · rw [hsettled, htimes, Nat.one_le_iff_ne_zero, Ne, Request.settlings_eq_zero_iff, not_or,
        not_not]
      refine ⟨And.right, fun h => ⟨?_, h⟩⟩
      rintro rfl
      exact hnil h
    · rw [htimes, Request.settlings_le_one_iff]
      refine ⟨?_, .inr⟩
      rintro (hempty | hnot)
      · rw [hempty]
        exact hnil
      · exact hnot
  | completed =>
    -- the issue told the framework itself
    have htimes : times = 1 + Request.settlings request'.requiredEvents calls := by
      show timesCompleted _ + timesCompleted _ = _
      rw [hstep, hcalls]
    refine ⟨htimes, by rintro ⟨⟩, fun _ => ?_⟩
    rw [htimes, ← Request.settlings_eq_zero_iff]
    omega

namespace Answered

/-- A bench with nothing in its registers. -/
def world : Bench.World where
  registers := { bytes := Memory.zeroed registerBlockSize }

/-- A bench on which a card was inserted. -/
def inserted : Bench.World where
  registers := { bytes := Memory.store (Memory.zeroed registerBlockSize) 0x30 [0x40] }

/-- A slot. -/
def slot : Slot where
  controller := .standard false

/-- A command without data, which waits for its answer only. -/
def request : Request :=
  .new { index := 7, argument := 0, responseType := .r1 }

end Answered

/-- A command is answered, on the bench, and the framework is told once. -/
theorem completions_of_step_answered :
    ∃ slot' request' after,
      (Answered.slot.issueRequest Answered.request).run Bench.World.host Answered.world =
        (.ok (.ok .pending, slot', request'), after) ∧
      request'.requiredEvents = Transfer.commandComplete ∧
      timesCompleted ((Answered.slot.issueRequest Answered.request).history Bench.World.host
        Answered.world) +
        timesCompleted ((request'.accountAll [Transfer.commandComplete]).history Bench.World.host
          after) = 1 := by
  have hissue : ∃ slot' request' after,
      (Answered.slot.issueRequest Answered.request).run Bench.World.host Answered.world =
        (.ok (.ok .pending, slot', request'), after) ∧
      request'.requiredEvents = Transfer.commandComplete := ⟨_, _, _, rfl, rfl⟩
  obtain ⟨slot', request', after, hissue, hmask⟩ := hissue
  obtain ⟨_, _, -, -, htimes, -⟩ := completions_of_step hissue [Transfer.commandComplete] after
  rw [hmask] at htimes
  exact ⟨slot', request', after, hissue, hmask, htimes⟩

set_option maxRecDepth 4000 in
/-- Once the command has its answer, a card is inserted. The interrupt comes with no event that a
request could wait for, and still the framework is told again. -/
theorem completed_again_by_card_insertion :
    ∃ slot' request' after snapshot,
      (Answered.slot.issueRequest Answered.request).run Bench.World.host Answered.world =
        (.ok (.ok .pending, slot', request'), after) ∧
      (Slot.takeInterrupts.run Bench.World.host Answered.inserted).1 = .ok (some snapshot) ∧
      snapshot.cardChange = true ∧ snapshot.events = 0 ∧ snapshot.errors = 0 ∧
      timesCompleted ((Answered.slot.issueRequest Answered.request).history Bench.World.host
        Answered.world) +
        timesCompleted ((request'.accountAll
          [Transfer.commandComplete, snapshot.events.setWidth 32]).history Bench.World.host
            after) = 2 :=
  ⟨_, _, _, _, rfl, rfl, rfl, rfl, rfl, rfl⟩

end SdHost
