import SdHost.Proofs.Host.Storage
import SdHost.Proofs.Register.Field
import SdHost.Slot.Events

/-!
# Taking interrupts

Interrupts come at any time, also while those that came before are being taken. A look at the
register of the normal interrupts finds those that are pending, and the same ones are acknowledged at
the end. So nothing is acknowledged that was not seen, and what comes in between is found by the next
look.

The module introduces:

* `StatusHardware`: hardware that latches interrupts between any two queries;
* `StatusHardware.Served`: interrupts that are latched and taken in any order;
* `Snapshot.reports`, `Snapshot.Shows`: which interrupts a snapshot reports, and of which it tells.

`no_interrupt_lost` says that what was ever latched was reported or is still pending.
-/

namespace SdHost

variable {σ α β : Type}

/-! ## What a snapshot tells -/

/-- Without the summary of the errors, a status has the same bits. -/
theorem NormalEvents.getLsbD_put_errorInterrupt (status : HalfWord) (i : Nat) :
    (errorInterrupt.put false status).getLsbD i = (decide (i ≠ 15) && status.getLsbD i) := by
  rw [Field.put, Field.getLsbD_set]
  by_cases hi : i = 15
  · simp [hi, errorInterrupt, Field.flag, Field.Covers]
  · have hcovers : ¬ errorInterrupt.Covers i := by
      simp only [errorInterrupt, Field.flag, Field.Covers]
      omega
    simp [hi, hcovers]

theorem NormalEvents.put_errorInterrupt_or (a b : HalfWord) :
    errorInterrupt.put false (a ||| b) =
      errorInterrupt.put false a ||| errorInterrupt.put false b := by
  refine BitVec.eq_of_getLsbD_eq fun i _ => ?_
  simp only [getLsbD_put_errorInterrupt, BitVec.getLsbD_or, Bool.and_or_distrib_left]

theorem NormalEvents.put_errorInterrupt_and (a b : HalfWord) :
    errorInterrupt.put false (a &&& b) = errorInterrupt.put false a &&& b := by
  refine BitVec.eq_of_getLsbD_eq fun i _ => ?_
  simp only [getLsbD_put_errorInterrupt, BitVec.getLsbD_and, Bool.and_assoc]

namespace Snapshot

/-- The snapshot tells that the interrupt was pending. Insertion and removal of a card are told
together. -/
def reports (snapshot : Snapshot) (i : Nat) : Bool :=
  snapshot.events.getLsbD i ||
    (i == NormalEvents.cardInsertion.lsb || i == NormalEvents.cardRemoval.lsb) &&
      snapshot.cardChange ||
    i == NormalEvents.cardInterrupt.lsb && snapshot.cardInterrupt ||
    i == NormalEvents.retuning.lsb && snapshot.tuning

/-- The snapshot reports all of some interrupts, and nothing without one of them. -/
structure Shows (snapshot : Snapshot) (bits : HalfWord) : Prop where
  /-- Every interrupt is reported. -/
  reported : ∀ i, bits.getLsbD i = true → snapshot.reports i = true
  /-- An interrupt that is not told apart is one of them. -/
  events_set : ∀ i, snapshot.events.getLsbD i = true → bits.getLsbD i = true
  /-- A card came or went. -/
  cardChange_set : snapshot.cardChange = true →
    NormalEvents.cardInsertion.test bits = true ∨ NormalEvents.cardRemoval.test bits = true
  /-- The card asked for attention. -/
  cardInterrupt_set : snapshot.cardInterrupt = true → NormalEvents.cardInterrupt.test bits = true
  /-- The clock should be tuned. -/
  tuning_set : snapshot.tuning = true → NormalEvents.retuning.test bits = true

/-- What is made of the registers. -/
def ofStatus (status errors : HalfWord) : Snapshot where
  events := status &&& ~~~unrelatedEvents
  errors
  cardChange := NormalEvents.cardInsertion.test status || NormalEvents.cardRemoval.test status
  cardInterrupt := NormalEvents.cardInterrupt.test status
  tuning := NormalEvents.retuning.test status

/-- The interrupts that are told apart from the others, and the summary of the errors. -/
theorem eq_of_getLsbD_unrelatedEvents {i : Nat} (h : unrelatedEvents.getLsbD i = true) :
    i = 6 ∨ i = 7 ∨ i = 8 ∨ i = 12 ∨ i = 15 := by
  have hall : ∀ i < 16, unrelatedEvents.getLsbD i = true →
      i = 6 ∨ i = 7 ∨ i = 8 ∨ i = 12 ∨ i = 15 := by decide
  exact hall i (BitVec.lt_of_getLsbD h) h

/-- The summary of the errors is not told as an interrupt, and everything else is. -/
theorem shows_ofStatus (status errors : HalfWord) :
    (ofStatus status errors).Shows (NormalEvents.errorInterrupt.put false status) := by
  have htest : ∀ field : Field 16, field.lsb ≠ 15 →
      field.test (NormalEvents.errorInterrupt.put false status) = field.test status := by
    intro field hfield
    simp [Field.test, NormalEvents.getLsbD_put_errorInterrupt, hfield]
  constructor
  case reported =>
    intro i hi
    rw [NormalEvents.getLsbD_put_errorInterrupt, Bool.and_eq_true, decide_eq_true_eq] at hi
    obtain ⟨hne, hstatus⟩ := hi
    by_cases hunrelated : unrelatedEvents.getLsbD i = true
    · rcases eq_of_getLsbD_unrelatedEvents hunrelated with rfl | rfl | rfl | rfl | rfl
      · simp [reports, ofStatus, NormalEvents.cardInsertion, Field.test, Field.flag, hstatus]
      · simp [reports, ofStatus, NormalEvents.cardRemoval, Field.test, Field.flag, hstatus]
      · simp [reports, ofStatus, NormalEvents.cardInterrupt, Field.test, Field.flag, hstatus]
      · simp [reports, ofStatus, NormalEvents.retuning, Field.test, Field.flag, hstatus]
      · exact absurd rfl hne
    · have hlt := BitVec.lt_of_getLsbD hstatus
      have hevents : (ofStatus status errors).events.getLsbD i = true := by
        rw [ofStatus, BitVec.getLsbD_and, BitVec.getLsbD_not, hstatus,
          Bool.eq_false_of_not_eq_true hunrelated]
        simp [hlt]
      rw [reports, hevents]
      rfl
  case events_set =>
    intro i hi
    simp only [ofStatus, BitVec.getLsbD_and, BitVec.getLsbD_not, Bool.and_eq_true] at hi
    rw [NormalEvents.getLsbD_put_errorInterrupt, Bool.and_eq_true, decide_eq_true_eq]
    refine ⟨?_, hi.1⟩
    rintro rfl
    exact absurd hi.2.2 (by decide)
  case cardChange_set =>
    intro h
    rw [htest _ (by decide), htest _ (by decide)]
    exact Bool.or_eq_true_iff.mp h
  case cardInterrupt_set =>
    intro h
    rw [htest _ (by decide)]
    exact h
  case tuning_set =>
    intro h
    rw [htest _ (by decide)]
    exact h

end Snapshot

/-! ## Hardware that latches interrupts -/

/-- The bits of some words, all together. -/
def together (words : List HalfWord) : HalfWord :=
  words.foldr (· ||| ·) 0

@[simp]
theorem together_nil : together [] = 0 := rfl

@[simp]
theorem together_cons (word : HalfWord) (words : List HalfWord) :
    together (word :: words) = word ||| together words := rfl

theorem together_append (words words' : List HalfWord) :
    together (words ++ words') = together words ||| together words' := by
  induction words with
  | nil => simp
  | cons word words ih => rw [List.cons_append, together_cons, together_cons, ih, BitVec.or_assoc]

/-- If what was pending is acknowledged, what was pending and what came since is acknowledged or
still pending. -/
theorem or_and_not (pending late : HalfWord) :
    pending ||| (pending ||| late) &&& ~~~pending = pending ||| late := by
  ext i
  simp only [BitVec.getElem_or, BitVec.getElem_and, BitVec.getElem_not]
  cases pending[i] <;> simp

/-- Hardware that may latch normal interrupts whenever it has answered a query, until it answers the
next. A write to their register clears those that are set in what is written. The summary of the
errors is no interrupt of its own. -/
structure StatusHardware (host : Host σ) where
  /-- The interrupts that are pending. -/
  pending : σ → HalfWord
  /-- The interrupts that come before the query is answered. -/
  raised : Query → σ → HalfWord
  /-- A read tells what is pending, and whether there are errors. -/
  read_reply : ∀ state,
    NormalEvents.errorInterrupt.put false
        (host.answer (.read .half RegisterMap.normalStatus.offset) state).1 =
      pending state ||| raised (.read .half RegisterMap.normalStatus.offset) state
  /-- A write clears the interrupts that it sets. -/
  pending_write : ∀ (value : HalfWord) (state : σ),
    pending (host.answer (.write .half RegisterMap.normalStatus.offset value) state).2 =
      (pending state ||| raised (.write .half RegisterMap.normalStatus.offset value) state) &&&
        ~~~value
  /-- Nothing else clears any. -/
  pending_other : ∀ query state, ¬ query.Reaches RegisterMap.normalStatus →
    pending (host.answer query state).2 = pending state ||| raised query state

namespace StatusHardware

variable {host : Host σ} (hardware : StatusHardware host)

/-- The interrupts that come while a program runs, query by query. -/
def raisings : Program α → σ → List HalfWord
  | .done _, _ => []
  | .fault _, _ => []
  | .ask query next, state =>
    hardware.raised query state ::
      raisings (next (host.answer query state).1) (host.answer query state).2

theorem raisings_bind_of_ok {program : Program α} {state after : σ} {value : α}
    (hrun : program.run host state = (.ok value, after)) (next : α → Program β) :
    hardware.raisings (program >>= next) state =
      hardware.raisings program state ++ hardware.raisings (next value) after := by
  induction program generalizing state with
  | done => cases hrun; rfl
  | fault => cases hrun
  | ask query rest ih => exact congrArg _ (ih _ hrun)

/-- What does not write the register clears nothing. -/
theorem pending_of_unreached (program : Program α) (state : σ)
    (h : ∀ event ∈ program.history host state, ¬ event.query.Reaches RegisterMap.normalStatus) :
    hardware.pending (program.run host state).2 =
      hardware.pending state ||| together (hardware.raisings program state) := by
  induction program generalizing state with
  | done => simp [raisings]
  | fault => simp [raisings]
  | ask query next ih =>
    rw [Program.history_ask] at h
    obtain ⟨hquery, hrest⟩ := List.forall_mem_cons.mp h
    rw [Program.run_ask, ih _ _ hrest, hardware.pending_other query state hquery, raisings,
      together_cons, BitVec.or_assoc]

/-- What writes the register at the end, and only there, clears what it writes. -/
theorem pending_of_acknowledged {program : Program α} {state : σ} (before : List Event)
    {value : HalfWord}
    (h : program.history host state =
      before ++ [⟨.write .half RegisterMap.normalStatus.offset value, ()⟩])
    (hbefore : ∀ event ∈ before, ¬ event.query.Reaches RegisterMap.normalStatus) :
    hardware.pending (program.run host state).2 =
      (hardware.pending state ||| together (hardware.raisings program state)) &&& ~~~value := by
  induction program generalizing state before with
  | done => simp at h
  | fault => simp at h
  | ask query next ih =>
    rw [Program.history_ask] at h
    cases before with
    | nil =>
      obtain ⟨hevent, hrest⟩ := List.cons.inj h
      obtain rfl : query = .write .half RegisterMap.normalStatus.offset value :=
        congrArg Event.query hevent
      -- the program is over then
      cases hnext :
          next (host.answer (.write .half RegisterMap.normalStatus.offset value) state).1 with
      | done => simp [hnext, raisings, hardware.pending_write]
      | fault => simp [hnext, raisings, hardware.pending_write]
      | ask => simp [hnext] at hrest
    | cons event before =>
      obtain ⟨hevent, hrest⟩ := List.cons.inj h
      obtain ⟨hquery, hbefore⟩ := List.forall_mem_cons.mp hbefore
      rw [← hevent] at hquery
      rw [Program.run_ask, ih _ before hrest hbefore, hardware.pending_other query state hquery,
        raisings, together_cons, BitVec.or_assoc]

end StatusHardware

/-! ## A look at the interrupts -/

namespace Slot

/-- What comes between the look at the normal interrupts and their acknowledgement: errors are read
and acknowledged, if there are any. -/
def settleErrors (status : HalfWord) : Program HalfWord := do
  let errors ←
    if NormalEvents.errorInterrupt.test status then RegisterMap.errorStatus.read
    else pure (0 : HalfWord)
  if NormalEvents.errorInterrupt.test status then
    RegisterMap.autoCommandErrors.write 0xFFFF
    RegisterMap.autoCommandErrors.write 0
    RegisterMap.errorStatus.write 0xFFFF
  return errors

/-- What comes after the look. -/
def report (status : HalfWord) : Program (Option Snapshot) :=
  if status = 0 ∨ status = 0xFFFF then .done none
  else settleErrors status >>= fun errors =>
    RegisterMap.normalStatus.write (NormalEvents.errorInterrupt.put false status) >>= fun _ =>
      .done (some (Snapshot.ofStatus status errors))

/-- The normal interrupts are read first and acknowledged last. -/
theorem takeInterrupts_eq : takeInterrupts = RegisterMap.normalStatus.read >>= report := by
  rw [takeInterrupts]
  congr 1
  funext status
  rw [report]
  split
  · rfl
  have hmask : (status.setWidth 32).setWidth 16 = status := by
    rw [BitVec.setWidth_setWidth_of_le _ (by decide), BitVec.setWidth_eq]
  simp only [acknowledge, settleErrors, hmask]
  split <;> rfl

/-- Settling the errors leaves the register of the normal interrupts alone. -/
theorem ensures_settleErrors (status : HalfWord) :
    (settleErrors status).Ensures (fun _ => True) fun events outcome =>
      (∀ event ∈ events, ¬ event.query.Reaches RegisterMap.normalStatus) ∧
        ∃ errors, outcome = .ok errors := by
  rw [settleErrors]
  split
  · intro _ _ errors _ _ _ _ _ _ _ _ _ _ _ _ _
    refine ⟨?_, errors, rfl⟩
    intro event hevent
    simp only [List.mem_cons, List.not_mem_nil, or_false] at hevent
    rcases hevent with rfl | rfl | rfl | rfl | rfl | rfl | rfl | rfl <;>
      exact of_decide_eq_false rfl
  · exact ⟨List.forall_mem_nil _, 0, rfl⟩

/-- If something was read, it is acknowledged by the last event, and told. -/
theorem ensures_report {status : HalfWord} (h : ¬ (status = 0 ∨ status = 0xFFFF)) :
    (report status).Ensures (fun _ => True) fun events outcome =>
      ∃ before errors,
        events = before ++ [⟨.write .half RegisterMap.normalStatus.offset
          (NormalEvents.errorInterrupt.put false status), ()⟩] ∧
        (∀ event ∈ before, ¬ event.query.Reaches RegisterMap.normalStatus) ∧
        outcome = .ok (some (Snapshot.ofStatus status errors)) := by
  rw [report, if_neg h, Program.ensures_bind]
  refine (ensures_settleErrors status).mono ?_
  rintro events _ ⟨hevents, errors, rfl⟩
  rintro ⟨⟩ - ⟨⟩ -
  refine ⟨events ++ [⟨.barrier, ()⟩], errors, by simp, ?_, rfl⟩
  exact List.forall_mem_append.mpr ⟨hevents, List.forall_mem_singleton.mpr id⟩

end Slot

namespace StatusHardware

variable {host : Host σ} (hardware : StatusHardware host)

/-- What comes of a look that read a status: what is told, the events after the read, and the state
that is left. -/
inductive Look (state : σ) (status : HalfWord) : Option Snapshot → List Event → σ → Prop
  /-- Nothing was pending, or the controller had gone away. -/
  | nothing {after : σ} (hstatus : status = 0 ∨ status = 0xFFFF)
      (hpending : hardware.pending after =
        hardware.pending state ||| together (hardware.raisings Slot.takeInterrupts state)) :
      Look state status none [] after
  /-- All of the status was told. What came while the look was taken is in it or is still pending. -/
  | found {errors : HalfWord} {events : List Event} {after : σ}
      (hstatus : ¬ (status = 0 ∨ status = 0xFFFF))
      (hpending : NormalEvents.errorInterrupt.put false status ||| hardware.pending after =
        hardware.pending state ||| together (hardware.raisings Slot.takeInterrupts state)) :
      Look state status (some (Snapshot.ofStatus status errors)) events after

/-- A read tells what is pending after it. -/
theorem exists_run_read (state : σ) :
    ∃ status after,
      RegisterMap.normalStatus.read.run host state = (.ok status, after) ∧
      RegisterMap.normalStatus.read.history host state =
        RegisterMap.normalStatus.readEvents status ∧
      NormalEvents.errorInterrupt.put false status = hardware.pending after ∧
      hardware.pending after = hardware.pending state |||
        together (hardware.raisings RegisterMap.normalStatus.read state) := by
  have hpending : hardware.pending (RegisterMap.normalStatus.read.run host state).2 =
      hardware.pending state |||
        together (hardware.raisings RegisterMap.normalStatus.read state) := by
    refine hardware.pending_of_unreached _ _ ?_
    exact List.forall_mem_cons.mpr ⟨id, List.forall_mem_singleton.mpr id⟩
  refine ⟨_, _, rfl, rfl, ?_, hpending⟩
  exact (hardware.read_reply _).trans (hardware.pending_other _ _ id).symm

/-- A look at the interrupts comes to its end, and it keeps account of all of them. -/
theorem exists_look (state : σ) :
    ∃ status found events late after,
      Slot.takeInterrupts.run host state = (.ok found, after) ∧
      Slot.takeInterrupts.history host state =
        RegisterMap.normalStatus.readEvents status ++ events ∧
      hardware.raisings Slot.takeInterrupts state =
        hardware.raisings RegisterMap.normalStatus.read state ++ late ∧
      NormalEvents.errorInterrupt.put false status = hardware.pending state |||
        together (hardware.raisings RegisterMap.normalStatus.read state) ∧
      hardware.Look state status found events after := by
  obtain ⟨status, between, hread, hhistory, hstatus, hpending⟩ := hardware.exists_run_read state
  have hrun : Slot.takeInterrupts.run host state = (Slot.report status).run host between := by
    rw [Slot.takeInterrupts_eq, Program.run_bind_of_ok hread]
  have hevents : Slot.takeInterrupts.history host state =
      RegisterMap.normalStatus.readEvents status ++ (Slot.report status).history host between := by
    rw [Slot.takeInterrupts_eq, Program.history_bind_of_ok hread, hhistory]
  have hraisings : hardware.raisings Slot.takeInterrupts state =
      hardware.raisings RegisterMap.normalStatus.read state ++
        hardware.raisings (Slot.report status) between := by
    rw [Slot.takeInterrupts_eq, hardware.raisings_bind_of_ok hread]
  have htotal : hardware.pending state |||
      together (hardware.raisings Slot.takeInterrupts state) =
        hardware.pending between ||| together (hardware.raisings (Slot.report status) between) := by
    rw [hraisings, together_append, hpending, BitVec.or_assoc]
  by_cases hnothing : status = 0 ∨ status = 0xFFFF
  · have hreport : Slot.report status = .done none := if_pos hnothing
    refine ⟨status, none, [], [], between, ?_, ?_, ?_, hstatus.trans hpending,
      .nothing hnothing ?_⟩
    · rw [hrun, hreport, Program.run_done]
    · rw [hevents, hreport, Program.history_done]
    · rw [hraisings, hreport, raisings]
    · simp [htotal, hreport, raisings]
  · obtain ⟨before, errors, hlast, hbefore, hfound⟩ :=
      (Slot.ensures_report hnothing).of_run rfl
    have hafter := hardware.pending_of_acknowledged before hlast hbefore
    refine ⟨status, _, _, _, _, hrun.trans (Prod.ext hfound rfl), hevents, hraisings,
      hstatus.trans hpending, .found hnothing ?_⟩
    rw [htotal, hafter, hstatus, or_and_not]

/-- What comes of a look can be told from what it asked and what it found. -/
theorem look_of_run {state after : σ} {status : HalfWord} {found : Option Snapshot}
    {events : List Event} (hrun : Slot.takeInterrupts.run host state = (.ok found, after))
    (hhistory : Slot.takeInterrupts.history host state =
      RegisterMap.normalStatus.readEvents status ++ events) :
    hardware.Look state status found events after := by
  obtain ⟨_, _, _, _, _, hrun', hhistory', -, -, hlook⟩ := hardware.exists_look state
  rw [hrun] at hrun'
  cases hrun'
  rw [hhistory] at hhistory'
  simp only [Register.readEvents, List.cons_append, List.nil_append, List.cons.injEq, true_and,
    Event.mk.injEq, heq_eq_eq] at hhistory'
  obtain ⟨rfl, rfl⟩ := hhistory'
  exact hlook

/-- Interrupts that were latched since some state, what was told of them, and the state that is left.
Everything that was told stands next to the status that was read for it, and what was told last is
the first in the list. -/
inductive Served : HalfWord → List (HalfWord × Snapshot) → σ → Prop
  /-- The interrupts that are pending at first were latched. -/
  | start (state : σ) : Served (hardware.pending state) [] state
  /-- More were latched. -/
  | latched {ever : HalfWord} {told : List (HalfWord × Snapshot)} {state state' : σ}
      (hserved : Served ever told state) (interrupts : HalfWord)
      (hpending : hardware.pending state' = hardware.pending state ||| interrupts) :
      Served (ever ||| interrupts) told state'
  /-- A look was taken, and more may have been latched in its course. -/
  | looked {ever status : HalfWord} {told : List (HalfWord × Snapshot)} {state after : σ}
      {found : Option Snapshot} {events : List Event} (hserved : Served ever told state)
      (hrun : Slot.takeInterrupts.run host state = (.ok found, after))
      (hhistory : Slot.takeInterrupts.history host state =
        RegisterMap.normalStatus.readEvents status ++ events) :
      Served (ever ||| together (hardware.raisings Slot.takeInterrupts state))
        (found.toList.map (Prod.mk status) ++ told) after

/-- Everything that was told shows the status that was read for it. -/
theorem shows_of_served {ever : HalfWord} {told : List (HalfWord × Snapshot)} {state : σ}
    (h : hardware.Served ever told state) :
    ∀ entry ∈ told, entry.2.Shows (NormalEvents.errorInterrupt.put false entry.1) := by
  -- induction on the latches and the looks
  induction h with
  | start => exact List.forall_mem_nil _
  | latched _ _ _ ih => exact ih
  | looked _ hrun hhistory ih =>
    cases hardware.look_of_run hrun hhistory with
    | nothing => exact ih
    | found => exact List.forall_mem_cons.mpr ⟨Snapshot.shows_ofStatus _ _, ih⟩

/-- What was ever latched was told or is still pending, and nothing else is. -/
theorem pending_of_served {ever : HalfWord} {told : List (HalfWord × Snapshot)} {state : σ}
    (h : hardware.Served ever told state) :
    together (told.map fun entry => NormalEvents.errorInterrupt.put false entry.1) |||
      hardware.pending state = ever := by
  -- induction on the latches and the looks
  induction h with
  | start => simp
  | latched _ _ hpending ih => rw [hpending, ← BitVec.or_assoc, ih]
  | @looked _ status told _ _ _ _ _ hrun hhistory ih =>
    rw [← ih, BitVec.or_assoc]
    cases hardware.look_of_run hrun hhistory with
    | nothing _ hpending => rw [← hpending]; rfl
    | found _ hpending =>
      rw [← hpending, ← BitVec.or_assoc, BitVec.or_comm _ (NormalEvents.errorInterrupt.put _ _)]
      rfl

end StatusHardware

/-- **No interrupt is lost.** Take hardware that may latch normal interrupts between any two accesses.

A look at the interrupts reads their register first, with a status that tells what is pending by then.
It finds nothing just if the status is empty or that of a controller that has gone away, and then it
asks nothing more. Otherwise it reports all of the status, and nothing that is not in it. An interrupt
that is not pending any more after the look was reported by it, and one that came after the read and
is not in the status is still pending.

So after any sequence of latches and looks, the interrupts that were ever latched are those that were
reported, together with those that are still pending. -/
theorem no_interrupt_lost {host : Host σ} (hardware : StatusHardware host) :
    (∀ state, ∃ status found events late after,
      Slot.takeInterrupts.run host state = (.ok found, after) ∧
      Slot.takeInterrupts.history host state =
        RegisterMap.normalStatus.readEvents status ++ events ∧
      hardware.raisings Slot.takeInterrupts state =
        hardware.raisings RegisterMap.normalStatus.read state ++ late ∧
      NormalEvents.errorInterrupt.put false status = hardware.pending state |||
        together (hardware.raisings RegisterMap.normalStatus.read state) ∧
      (found = none ↔ status = 0 ∨ status = 0xFFFF) ∧
      (found = none → events = []) ∧
      (∀ snapshot, found = some snapshot →
        snapshot.Shows (NormalEvents.errorInterrupt.put false status)) ∧
      (∀ i, (hardware.pending state |||
          together (hardware.raisings Slot.takeInterrupts state)).getLsbD i = true →
        (hardware.pending after).getLsbD i = false →
        ∃ snapshot, found = some snapshot ∧ snapshot.reports i = true) ∧
      ∀ i, (together late).getLsbD i = true → status.getLsbD i = false →
        (hardware.pending after).getLsbD i = true) ∧
    ∀ ever told state, hardware.Served ever told state →
      (∀ entry ∈ told, entry.2.Shows (NormalEvents.errorInterrupt.put false entry.1)) ∧
      together (told.map fun entry => NormalEvents.errorInterrupt.put false entry.1) |||
        hardware.pending state = ever := by
  refine ⟨fun state => ?_, fun ever told state hserved =>
    ⟨hardware.shows_of_served hserved, hardware.pending_of_served hserved⟩⟩
  obtain ⟨status, found, events, late, after, hrun, hhistory, hraisings, hstatus, hlook⟩ :=
    hardware.exists_look state
  refine ⟨status, found, events, late, after, hrun, hhistory, hraisings, hstatus, ?_⟩
  have hlate : ∀ i, (together late).getLsbD i = true →
      (hardware.pending state |||
        together (hardware.raisings Slot.takeInterrupts state)).getLsbD i = true := by
    intro i hi
    simp [hraisings, together_append, hi]
  cases hlook with
  | nothing hnothing hpending =>
    refine ⟨iff_of_true rfl hnothing, fun _ => rfl, nofun, ?_, ?_⟩
    · intro i hi hgone
      rw [hpending, hi] at hgone
      cases hgone
    · intro i hi _
      rw [hpending, hlate i hi]
  | @found errors _ _ hsomething hpending =>
    have hshows := Snapshot.shows_ofStatus status errors
    refine ⟨iff_of_false nofun hsomething, nofun, ?_, ?_, ?_⟩
    · rintro _ ⟨⟩
      exact hshows
    · intro i hi hgone
      rw [← hpending, BitVec.getLsbD_or, hgone, Bool.or_false] at hi
      exact ⟨_, rfl, hshows.reported i hi⟩
    · intro i hi hunread
      have hkept := hlate i hi
      rwa [← hpending, BitVec.getLsbD_or, NormalEvents.getLsbD_put_errorInterrupt, hunread,
        Bool.and_false, Bool.false_or] at hkept

/-- A controller with pending interrupts, and those that come before each of the next queries is
answered. -/
structure Latches where
  /-- The interrupts that are pending. -/
  pending : HalfWord
  /-- Those that come, query by query. -/
  coming : List HalfWord

namespace Latches

/-- The answer to a query when everything that comes before it has come. -/
def answer (query : Query) (latches : Latches) : query.Reply × Latches :=
  match query with
  | .read .half 0x30 => (latches.pending, latches)
  | .write .half 0x30 value => ((), { latches with pending := latches.pending &&& ~~~value })
  | query => ((RegisterFile.host.answer query fun _ => 0).1, latches)

/-- Only a write to the register takes something away. -/
theorem answer_snd {query : Query} (h : ¬ query.Reaches RegisterMap.normalStatus)
    (latches : Latches) : (answer query latches).2 = latches := by
  unfold answer
  split
  · rfl
  · exact absurd ⟨by decide, by decide⟩ h
  · rfl

/-- A controller that latches what comes. -/
def host : Host Latches where
  answer query latches :=
    answer query ⟨latches.pending ||| latches.coming.headD 0, latches.coming.tail⟩

/-- Everything but the summary of the errors is an interrupt. -/
def hardware : StatusHardware host where
  pending latches := NormalEvents.errorInterrupt.put false latches.pending
  raised _ latches := NormalEvents.errorInterrupt.put false (latches.coming.headD 0)
  read_reply latches := NormalEvents.put_errorInterrupt_or _ _
  pending_write value latches := by
    rw [← NormalEvents.put_errorInterrupt_or, ← NormalEvents.put_errorInterrupt_and]
    rfl
  pending_other query latches hquery := by
    rw [← NormalEvents.put_errorInterrupt_or, host, answer_snd hquery]

/-- An insertion is pending, and the end of a command comes before the register is read. While that is
acknowledged, a transfer ends and another command. -/
def busy : Latches :=
  ⟨0x0040, [0, 0x0001, 0x0002, 0x0001]⟩

end Latches

/-- The insertion and the end of the command are told, and the end of the transfer is still
pending. -/
theorem no_interrupt_lost_busy :
    ∃ snapshot after,
      Slot.takeInterrupts.run Latches.host Latches.busy = (.ok (some snapshot), after) ∧
      Latches.hardware.Served 0x0043 [(0x0041, snapshot)] after ∧ snapshot.Shows 0x0041 ∧
      0x0041 ||| Latches.hardware.pending after = 0x0043 := by
  have hrun : Slot.takeInterrupts.run Latches.host Latches.busy =
      (.ok (some { events := 0x0001, cardChange := true }), ⟨0x0002, []⟩) := rfl
  have hserved : Latches.hardware.Served 0x0043 [(0x0041, _)] _ :=
    .looked (.start Latches.busy) hrun rfl
  obtain ⟨-, htold⟩ := no_interrupt_lost Latches.hardware
  obtain ⟨hshows, htotal⟩ := htold _ _ _ hserved
  exact ⟨_, _, hrun, hserved, hshows _ List.mem_cons_self, htotal⟩

end SdHost
