import SdHost.Proofs.Slot.Interrupts

/-!
# Taking errors

Errors are looked at along with the other interrupts, and acknowledged along with them. But where only
those normal interrupts are acknowledged that were seen, all errors are acknowledged at once. An error
that comes after the errors were read and before they are acknowledged is gone, and nobody was told.

The module introduces:

* `Program.gather`: what comes together in the course of a run;
* `ErrorHardware`: hardware that latches errors between any two queries, with a summary of them;
* `ErrorHardware.Clears`: which errors a program clears, when everything else stays pending;
* `ErrorHardware.Look`: what a look at the interrupts finds, and which errors come just as they are
  acknowledged;
* `ErrorHardware.Served`: errors that are latched and taken in any order.

`errors_of_looks` says which errors are told, and that those that come at the wrong time make the
difference.
-/

namespace SdHost

variable {σ α β : Type}

/-! ## Bits -/

/-- Bits are all among others exactly if none of them is outside. -/
theorem forall_getLsbD_imp_iff (more bits : HalfWord) :
    (∀ i, more.getLsbD i = true → bits.getLsbD i = true) ↔ more &&& ~~~bits = 0 := by
  have hnone : ∀ i, (0 : HalfWord).getLsbD i = false := fun _ => BitVec.getLsbD_zero
  constructor
  case mp =>
    intro h
    refine BitVec.eq_of_getLsbD_eq fun i hi => ?_
    rw [BitVec.getLsbD_and, BitVec.getLsbD_not, hnone]
    cases hmore : more.getLsbD i with
    | false => rfl
    | true => simp [h i hmore]
  case mpr =>
    intro h i hi
    have hlt := BitVec.lt_of_getLsbD hi
    have hbit : (more &&& ~~~bits).getLsbD i = false := by rw [h, hnone]
    simpa [hi, hlt] using hbit

/-- Of bits that come with others, the same ones are outside of those. -/
theorem or_and_not_left (bits more : HalfWord) :
    (bits ||| more) &&& ~~~bits = more &&& ~~~bits := by
  ext i
  simp only [BitVec.getElem_or, BitVec.getElem_and, BitVec.getElem_not]
  cases bits[i] <;> cases more[i] <;> rfl

/-- What is left and what is not make up the whole. -/
theorem and_not_or_and (bits mask : HalfWord) :
    bits &&& ~~~(bits &&& ~~~mask) ||| bits &&& ~~~mask = bits := by
  ext i
  simp only [BitVec.getElem_or, BitVec.getElem_and, BitVec.getElem_not]
  cases bits[i] <;> cases mask[i] <;> rfl

/-- The bits that come together in the course of a run, query by query. -/
def Program.gather (host : Host σ) (bits : Query → σ → HalfWord) : Program α → σ → HalfWord
  | .done _, _ => 0
  | .fault _, _ => 0
  | .ask query next, state =>
    bits query state |||
      (next (host.answer query state).1).gather host bits (host.answer query state).2

theorem Program.gather_bind_of_ok {host : Host σ} {bits : Query → σ → HalfWord}
    {program : Program α} {state after : σ} {value : α}
    (hrun : program.run host state = (.ok value, after)) (next : α → Program β) :
    (program >>= next).gather host bits state =
      program.gather host bits state ||| (next value).gather host bits after := by
  induction program generalizing state with
  | done => cases hrun; exact BitVec.zero_or.symm
  | fault => cases hrun
  | ask query rest ih =>
    rw [ask_bind, gather, gather, ih _ hrun, BitVec.or_assoc]

/-! ## Hardware that latches errors -/

/-- Hardware that may latch errors whenever it has answered a query, until it answers the next. A write
to their register clears those that are set in what is written. The summary among the normal interrupts
is set exactly while there are errors. -/
structure ErrorHardware (host : Host σ) where
  /-- The errors that are pending. -/
  pending : σ → HalfWord
  /-- The errors that come before the query is answered. -/
  raised : Query → σ → HalfWord
  /-- A read tells what is pending. -/
  read_reply : ∀ state,
    (host.answer (.read .half RegisterMap.errorStatus.offset) state).1 =
      pending state ||| raised (.read .half RegisterMap.errorStatus.offset) state
  /-- A read of the normal interrupts tells whether anything is pending. -/
  summary_reply : ∀ state,
    NormalEvents.errorInterrupt.test
        (host.answer (.read .half RegisterMap.normalStatus.offset) state).1 =
      decide (pending state ||| raised (.read .half RegisterMap.normalStatus.offset) state ≠ 0)
  /-- A write clears the errors that it sets. -/
  pending_write : ∀ (value : HalfWord) (state : σ),
    pending (host.answer (.write .half RegisterMap.errorStatus.offset value) state).2 =
      (pending state ||| raised (.write .half RegisterMap.errorStatus.offset value) state) &&&
        ~~~value
  /-- Nothing else clears any. -/
  pending_other : ∀ query state, ¬ query.Reaches RegisterMap.errorStatus →
    pending (host.answer query state).2 = pending state ||| raised query state

namespace ErrorHardware

variable {host : Host σ} (hardware : ErrorHardware host)

/-- The errors that come while a program runs. -/
def latched (program : Program α) (state : σ) : HalfWord :=
  program.gather host hardware.raised state

/-- The errors that a query clears. -/
def clearedBy (query : Query) (state : σ) : HalfWord :=
  (hardware.pending state ||| hardware.raised query state) &&&
    ~~~hardware.pending (host.answer query state).2

/-- The errors that are cleared while a program runs. -/
def cleared (program : Program α) (state : σ) : HalfWord :=
  program.gather host hardware.clearedBy state

theorem clearedBy_of_unreached {query : Query} (h : ¬ query.Reaches RegisterMap.errorStatus)
    (state : σ) : hardware.clearedBy query state = 0 := by
  rw [clearedBy, hardware.pending_other query state h]
  exact BitVec.and_not_self _

/-- A write clears what is set in it, and leaves the rest. -/
theorem clearedBy_write_or (value : HalfWord) (state : σ) :
    hardware.clearedBy (.write .half RegisterMap.errorStatus.offset value) state |||
        hardware.pending
          (host.answer (.write .half RegisterMap.errorStatus.offset value) state).2 =
      hardware.pending state |||
        hardware.raised (.write .half RegisterMap.errorStatus.offset value) state := by
  rw [clearedBy, hardware.pending_write, and_not_or_and]

/-- Of the errors that are pending or come while a program runs, it clears some. They may come again,
and everything else is still pending. -/
structure Clears (program : Program α) (state : σ) (errors : HalfWord) : Prop where
  /-- The errors that are cleared. -/
  cleared_eq : hardware.cleared program state = errors
  /-- Nothing else goes. -/
  balance : errors ||| hardware.pending (program.run host state).2 =
    hardware.pending state ||| hardware.latched program state

section Clears

variable {hardware} {state between : σ} {value : α} {errors errors' : HalfWord}
  {program : Program α} {next : α → Program β}

/-- If no error is pending in the end, all were cleared. -/
theorem Clears.eq_of_pending_eq_zero (h : hardware.Clears program state errors)
    (hpending : hardware.pending (program.run host state).2 = 0) :
    errors = hardware.pending state ||| hardware.latched program state := by
  rw [← h.balance, hpending]
  exact BitVec.or_zero.symm

/-- Of two programs one after the other, each clears its part. -/
theorem Clears.bind (hrun : program.run host state = (.ok value, between))
    (hfirst : hardware.Clears program state errors)
    (hnext : hardware.Clears (next value) between errors') :
    hardware.Clears (program >>= next) state (errors ||| errors') := by
  have hbetween := hfirst.balance
  rw [hrun] at hbetween
  constructor
  case cleared_eq =>
    rw [cleared, Program.gather_bind_of_ok hrun]
    exact congrArg₂ _ hfirst.cleared_eq hnext.cleared_eq
  case balance =>
    rw [Program.run_bind_of_ok hrun, latched, Program.gather_bind_of_ok hrun, BitVec.or_assoc,
      hnext.balance, ← BitVec.or_assoc, hbetween, BitVec.or_assoc]
    rfl

/-- The first of them may clear nothing. -/
theorem Clears.bind_of_first (hrun : program.run host state = (.ok value, between))
    (hfirst : hardware.Clears program state 0)
    (hnext : hardware.Clears (next value) between errors) :
    hardware.Clears (program >>= next) state errors := by
  simpa using hfirst.bind hrun hnext

/-- So may the second. -/
theorem Clears.bind_of_second (hrun : program.run host state = (.ok value, between))
    (hfirst : hardware.Clears program state errors)
    (hnext : hardware.Clears (next value) between 0) :
    hardware.Clears (program >>= next) state errors := by
  simpa using hfirst.bind hrun hnext

theorem Clears.ask {query : Query} {next : query.Reply → Program α}
    (hquery : hardware.clearedBy query state ||| hardware.pending (host.answer query state).2 =
      hardware.pending state ||| hardware.raised query state)
    (hnext : hardware.Clears (next (host.answer query state).1) (host.answer query state).2 errors) :
    hardware.Clears (.ask query next) state (hardware.clearedBy query state ||| errors) := by
  constructor
  case cleared_eq => exact congrArg _ hnext.cleared_eq
  case balance =>
    rw [Program.run_ask, BitVec.or_assoc, hnext.balance, ← BitVec.or_assoc, hquery, BitVec.or_assoc]
    rfl

/-- What does not reach the register clears nothing. -/
theorem Clears.ask_of_unreached {query : Query} {next : query.Reply → Program α}
    (hquery : ¬ query.Reaches RegisterMap.errorStatus)
    (hnext : hardware.Clears (next (host.answer query state).1) (host.answer query state).2 errors) :
    hardware.Clears (.ask query next) state errors := by
  have hcleared := hardware.clearedBy_of_unreached hquery state
  have hbalance : hardware.clearedBy query state ||| hardware.pending (host.answer query state).2 =
      hardware.pending state ||| hardware.raised query state := by
    rw [hcleared, hardware.pending_other query state hquery]
    exact BitVec.zero_or
  simpa [hcleared] using Clears.ask hbalance hnext

end Clears

theorem clears_done (value : α) (state : σ) : hardware.Clears (Program.done value) state 0 :=
  ⟨rfl, BitVec.or_comm _ _⟩

variable {width : Width}

/-- A read clears no error. -/
theorem clears_read (register : Register width) (state : σ) :
    hardware.Clears register.read state 0 :=
  .ask_of_unreached id (.ask_of_unreached id (hardware.clears_done _ _))

/-- What comes while a register is read is pending after it. -/
theorem pending_of_read {register : Register width} {value : BitVec width.bits} {state after : σ}
    (h : register.read.run host state = (.ok value, after)) :
    hardware.pending after = hardware.pending state ||| hardware.latched register.read state := by
  have hbalance := (hardware.clears_read register state).balance
  rw [h] at hbalance
  exact BitVec.zero_or.symm.trans hbalance

/-- A write to a register elsewhere clears none either. -/
theorem clears_write_of_isApart {register : Register width}
    (h : RegisterMap.errorStatus.isApart (width, register.offset) = true) (value : BitVec width.bits)
    (state : σ) : hardware.Clears (register.write value) state 0 :=
  .ask_of_unreached id <|
    .ask_of_unreached (Register.not_reaches_of_isApart h value) (hardware.clears_done _ _)

/-- All ones clear everything, and what comes meanwhile too. -/
theorem clears_write (state : σ) :
    hardware.Clears (RegisterMap.errorStatus.write 0xFFFF) state
        (hardware.pending state ||| hardware.latched (RegisterMap.errorStatus.write 0xFFFF) state) ∧
      hardware.pending ((RegisterMap.errorStatus.write 0xFFFF).run host state).2 = 0 := by
  have hpending : hardware.pending ((RegisterMap.errorStatus.write 0xFFFF).run host state).2 = 0 :=
    (hardware.pending_write _ _).trans BitVec.and_zero
  have hclears : hardware.Clears (RegisterMap.errorStatus.write 0xFFFF) state _ :=
    .ask_of_unreached id (.ask (hardware.clearedBy_write_or _ _) (hardware.clears_done _ _))
  rw [← hclears.eq_of_pending_eq_zero hpending]
  exact ⟨hclears, hpending⟩

end ErrorHardware

/-! ## A look at the errors -/

/-- The errors that were told. -/
def toldErrors (found : Option Snapshot) : HalfWord :=
  (found.map Snapshot.errors).getD 0

namespace Slot

/-- All errors are acknowledged, those of commands sent automatically first. -/
def clearErrors : Program Unit := do
  RegisterMap.autoCommandErrors.write 0xFFFF
  RegisterMap.autoCommandErrors.write 0
  RegisterMap.errorStatus.write 0xFFFF

/-- Without the summary the errors are left alone. -/
theorem settleErrors_of_unset {status : HalfWord}
    (h : NormalEvents.errorInterrupt.test status = false) : settleErrors status = .done 0 := by
  rw [settleErrors, h]
  rfl

/-- With the summary they are read and then acknowledged. -/
theorem settleErrors_of_set {status : HalfWord}
    (h : NormalEvents.errorInterrupt.test status = true) :
    settleErrors status =
      RegisterMap.errorStatus.read >>= fun errors => clearErrors >>= fun _ => .done errors := by
  rw [settleErrors, h]
  rfl

end Slot

namespace ErrorHardware

variable {host : Host σ} (hardware : ErrorHardware host)

/-- What comes of a look: what is found, the errors that came between the read of the errors and their
acknowledgement, and the state that is left. -/
inductive Look (state : σ) : Option Snapshot → HalfWord → σ → Prop
  /-- Nothing was pending, or the controller had gone away. -/
  | nothing {status : HalfWord} {after : σ}
      (hlook : RegisterMap.normalStatus.read.run host state = (.ok status, after))
      (hstatus : status = 0 ∨ status = 0xFFFF) : Look state none 0 after
  /-- There were no errors by the time of the look. -/
  | unseen {status : HalfWord} {between after : σ}
      (hlook : RegisterMap.normalStatus.read.run host state = (.ok status, between))
      (hstatus : ¬ (status = 0 ∨ status = 0xFFFF))
      (hsummary : NormalEvents.errorInterrupt.test status = false)
      (hfinish : (RegisterMap.normalStatus.write
        (NormalEvents.errorInterrupt.put false status)).run host between = (.ok (), after)) :
      Look state (some (Snapshot.ofStatus status 0)) 0 after
  /-- The errors were read and acknowledged. -/
  | seen {status errors : HalfWord} {between asked settled after : σ}
      (hlook : RegisterMap.normalStatus.read.run host state = (.ok status, between))
      (hstatus : ¬ (status = 0 ∨ status = 0xFFFF))
      (hsummary : NormalEvents.errorInterrupt.test status = true)
      (hread : RegisterMap.errorStatus.read.run host between = (.ok errors, asked))
      (hclear : Slot.clearErrors.run host asked = (.ok (), settled))
      (hfinish : (RegisterMap.normalStatus.write
        (NormalEvents.errorInterrupt.put false status)).run host settled = (.ok (), after)) :
      Look state (some (Snapshot.ofStatus status errors))
        (hardware.latched Slot.clearErrors asked) after

/-- A look always comes to its end. -/
theorem exists_look (state : σ) : ∃ found late after, hardware.Look state found late after := by
  obtain ⟨status, between, hlook⟩ : ∃ status between,
      RegisterMap.normalStatus.read.run host state = (.ok status, between) := ⟨_, _, rfl⟩
  by_cases hstatus : status = 0 ∨ status = 0xFFFF
  · exact ⟨_, _, _, .nothing hlook hstatus⟩
  cases hsummary : NormalEvents.errorInterrupt.test status with
  | false => exact ⟨_, _, _, .unseen hlook hstatus hsummary rfl⟩
  | true => exact ⟨_, _, _, .seen hlook hstatus hsummary rfl rfl rfl⟩

/-- The summary tells whether any error is pending. -/
theorem test_errorInterrupt {state after : σ} {status : HalfWord}
    (h : RegisterMap.normalStatus.read.run host state = (.ok status, after)) :
    NormalEvents.errorInterrupt.test status = decide (hardware.pending after ≠ 0) := by
  cases h
  rw [hardware.pending_other _ _ id]
  exact hardware.summary_reply _

/-- A read of the errors gives those that are pending after it. -/
theorem errors_eq_pending {state after : σ} {errors : HalfWord}
    (h : RegisterMap.errorStatus.read.run host state = (.ok errors, after)) :
    errors = hardware.pending after := by
  cases h
  exact (hardware.read_reply _).trans (hardware.pending_other _ _ id).symm

/-- The errors are cleared altogether, those that come meanwhile too. -/
theorem clears_clearErrors (state : σ) :
    hardware.Clears Slot.clearErrors state
      (hardware.pending state ||| hardware.latched Slot.clearErrors state) := by
  have hpending : hardware.pending (Slot.clearErrors.run host state).2 = 0 :=
    (hardware.clears_write _).2
  have hclears : hardware.Clears Slot.clearErrors state _ :=
    (hardware.clears_write_of_isApart rfl _ _).bind_of_first rfl <|
      (hardware.clears_write_of_isApart rfl _ _).bind_of_first rfl (hardware.clears_write _).1
  rwa [← hclears.eq_of_pending_eq_zero hpending]

/-- With the summary, the errors are cleared that were read and those that come meanwhile. -/
theorem clears_settleErrors {status errors : HalfWord} {between asked settled : σ}
    (hsummary : NormalEvents.errorInterrupt.test status = true)
    (hread : RegisterMap.errorStatus.read.run host between = (.ok errors, asked))
    (hclear : Slot.clearErrors.run host asked = (.ok (), settled)) :
    (Slot.settleErrors status).run host between = (.ok errors, settled) ∧
      hardware.Clears (Slot.settleErrors status) between
        (errors ||| hardware.latched Slot.clearErrors asked) := by
  rw [Slot.settleErrors_of_set hsummary]
  constructor
  · rw [Program.run_bind_of_ok hread, Program.run_bind_of_ok hclear]
    rfl
  · refine (hardware.clears_read _ _).bind_of_first hread ?_
    rw [hardware.errors_eq_pending hread]
    exact (hardware.clears_clearErrors asked).bind_of_second hclear (hardware.clears_done _ _)

variable {hardware}

/-- After the errors are settled, a look clears no more of them. -/
theorem clears_report {status errors cleared : HalfWord} {between settled after : σ}
    (hstatus : ¬ (status = 0 ∨ status = 0xFFFF))
    (hsettle : (Slot.settleErrors status).run host between = (.ok errors, settled))
    (hclears : hardware.Clears (Slot.settleErrors status) between cleared)
    (hfinish : (RegisterMap.normalStatus.write
      (NormalEvents.errorInterrupt.put false status)).run host settled = (.ok (), after)) :
    (Slot.report status).run host between = (.ok (some (Snapshot.ofStatus status errors)), after) ∧
      hardware.Clears (Slot.report status) between cleared := by
  rw [Slot.report, if_neg hstatus]
  constructor
  · rw [Program.run_bind_of_ok hsettle, Program.run_bind_of_ok hfinish]
    rfl
  · exact hclears.bind_of_second hsettle <|
      (hardware.clears_write_of_isApart rfl _ _).bind_of_first hfinish (hardware.clears_done _ _)

/-- A look clears the errors that it tells, and those that came after they were read and before they
were acknowledged. -/
theorem Look.clears {state after : σ} {found : Option Snapshot} {late : HalfWord}
    (h : hardware.Look state found late after) :
    Slot.takeInterrupts.run host state = (.ok found, after) ∧
      hardware.Clears Slot.takeInterrupts state (toldErrors found ||| late) := by
  rw [Slot.takeInterrupts_eq]
  cases h with
  | @nothing status after hlook hstatus =>
    have hreport : Slot.report status = .done none := if_pos hstatus
    have hclears : hardware.Clears (Slot.report status) after 0 := by
      rw [hreport]
      exact hardware.clears_done _ _
    rw [Program.run_bind_of_ok hlook, hreport]
    exact ⟨rfl, (hardware.clears_read _ state).bind_of_first hlook hclears⟩
  | @unseen status between after hlook hstatus hsummary hfinish =>
    have hunset := Slot.settleErrors_of_unset hsummary
    have hsettle : (Slot.settleErrors status).run host between = (.ok 0, between) := by
      rw [hunset]
      rfl
    have hcleared : hardware.Clears (Slot.settleErrors status) between 0 := by
      rw [hunset]
      exact hardware.clears_done _ _
    obtain ⟨hrun, hclears⟩ := clears_report hstatus hsettle hcleared hfinish
    have hnone : toldErrors (some (Snapshot.ofStatus status 0)) ||| 0 = 0 := BitVec.or_zero
    rw [Program.run_bind_of_ok hlook, hnone]
    exact ⟨hrun, (hardware.clears_read _ state).bind_of_first hlook hclears⟩
  | seen hlook hstatus hsummary hread hclear hfinish =>
    obtain ⟨hsettle, hcleared⟩ := hardware.clears_settleErrors hsummary hread hclear
    obtain ⟨hrun, hclears⟩ := clears_report hstatus hsettle hcleared hfinish
    rw [Program.run_bind_of_ok hlook]
    exact ⟨hrun, (hardware.clears_read _ state).bind_of_first hlook hclears⟩

/-- Everything that is pending or comes during a look is told, comes at the wrong time, or is still
pending. -/
theorem Look.balance {state after : σ} {found : Option Snapshot} {late : HalfWord}
    (h : hardware.Look state found late after) :
    toldErrors found ||| late ||| hardware.pending after =
      hardware.pending state ||| hardware.latched Slot.takeInterrupts state := by
  obtain ⟨hrun, hclears⟩ := h.clears
  have hbalance := hclears.balance
  rwa [hrun] at hbalance

/-- Every error is told that was pending by the time of the look. -/
theorem Look.told {state after : σ} {snapshot : Snapshot} {late : HalfWord}
    (h : hardware.Look state (some snapshot) late after) (i : Nat)
    (hi : (hardware.pending state |||
      hardware.latched RegisterMap.normalStatus.read state).getLsbD i = true) :
    snapshot.errors.getLsbD i = true := by
  cases h with
  | unseen hlook _ hsummary _ =>
    -- none was pending
    rw [hardware.test_errorInterrupt hlook, decide_eq_false_iff_not, not_not,
      hardware.pending_of_read hlook] at hsummary
    rw [hsummary, show (0 : HalfWord).getLsbD i = false from BitVec.getLsbD_zero] at hi
    cases hi
  | @seen _ errors _ _ _ _ hlook _ _ hread _ _ =>
    have herrors := (hardware.errors_eq_pending hread).trans (hardware.pending_of_read hread)
    rw [Snapshot.ofStatus, herrors, hardware.pending_of_read hlook, BitVec.getLsbD_or, hi,
      Bool.true_or]

variable (hardware)

/-- Errors that were latched since some state, what was told of them, what came as errors were being
acknowledged, and the state that is left. What was told last is the first in the list. -/
inductive Served : HalfWord → List HalfWord → HalfWord → σ → Prop
  /-- The errors that are pending at first were latched. -/
  | start (state : σ) : Served (hardware.pending state) [] 0 state
  /-- More were latched. -/
  | latched {ever late : HalfWord} {told : List HalfWord} {state state' : σ}
      (hserved : Served ever told late state) (errors : HalfWord)
      (hpending : hardware.pending state' = hardware.pending state ||| errors) :
      Served (ever ||| errors) told late state'
  /-- A look was taken, and more may have been latched in its course. -/
  | looked {ever late late' : HalfWord} {told : List HalfWord} {state after : σ}
      {found : Option Snapshot} (hserved : Served ever told late state)
      (hlook : hardware.Look state found late' after) :
      Served (ever ||| hardware.latched Slot.takeInterrupts state) (toldErrors found :: told)
        (late ||| late') after

variable {hardware}

/-- What was ever latched was told, came at the wrong time, or is still pending. -/
theorem Served.balance {ever late : HalfWord} {told : List HalfWord} {state : σ}
    (h : hardware.Served ever told late state) :
    together told ||| late ||| hardware.pending state = ever := by
  -- induction on the latches and the looks
  induction h with
  | start => simp
  | latched _ _ hpending ih => rw [hpending, ← BitVec.or_assoc, ih]
  | @looked ever late late' told state after found _ hlook ih =>
    calc toldErrors found ||| together told ||| (late ||| late') ||| hardware.pending after
        = together told ||| late |||
            (toldErrors found ||| late' ||| hardware.pending after) := by ac_rfl
      _ = together told ||| late ||| hardware.pending state |||
            hardware.latched Slot.takeInterrupts state := by
          rw [hlook.balance, ← BitVec.or_assoc]
      _ = ever ||| hardware.latched Slot.takeInterrupts state := by rw [ih]

end ErrorHardware

/-- **Errors that come as errors are acknowledged are lost.** Take hardware that may latch errors
between any two accesses, and whose summary among the normal interrupts is set exactly while there are
errors.

A look at the interrupts comes to its end, and what it finds tells all errors that were pending when it
read the normal interrupts. It clears the errors that it tells, and with them those that came after the
errors were read and before they were acknowledged. Everything else is still pending after it. So all
that it clears is told exactly if nothing came in between that it does not tell anyway.

After any sequence of latches and looks, the errors that were ever latched are those that were told,
those that came as errors were being acknowledged, and those that are still pending. -/
theorem errors_of_looks {host : Host σ} (hardware : ErrorHardware host) :
    (∀ state, ∃ found late after, hardware.Look state found late after) ∧
    (∀ state found late after, hardware.Look state found late after →
      Slot.takeInterrupts.run host state = (.ok found, after) ∧
      (∀ snapshot, found = some snapshot → ∀ i,
        (hardware.pending state |||
          hardware.latched RegisterMap.normalStatus.read state).getLsbD i = true →
        snapshot.errors.getLsbD i = true) ∧
      hardware.cleared Slot.takeInterrupts state = toldErrors found ||| late ∧
      toldErrors found ||| late ||| hardware.pending after =
        hardware.pending state ||| hardware.latched Slot.takeInterrupts state ∧
      ((∀ i, (hardware.cleared Slot.takeInterrupts state).getLsbD i = true →
          (toldErrors found).getLsbD i = true) ↔ late &&& ~~~toldErrors found = 0)) ∧
    ∀ ever told late state, hardware.Served ever told late state →
      together told ||| late ||| hardware.pending state = ever := by
  refine ⟨hardware.exists_look, fun state found late after hlook => ?_, fun _ _ _ _ h => h.balance⟩
  obtain ⟨hrun, hclears⟩ := hlook.clears
  refine ⟨hrun, ?_, hclears.cleared_eq, hlook.balance, ?_⟩
  · rintro snapshot rfl
    exact hlook.told
  · rw [hclears.cleared_eq, forall_getLsbD_imp_iff, or_and_not_left]

/-- A controller with pending errors, and those that come before each of the next queries is
answered. -/
structure ErrorLatches where
  /-- The errors that are pending. -/
  pending : HalfWord
  /-- Those that come, query by query. -/
  coming : List HalfWord

namespace ErrorLatches

/-- The answer to a query when everything that comes before it has come. -/
def answer (query : Query) (latches : ErrorLatches) : query.Reply × ErrorLatches :=
  match query with
  | .read .half 0x30 => (if latches.pending = 0 then 0 else 0x8000, latches)
  | .read .half 0x32 => (latches.pending, latches)
  | .write .half 0x32 value => ((), { latches with pending := latches.pending &&& ~~~value })
  | query => ((RegisterFile.host.answer query fun _ => 0).1, latches)

/-- Only a write to the register takes something away. -/
theorem answer_snd {query : Query} (h : ¬ query.Reaches RegisterMap.errorStatus)
    (latches : ErrorLatches) : (answer query latches).2 = latches := by
  unfold answer
  split
  · rfl
  · rfl
  · exact absurd ⟨by decide, by decide⟩ h
  · rfl

/-- A controller that latches what comes. -/
def host : Host ErrorLatches where
  answer query latches :=
    answer query ⟨latches.pending ||| latches.coming.headD 0, latches.coming.tail⟩

theorem test_summary (pending : HalfWord) :
    NormalEvents.errorInterrupt.test (if pending = 0 then 0 else 0x8000) =
      decide (pending ≠ 0) := by
  split
  case isTrue h =>
    subst h
    rfl
  case isFalse h =>
    rw [decide_eq_true h]
    rfl

/-- Everything that is latched is pending until it is cleared. -/
def hardware : ErrorHardware host where
  pending latches := latches.pending
  raised _ latches := latches.coming.headD 0
  read_reply _ := rfl
  summary_reply _ := test_summary _
  pending_write _ _ := rfl
  pending_other query latches hquery := by rw [host, answer_snd hquery]

/-- A command timed out, and a data CRC error comes while that is acknowledged. -/
def crossed : ErrorLatches :=
  ⟨0x0001, [0, 0, 0, 0, 0x0020]⟩

end ErrorLatches

/-- The first error is told and the second is lost. Both are accounted for. -/
theorem errors_of_looks_crossed :
    ∃ snapshot after,
      Slot.takeInterrupts.run ErrorLatches.host ErrorLatches.crossed =
        (.ok (some snapshot), after) ∧
      ErrorLatches.hardware.Look ErrorLatches.crossed (some snapshot) 0x0020 after ∧
      ErrorLatches.hardware.cleared Slot.takeInterrupts ErrorLatches.crossed =
        snapshot.errors ||| 0x0020 ∧
      ErrorLatches.hardware.Served 0x0021 [0x0001] 0x0020 after ∧
      0x0001 ||| 0x0020 ||| ErrorLatches.hardware.pending after = 0x0021 := by
  have hlook : ErrorLatches.hardware.Look ErrorLatches.crossed
      (some (Snapshot.ofStatus 0x8000 0x0001)) _ ⟨0, []⟩ :=
    .seen rfl (by decide) rfl rfl rfl rfl
  have hserved : ErrorLatches.hardware.Served 0x0021 [0x0001] 0x0020 ⟨0, []⟩ :=
    .looked (.start ErrorLatches.crossed) hlook
  obtain ⟨-, hlooks, hruns⟩ := errors_of_looks ErrorLatches.hardware
  obtain ⟨hrun, -, hcleared, -⟩ := hlooks _ _ _ _ hlook
  exact ⟨_, _, hrun, hlook, hcleared, hserved, hruns _ _ _ _ hserved⟩

/-- An error that comes as another one is acknowledged is cleared and told to nobody, and the next look
finds nothing. -/
theorem error_lost_while_acknowledged :
    ∃ snapshot after,
      Slot.takeInterrupts.run ErrorLatches.host ErrorLatches.crossed =
        (.ok (some snapshot), after) ∧
      (ErrorLatches.hardware.cleared Slot.takeInterrupts ErrorLatches.crossed).getLsbD 5 = true ∧
      snapshot.errors.getLsbD 5 = false ∧
      (ErrorLatches.hardware.pending after).getLsbD 5 = false ∧
      (Slot.takeInterrupts.run ErrorLatches.host after).1 = .ok none :=
  ⟨_, _, rfl, by decide, by decide, by decide, rfl⟩

end SdHost
