import SdHost.Proofs.Host.Task

/-!
# Invariants of tasks

Most of what a driver does has nothing to do with the property at hand. `Task.Maintains` says so: a
task keeps an invariant of its state, whatever it is told and however it ends, and its events are
all of one kind. The rules of this module follow the way tasks are put together, so that only the
few tasks that a property is about have to be looked into.

How a task can fail is told in the same way, by `Task.FailsOnly`.

Events of a kind that `Event.Spares` a part of the surroundings leave it as it is, however many of
them a run takes: `Program.Asks.view_eq` and `Task.Maintains.view_of_run`.
-/

namespace SdHost

namespace Program

variable {α β σ : Type} {Quiet : Event → Prop}

/-- All events of the program are of one kind, whatever it is told. -/
def Asks (Quiet : Event → Prop) (program : Program α) : Prop :=
  program.Ensures (fun _ => True) fun events _ => ∀ event ∈ events, Quiet event

theorem Asks.done (value : α) : Asks Quiet (.done value) := by
  intro event hevent
  cases hevent

theorem Asks.fault (cause : Fault) : Asks Quiet (.fault cause : Program α) := by
  intro event hevent
  cases hevent

theorem Asks.ask {query : Query} {next : query.Reply → Program α}
    (hquery : ∀ reply, Quiet ⟨query, reply⟩) (hnext : ∀ reply, Asks Quiet (next reply)) :
    Asks Quiet (.ask query next) := by
  intro reply _
  refine (hnext reply).mono fun events _ hevents => ?_
  exact List.forall_mem_cons.mpr ⟨hquery reply, hevents⟩

theorem Asks.request {query : Query} (hquery : ∀ reply, Quiet ⟨query, reply⟩) :
    Asks Quiet (Program.request query) :=
  Asks.ask hquery fun _ => Asks.done _

theorem Asks.bind {program : Program α} {next : α → Program β} (h : Asks Quiet program)
    (hnext : ∀ value, Asks Quiet (next value)) : Asks Quiet (program >>= next) := by
  rw [Asks, ensures_bind]
  refine h.mono fun events outcome hevents => ?_
  cases outcome with
  | error cause => exact hevents
  | ok value =>
    refine (hnext value).mono fun later _ hlater => ?_
    exact List.forall_mem_append.mpr ⟨hevents, hlater⟩

theorem Asks.weaken {Quiet' : Event → Prop} {program : Program α} (h : Asks Quiet program)
    (himp : ∀ event, Quiet event → Quiet' event) : Asks Quiet' program :=
  Ensures.mono h fun _ _ hevents event hevent => himp event (hevents event hevent)

theorem Asks.ite {condition : Prop} [Decidable condition] {first second : Program α}
    (hfirst : Asks Quiet first) (hsecond : Asks Quiet second) :
    Asks Quiet (if condition then first else second) := by
  split
  · exact hfirst
  · exact hsecond

theorem Asks.of_forall (h : ∀ event, Quiet event) (program : Program α) : Asks Quiet program := by
  induction program with
  | done value => exact .done value
  | fault cause => exact .fault cause
  | ask query next ih => exact .ask (fun _ => h _) ih

theorem Asks.of_mem_history {σ : Type} {program : Program α} (h : Asks Quiet program)
    {host : Host σ} {state : σ} : ∀ event ∈ program.history host state, Quiet event :=
  Ensures.run h (fun _ _ => trivial) state

end Program

/-- The answer to the query of the event leaves a part of the surroundings as it is. -/
def Event.Spares {σ β : Type} (host : Host σ) (view : σ → β) (event : Event) : Prop :=
  ∀ state, view (host.answer event.query state).2 = view state

/-- What all events of a run leave alone is the same after it. -/
theorem Program.view_of_history {σ α β : Type} {host : Host σ} {view : σ → β}
    (program : Program α) (state : σ)
    (h : ∀ event ∈ program.history host state, event.Spares host view) :
    view (program.run host state).2 = view state := by
  induction program generalizing state with
  | done => rfl
  | fault => rfl
  | ask query next ih =>
    rw [history_ask] at h
    obtain ⟨hquery, hrest⟩ := List.forall_mem_cons.mp h
    rw [run_ask, ih _ _ hrest]
    exact hquery state

/-- What a program asks leaves a part of the surroundings alone, and so does a run of it. -/
theorem Program.Asks.view_eq {σ α β : Type} {host : Host σ} {view : σ → β} {program : Program α}
    (h : program.Asks (Event.Spares host view)) {state after : σ} {outcome : Except Fault α}
    (hrun : program.run host state = (outcome, after)) : view after = view state := by
  have hview := program.view_of_history state h.of_mem_history
  rwa [hrun] at hview

namespace Attempt

variable {α β : Type} {Quiet : Event → Prop}

theorem asks_program {program : Program α} (h : program.Asks Quiet) :
    (liftM program : Attempt α).run.Asks Quiet :=
  Program.Asks.bind h fun _ => .done _

theorem asks_bind {attempt : Attempt α} {next : α → Attempt β} (h : attempt.run.Asks Quiet)
    (hnext : ∀ value, (next value).run.Asks Quiet) : (attempt >>= next).run.Asks Quiet := by
  rw [run_bind]
  refine Program.Asks.bind h fun outcome => ?_
  cases outcome with
  | error cause => exact .done _
  | ok value => exact hnext value

theorem asks_ite {condition : Prop} [Decidable condition] {first second : Attempt α}
    (hfirst : first.run.Asks Quiet) (hsecond : second.run.Asks Quiet) :
    (if condition then first else second).run.Asks Quiet := by
  split
  · exact hfirst
  · exact hsecond

end Attempt

namespace Task

variable {σ α β : Type} {Quiet : Event → Prop} {Inv : σ → Prop}

/-- The task keeps an invariant of its state, and all its events are of one kind. -/
def Maintains (Quiet : Event → Prop) (Inv : σ → Prop) (task : Task σ α) : Prop :=
  ∀ state, Inv state → (task.start state).Ensures (fun _ => True) fun events outcome =>
    (∀ event ∈ events, Quiet event) ∧
      ∀ result state', outcome = .ok (result, state') → Inv state'

namespace Maintains

/-- So the invariant holds after a run, if it held before. -/
theorem of_run {ρ : Type} {task : Task σ α} (h : Maintains Quiet Inv task) {state state' : σ}
    (hstate : Inv state) {host : Host ρ} {surroundings after : ρ} {result : Except Error α}
    (hrun : (task.start state).run host surroundings = (.ok (result, state'), after)) :
    Inv state' :=
  ((h state hstate).of_run hrun).2 result state' rfl

theorem weaken {Quiet' : Event → Prop} {task : Task σ α} (h : Maintains Quiet Inv task)
    (himp : ∀ event, Quiet event → Quiet' event) : Maintains Quiet' Inv task := by
  intro state hstate
  refine (h state hstate).mono fun events outcome hkept => ⟨fun event hevent => ?_, hkept.2⟩
  exact himp event (hkept.1 event hevent)

/-- What it asks for is of that kind, where the invariant holds. -/
theorem asks {task : Task σ α} (h : Maintains Quiet Inv task) {state : σ} (hstate : Inv state) :
    (task.start state).Asks Quiet :=
  (h state hstate).mono fun _ _ hkept => hkept.1

/-- What all its events leave alone in the surroundings is the same after a run. -/
theorem view_of_run {ρ γ : Type} {host : Host ρ} {view : ρ → γ} {task : Task σ α}
    (h : Maintains (Event.Spares host view) Inv task) {state state' : σ} (hstate : Inv state)
    {surroundings after : ρ} {result : Except Error α}
    (hrun : (task.start state).run host surroundings = (.ok (result, state'), after)) :
    view after = view surroundings :=
  (h.asks hstate).view_eq hrun

theorem pure (value : α) : Maintains Quiet Inv (Pure.pure value : Task σ α) := by
  intro state hstate
  rw [start_pure, Program.ensures_done]
  refine ⟨by simp, ?_⟩
  rintro _ _ ⟨⟩
  exact hstate

theorem throw (cause : Error) : Maintains Quiet Inv (throw cause : Task σ α) := by
  intro state hstate
  rw [start_throw, Program.ensures_done]
  refine ⟨by simp, ?_⟩
  rintro _ _ ⟨⟩
  exact hstate

theorem get : Maintains Quiet Inv (get : Task σ σ) := by
  intro state hstate
  rw [start_get, Program.ensures_done]
  refine ⟨by simp, ?_⟩
  rintro _ _ ⟨⟩
  exact hstate

theorem modify {change : σ → σ} (h : ∀ state, Inv state → Inv (change state)) :
    Maintains Quiet Inv (modify change : Task σ Unit) := by
  intro state hstate
  rw [start_modify, Program.ensures_done]
  refine ⟨by simp, ?_⟩
  rintro _ _ ⟨⟩
  exact h state hstate

theorem bind {task : Task σ α} {next : α → Task σ β} (h : Maintains Quiet Inv task)
    (hnext : ∀ value, Maintains Quiet Inv (next value)) : Maintains Quiet Inv (task >>= next) := by
  intro state hstate
  rw [start_bind, Program.ensures_bind]
  refine (h state hstate).mono ?_
  rintro events (cause | ⟨_ | value, state'⟩) ⟨hevents, hkept⟩
  · exact ⟨hevents, by rintro _ _ ⟨⟩⟩
  · -- the task failed, and what comes after it is not started
    simp only [Program.ensures_done, List.append_nil]
    refine ⟨hevents, ?_⟩
    rintro _ _ ⟨⟩
    exact hkept _ _ rfl
  · refine (hnext value state' (hkept _ _ rfl)).mono ?_
    rintro later outcome ⟨hlater, hkept'⟩
    exact ⟨List.forall_mem_append.mpr ⟨hevents, hlater⟩, hkept'⟩

/-- The invariant holds of what is read of the state. -/
theorem get_bind {next : σ → Task σ α}
    (hnext : ∀ state, Inv state → Maintains Quiet Inv (next state)) :
    Maintains Quiet Inv (MonadState.get >>= next) := by
  intro state hstate
  rw [start_bind, start_get, Program.done_bind]
  exact hnext state hstate state hstate

/-- What comes after a failure is not started, whatever it is. -/
theorem throw_bind (cause : Error) (next : α → Task σ β) :
    Maintains Quiet Inv (throwThe Error cause >>= next) := by
  intro state hstate
  rw [start_bind]
  refine ⟨by simp, ?_⟩
  rintro _ _ ⟨⟩
  exact hstate

theorem tryCatch {task : Task σ α} {handler : Error → Task σ α} (h : Maintains Quiet Inv task)
    (hhandler : ∀ cause, Maintains Quiet Inv (handler cause)) :
    Maintains Quiet Inv (tryCatch task handler) := by
  intro state hstate
  rw [start_tryCatch, Program.ensures_bind]
  refine (h state hstate).mono ?_
  rintro events (cause | ⟨cause | value, state'⟩) ⟨hevents, hkept⟩
  · exact ⟨hevents, by rintro _ _ ⟨⟩⟩
  · refine (hhandler cause state' (hkept _ _ rfl)).mono ?_
    rintro later outcome ⟨hlater, hkept'⟩
    exact ⟨List.forall_mem_append.mpr ⟨hevents, hlater⟩, hkept'⟩
  · simp only [Program.ensures_done, List.append_nil]
    refine ⟨hevents, ?_⟩
    rintro _ _ ⟨⟩
    exact hkept _ _ rfl

theorem ite {condition : Prop} [Decidable condition] {first second : Task σ α}
    (hfirst : condition → Maintains Quiet Inv first)
    (hsecond : ¬ condition → Maintains Quiet Inv second) :
    Maintains Quiet Inv (if condition then first else second) := by
  split
  next h => exact hfirst h
  next h => exact hsecond h

theorem program {program : Program α} (h : program.Asks Quiet) :
    Maintains Quiet Inv (liftM program : Task σ α) := by
  intro state hstate
  rw [start_program, Program.ensures_bind]
  refine h.mono ?_
  rintro events (cause | value) hevents
  · exact ⟨hevents, by rintro _ _ ⟨⟩⟩
  · simp only [Program.ensures_done, List.append_nil]
    refine ⟨hevents, ?_⟩
    rintro _ _ ⟨⟩
    exact hstate

theorem attempt {attempt : Attempt α} (h : attempt.run.Asks Quiet) :
    Maintains Quiet Inv (liftM attempt : Task σ α) := by
  intro state hstate
  rw [start_attempt, Program.ensures_bind]
  refine h.mono ?_
  rintro events (cause | result) hevents
  · exact ⟨hevents, by rintro _ _ ⟨⟩⟩
  · simp only [Program.ensures_done, List.append_nil]
    refine ⟨hevents, ?_⟩
    rintro _ _ ⟨⟩
    exact hstate

theorem ofExcept (outcome : Except Fault α) :
    Maintains Quiet Inv (liftM outcome : Task σ α) := by
  cases outcome with
  | error cause =>
    intro state _
    rw [start_ofExcept_error, Program.ensures_fault]
    exact ⟨by simp, by rintro _ _ ⟨⟩⟩
  | ok value => exact pure value

theorem except (result : Except Error α) : Maintains Quiet Inv (liftM result : Task σ α) := by
  cases result with
  | error cause => exact throw cause
  | ok value => exact pure value

theorem discard {task : Task σ α} (h : Maintains Quiet Inv task) :
    Maintains Quiet Inv (discard task : Task σ Unit) :=
  h.bind fun _ => pure ()

end Maintains

/-! ## How a task can fail -/

/-- All errors that the task can end with are of one kind, whatever it is told. -/
def FailsOnly (Cause : Error → Prop) (task : Task σ α) : Prop :=
  ∀ state, (task.start state).Ensures (fun _ => True) fun _ outcome =>
    ∀ cause state', outcome = .ok (.error cause, state') → Cause cause

namespace FailsOnly

variable {Cause : Error → Prop}

theorem pure (value : α) : FailsOnly Cause (Pure.pure value : Task σ α) := by
  rintro _ _ _ ⟨⟩

theorem get : FailsOnly Cause (get : Task σ σ) := by
  rintro _ _ _ ⟨⟩

theorem modify (change : σ → σ) : FailsOnly Cause (modify change : Task σ Unit) := by
  rintro _ _ _ ⟨⟩

theorem throw {cause : Error} (h : Cause cause) : FailsOnly Cause (throw cause : Task σ α) := by
  rintro _ _ _ ⟨⟩
  exact h

theorem bind {task : Task σ α} {next : α → Task σ β} (h : FailsOnly Cause task)
    (hnext : ∀ value, FailsOnly Cause (next value)) : FailsOnly Cause (task >>= next) := by
  intro state
  rw [start_bind, Program.ensures_bind]
  refine (h state).mono ?_
  rintro events (fault | ⟨cause | value, state'⟩) hcause
  · rintro _ _ ⟨⟩
  · rintro _ _ ⟨⟩
    exact hcause cause state' rfl
  · exact hnext value state'

theorem throw_bind {cause : Error} (h : Cause cause) (next : α → Task σ β) :
    FailsOnly Cause (throwThe Error cause >>= next) := by
  intro state
  rw [start_bind]
  rintro _ _ ⟨⟩
  exact h

theorem ite {condition : Prop} [Decidable condition] {first second : Task σ α}
    (hfirst : condition → FailsOnly Cause first) (hsecond : ¬ condition → FailsOnly Cause second) :
    FailsOnly Cause (if condition then first else second) := by
  split
  next h => exact hfirst h
  next h => exact hsecond h

theorem discard {task : Task σ α} (h : FailsOnly Cause task) :
    FailsOnly Cause (discard task : Task σ Unit) :=
  h.bind fun _ => pure ()

/-- A program that is carried out does not fail by itself. -/
theorem program (program : Program α) : FailsOnly Cause (liftM program : Task σ α) := by
  intro state
  rw [start_program, Program.ensures_bind]
  -- nothing needs to be known of its events
  refine Program.Ensures.mono (Program.Asks.of_forall (fun _ => trivial) program) ?_
  rintro events (fault | value) - <;> rintro _ _ ⟨⟩

end FailsOnly

end Task

end SdHost
