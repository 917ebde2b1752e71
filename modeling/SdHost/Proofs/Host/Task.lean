import SdHost.Proofs.Host.History
import SdHost.Slot.Transfer

/-!
# Attempts and tasks as programs

An attempt may fail, and a task also works on a state. Run, an attempt is a program that comes to
its end with an outcome; started in a state, a task is a program that comes to its end with an
outcome and the state it left behind. The equations of this module take attempts and tasks apart
into such programs step by step, so that what is known about programs carries over.
-/

namespace SdHost

namespace Attempt

variable {α β : Type}

@[simp]
theorem run_pure (value : α) : (pure value : Attempt α).run = .done (.ok value) := rfl

@[simp]
theorem run_throw (cause : Error) : (throw cause : Attempt α).run = .done (.error cause) := rfl

/-- A failure ends an attempt, and what comes after it is not started. -/
theorem run_bind (attempt : Attempt α) (next : α → Attempt β) :
    (attempt >>= next).run = attempt.run >>= fun outcome =>
      match outcome with
      | .ok value => (next value).run
      | .error cause => .done (.error cause) := by
  show (attempt.run >>= fun outcome => ExceptT.bindCont next outcome) = _
  congr 1
  funext outcome
  cases outcome <;> rfl

@[simp]
theorem run_program (program : Program α) :
    (liftM program : Attempt α).run = program >>= fun value => .done (.ok value) := rfl

@[simp]
theorem run_ofExcept (outcome : Except Fault α) :
    (liftM outcome : Attempt α).run = Program.ofExcept outcome >>= fun value =>
      .done (.ok value) := rfl

variable {Allowed : Event → Prop}

/-- What an attempt ensures is ensured in steps, of which the last is the first that fails. -/
theorem ensures_bind (attempt : Attempt α) (next : α → Attempt β)
    (post : List Event → Except Fault (Except Error β) → Prop) :
    (attempt >>= next).run.Ensures Allowed post ↔
      attempt.run.Ensures Allowed fun events outcome =>
        match outcome with
        | .ok (.ok value) => (next value).run.Ensures Allowed fun later => post (events ++ later)
        | .ok (.error cause) => post events (.ok (.error cause))
        | .error cause => post events (.error cause) := by
  rw [run_bind, Program.ensures_bind]
  constructor
  · refine fun h => h.mono ?_
    rintro events (cause | cause | value) hevents
    · exact hevents
    · exact List.append_nil events ▸ hevents
    · exact hevents
  · refine fun h => h.mono ?_
    rintro events (cause | cause | value) hevents
    · exact hevents
    · show post (events ++ []) _
      rwa [List.append_nil]
    · exact hevents

/-- A program in an attempt does not fail. -/
theorem ensures_program (program : Program α)
    (post : List Event → Except Fault (Except Error α) → Prop) :
    (liftM program : Attempt α).run.Ensures Allowed post ↔
      program.Ensures Allowed fun events outcome => post events (outcome.map .ok) := by
  rw [run_program, Program.ensures_bind]
  constructor
  · refine fun h => h.mono ?_
    rintro events (cause | value) hevents
    · exact hevents
    · exact List.append_nil events ▸ hevents
  · refine fun h => h.mono ?_
    rintro events (cause | value) hevents
    · exact hevents
    · show post (events ++ []) _
      rwa [List.append_nil]

end Attempt

namespace Task

variable {σ α β : Type}

/-- The program that a task is when it starts in a state. -/
def start (task : Task σ α) (state : σ) : Program (Except Error α × σ) :=
  task.run.run state

@[simp]
theorem start_pure (value : α) (state : σ) :
    (pure value : Task σ α).start state = .done (.ok value, state) := rfl

@[simp]
theorem start_throw (cause : Error) (state : σ) :
    (throw cause : Task σ α).start state = .done (.error cause, state) := rfl

/-- A failure ends a task, and what comes after it is not started. -/
theorem start_bind (task : Task σ α) (next : α → Task σ β) (state : σ) :
    (task >>= next).start state = task.start state >>= fun outcome =>
      match outcome with
      | (.ok value, state) => (next value).start state
      | (.error cause, state) => .done (.error cause, state) := by
  show (task.run.run state >>= fun outcome => (ExceptT.bindCont next outcome.1).run outcome.2) = _
  congr 1
  funext outcome
  obtain ⟨result, state⟩ := outcome
  cases result <;> rfl

@[simp]
theorem start_get (state : σ) : (get : Task σ σ).start state = .done (.ok state, state) := rfl

@[simp]
theorem start_set (state state' : σ) :
    (set state' : Task σ Unit).start state = .done (.ok (), state') := rfl

@[simp]
theorem start_modify (change : σ → σ) (state : σ) :
    (modify change : Task σ Unit).start state = .done (.ok (), change state) := rfl

@[simp]
theorem start_ite (condition : Prop) [Decidable condition] (first second : Task σ α) (state : σ) :
    (if condition then first else second).start state =
      if condition then first.start state else second.start state := by
  split <;> rfl

@[simp]
theorem start_program (program : Program α) (state : σ) :
    (liftM program : Task σ α).start state = program >>= fun value => .done (.ok value, state) :=
  Program.bind_bind program _ _

@[simp]
theorem start_attempt (attempt : Attempt α) (state : σ) :
    (liftM attempt : Task σ α).start state = attempt.run >>= fun result => .done (result, state) :=
  rfl

/-- What a program ensures is ensured by it in a task, which it leaves in the state that it was in. -/
theorem ensures_program {Allowed : Event → Prop} (program : Program α) (state : σ)
    (post : List Event → Except Fault (Except Error α × σ) → Prop) :
    ((liftM program : Task σ α).start state).Ensures Allowed post ↔
      program.Ensures Allowed fun events outcome =>
        post events (outcome.map fun value => (.ok value, state)) := by
  rw [start_program, Program.ensures_bind]
  constructor
  · refine fun h => h.mono ?_
    rintro events (cause | value) hevents
    · exact hevents
    · exact List.append_nil events ▸ hevents
  · refine fun h => h.mono ?_
    rintro events (cause | value) hevents
    · exact hevents
    · show post (events ++ []) _
      rwa [List.append_nil]

/-- What an attempt ensures is ensured by it in a task, which it leaves in the state that it was in. -/
theorem ensures_attempt {Allowed : Event → Prop} (attempt : Attempt α) (state : σ)
    (post : List Event → Except Fault (Except Error α × σ) → Prop) :
    ((liftM attempt : Task σ α).start state).Ensures Allowed post ↔
      attempt.run.Ensures Allowed fun events outcome =>
        post events (outcome.map fun result => (result, state)) := by
  rw [start_attempt, Program.ensures_bind]
  constructor
  · refine fun h => h.mono ?_
    rintro events (cause | result) hevents
    · exact hevents
    · exact List.append_nil events ▸ hevents
  · refine fun h => h.mono ?_
    rintro events (cause | result) hevents
    · exact hevents
    · show post (events ++ []) _
      rwa [List.append_nil]

/-- What an attempt ensures holds of a run of it in a task, with the outcome that the attempt comes
to. -/
theorem exists_outcome_of_attempt {ρ : Type} {attempt : Attempt α}
    {post : List Event → Except Fault (Except Error α) → Prop}
    (h : attempt.run.Ensures (fun _ => True) post) (state : σ) (host : Host ρ) (surroundings : ρ) :
    ∃ outcome, post (((liftM attempt : Task σ α).start state).history host surroundings) outcome ∧
      (((liftM attempt : Task σ α).start state).run host surroundings).1 =
        outcome.map fun result => (result, state) := by
  have hstart := (ensures_attempt attempt state fun events outcome' =>
    ∃ outcome, post events outcome ∧ outcome' = outcome.map fun result => (result, state)).mpr
      (h.mono fun _ outcome hpost => ⟨outcome, hpost, rfl⟩)
  exact hstart.run (fun _ _ => trivial) surroundings

@[simp]
theorem start_ofExcept_ok (value : α) (state : σ) :
    (liftM (.ok value : Except Fault α) : Task σ α).start state = .done (.ok value, state) := rfl

@[simp]
theorem start_ofExcept_error (cause : Fault) (state : σ) :
    (liftM (.error cause : Except Fault α) : Task σ α).start state = .fault cause := rfl

@[simp]
theorem start_except (result : Except Error α) (state : σ) :
    (liftM result : Task σ α).start state = .done (result, state) := by
  cases result <;> rfl

@[simp]
theorem start_discard (task : Task σ α) (state : σ) :
    (discard task : Task σ Unit).start state =
      task.start state >>= fun outcome => .done (outcome.1.map fun _ => (), outcome.2) := by
  show ((task >>= fun _ => pure ()) : Task σ Unit).start state = _
  rw [start_bind]
  congr 1
  funext outcome
  obtain ⟨result, state⟩ := outcome
  cases result <;> rfl

theorem start_tryCatch (task : Task σ α) (handler : Error → Task σ α) (state : σ) :
    (tryCatch task handler).start state = task.start state >>= fun outcome =>
      match outcome with
      | (.ok value, state) => .done (.ok value, state)
      | (.error cause, state) => (handler cause).start state := by
  show (task.run.run state >>= fun outcome => _) = _
  congr 1
  funext outcome
  obtain ⟨result, state⟩ := outcome
  cases result <;> rfl

end Task

end SdHost
