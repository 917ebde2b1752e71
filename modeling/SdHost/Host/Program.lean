import SdHost.Host.Query

/-!
# Programs

The driver is written as programs that ask their surroundings and go on with the reply. What the
surroundings are is left open: a `Host` answers queries out of a state of its own, and a program
can be run on any host. So a statement about every behaviour of the hardware, the firmware and
the framework is a statement about every host, or about every reply in the tree of a program.

* `Program.run_bind`: running one program after another is running the two in turn.
-/

namespace SdHost

/-- A computation that asks its surroundings. -/
inductive Program (α : Type) : Type where
  /-- The computation is over. -/
  | done (value : α)
  /-- The computation stops on a broken promise. -/
  | fault (cause : Fault)
  /-- The computation asks, and goes on with the reply. -/
  | ask (query : Query) (next : query.Reply → Program α)

namespace Program

variable {α β γ σ : Type}

/-- Go on with the value of a computation. -/
protected def bind : Program α → (α → Program β) → Program β
  | .done value, next => next value
  | .fault cause, _ => .fault cause
  | .ask query rest, next => .ask query fun reply => (rest reply).bind next

instance : Monad Program where
  pure := .done
  bind := Program.bind

/-- Ask one query. -/
def request (query : Query) : Program query.Reply :=
  .ask query .done

/-- Go on with a value, or stop on a fault. -/
def ofExcept : Except Fault α → Program α
  | .ok value => .done value
  | .error cause => .fault cause

instance : MonadLift (Except Fault) Program where
  monadLift := ofExcept

@[simp]
theorem done_bind (value : α) (next : α → Program β) :
    (Program.done value >>= next) = next value := rfl

@[simp]
theorem fault_bind (cause : Fault) (next : α → Program β) :
    (Program.fault cause >>= next) = .fault cause := rfl

@[simp]
theorem ask_bind (query : Query) (rest : query.Reply → Program α) (next : α → Program β) :
    (Program.ask query rest >>= next) = .ask query fun reply => rest reply >>= next := rfl

theorem bind_done (program : Program α) : (program >>= Program.done) = program := by
  induction program with
  | done => rfl
  | fault => rfl
  | ask query rest ih => simp only [ask_bind, ih]

theorem bind_bind (program : Program α) (first : α → Program β) (second : β → Program γ) :
    ((program >>= first) >>= second) = program >>= fun value => first value >>= second := by
  induction program with
  | done => rfl
  | fault => rfl
  | ask query rest ih => simp only [ask_bind, ih]

instance : LawfulMonad Program :=
  LawfulMonad.mk' Program
    bind_done
    (fun _ _ => rfl)
    bind_bind

end Program

/-- Surroundings that answer queries out of a state of type `σ`. -/
structure Host (σ : Type) where
  /-- The reply to a query, and the state after it. -/
  answer : (query : Query) → σ → query.Reply × σ

namespace Program

variable {α β σ : Type}

/-- Run a program on a host. -/
def run (host : Host σ) : Program α → σ → Except Fault α × σ
  | .done value, state => (.ok value, state)
  | .fault cause, state => (.error cause, state)
  | .ask query next, state =>
    let (reply, state) := host.answer query state
    (next reply).run host state

/-- Running one program after another is running the two in turn. -/
theorem run_bind (host : Host σ) (program : Program α) (next : α → Program β) (state : σ) :
    (program >>= next).run host state =
      match program.run host state with
      | (.ok value, state) => (next value).run host state
      | (.error cause, state) => (.error cause, state) := by
  induction program generalizing state with
  | done => rfl
  | fault => rfl
  | ask query rest ih => exact ih _ _

end Program

/-- A computation that asks its surroundings and may fail. -/
abbrev Attempt (α : Type) : Type :=
  ExceptT Error Program α

/-- A computation that also works on a state of type `σ`. A failure keeps the changes made before
it. -/
abbrev Task (σ α : Type) : Type :=
  ExceptT Error (StateT σ Program) α

/-- An attempt leaves the state of a task alone. -/
instance {σ : Type} : MonadLift Attempt (Task σ) where
  monadLift attempt := ExceptT.mk (StateT.lift attempt.run)

end SdHost
