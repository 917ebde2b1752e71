import SdHost.Proofs.Host.Footprint

/-!
# What a stored register goes on holding

A register that keeps what is written to it is often changed in part: it is read, and written back with
a field set. What such changes leave alone is still there in the end, however a program comes to its
end.

`StoredRegister.Keeps` says that a program leaves something about the content of the register as it is.
Its rules follow the way programs and attempts are put together: a change has to keep it, what was read
may be relied on, and programs that write elsewhere keep everything.
-/

namespace SdHost

namespace StoredRegister

variable {σ α β : Type} {width : Width} {host : Host σ} {register : Register width}
  (stored : StoredRegister host register) {P : BitVec width.bits → Prop}

/-- What held of the content of the register still holds after a run, if it comes to its end or not. -/
def Keeps (P : BitVec width.bits → Prop) (program : Program α) : Prop :=
  ∀ state, P (stored.value state) → P (stored.value (program.run host state).2)

/-- What asks for nothing that reaches the register does not change what it holds. -/
theorem value_of_asks {program : Program α}
    (h : program.Asks fun event => ¬ event.query.Reaches register) {state after : σ}
    {outcome : Except Fault α} (hrun : program.run host state = (outcome, after)) :
    stored.value after = stored.value state := by
  have hspares : program.Asks (Event.Spares host stored.value) :=
    h.weaken fun event hevent state => stored.value_other event.query state hevent
  exact hspares.view_eq hrun

/-- So does what writes places apart from the register. -/
theorem value_of_writesAmong {places : List (Width × Nat)} {program : Program α}
    (h : program.Asks (Event.WritesAmong places)) (hplaces : places.all register.isApart = true)
    {state after : σ} {outcome : Except Fault α}
    (hrun : program.run host state = (outcome, after)) :
    stored.value after = stored.value state :=
  stored.value_of_asks (h.weaken fun _ hevent => hevent.not_reaches hplaces) hrun

/-- A read gives what the register holds. -/
theorem run_read (state : σ) :
    ∃ after, register.read.run host state = (.ok (stored.value state), after) ∧
      stored.value after = stored.value state := by
  have hasks : register.read.Asks (Event.WritesAmong []) := register.asks_read
  have hvalue : stored.value (register.read.run host state).2 = stored.value state :=
    stored.value_of_writesAmong hasks rfl rfl
  refine ⟨_, ?_, hvalue⟩
  show (_, _) = _
  rw [stored.read_reply, stored.value_other _ _ id]
  rfl

theorem run_write (new : BitVec width.bits) (state : σ) :
    ∃ after, (register.write new).run host state = (.ok (), after) ∧ stored.value after = new :=
  ⟨_, rfl, stored.value_write _ _⟩

/-- A change makes of the register what it makes of its content. -/
theorem run_modify (change : BitVec width.bits → BitVec width.bits) (state : σ) :
    ∃ after, (register.modify change).run host state = (.ok (), after) ∧
      stored.value after = change (stored.value state) := by
  obtain ⟨between, hread, -⟩ := stored.run_read state
  obtain ⟨after, hwrite, hvalue⟩ := stored.run_write (change (stored.value state)) between
  exact ⟨after, (Program.run_bind_of_ok hread _).trans hwrite, hvalue⟩

namespace Keeps

variable {stored}

theorem done (value : α) : stored.Keeps P (.done value) := fun _ h => h

theorem bind {program : Program α} {next : α → Program β} (h : stored.Keeps P program)
    (hnext : ∀ value, stored.Keeps P (next value)) : stored.Keeps P (program >>= next) := by
  intro state hstate
  have hbetween := h state hstate
  rw [Program.run_bind]
  rcases hrun : program.run host state with ⟨cause | value, between⟩
  · rwa [hrun] at hbetween
  · rw [hrun] at hbetween
    exact hnext value between hbetween

/-- What writes elsewhere keeps everything. -/
theorem of_writesAmong {places : List (Width × Nat)} {program : Program α}
    (h : program.Asks (Event.WritesAmong places)) (hplaces : places.all register.isApart = true) :
    stored.Keeps P program := by
  intro state hstate
  rwa [stored.value_of_writesAmong h hplaces rfl]

theorem delay (microseconds : Word) : stored.Keeps P (Program.delay microseconds) := by
  have hasks : (Program.delay microseconds).Asks (Event.WritesAmong []) :=
    Program.asks_delay microseconds
  exact of_writesAmong hasks rfl

section Other

variable {width' : Width} {other : Register width'}

theorem read_other (other : Register width') : stored.Keeps P other.read := by
  have hasks : other.read.Asks (Event.WritesAmong []) := other.asks_read
  exact of_writesAmong hasks rfl

theorem write_other (hapart : register.isApart other.place = true) (new : BitVec width'.bits) :
    stored.Keeps P (other.write new) := by
  have hasks : (other.write new).Asks (Event.WritesAmong [other.place]) :=
    Register.asks_write List.mem_cons_self new
  exact of_writesAmong hasks (by simpa using hapart)

theorem modify_other (hapart : register.isApart other.place = true)
    (change : BitVec width'.bits → BitVec width'.bits) : stored.Keeps P (other.modify change) :=
  (read_other other).bind fun _ => write_other hapart _

end Other

/-- What was read may be relied on. -/
theorem read_bind {next : BitVec width.bits → Program β}
    (hnext : ∀ value, P value → stored.Keeps P (next value)) :
    stored.Keeps P (register.read >>= next) := by
  intro state hstate
  obtain ⟨between, hread, hvalue⟩ := stored.run_read state
  rw [Program.run_bind_of_ok hread]
  exact hnext _ hstate _ (hvalue ▸ hstate)

theorem write {new : BitVec width.bits} (h : P new) : stored.Keeps P (register.write new) := by
  intro state _
  obtain ⟨after, hwrite, hvalue⟩ := stored.run_write new state
  rwa [hwrite, hvalue]

theorem modify {change : BitVec width.bits → BitVec width.bits}
    (h : ∀ value, P value → P (change value)) : stored.Keeps P (register.modify change) :=
  read_bind fun value hvalue => write (h value hvalue)

/-! ## Attempts -/

theorem attempt_program {program : Program α} (h : stored.Keeps P program) :
    stored.Keeps P (liftM program : Attempt α).run :=
  h.bind fun _ => done _

theorem attempt_bind {attempt : Attempt α} {next : α → Attempt β}
    (h : stored.Keeps P attempt.run) (hnext : ∀ value, stored.Keeps P (next value).run) :
    stored.Keeps P (attempt >>= next).run := by
  rw [Attempt.run_bind]
  refine h.bind fun outcome => ?_
  rcases outcome with cause | value
  · exact done _
  · exact hnext value

theorem attempt_ite {condition : Prop} [Decidable condition] {first second : Attempt α}
    (hfirst : condition → stored.Keeps P first.run)
    (hsecond : ¬ condition → stored.Keeps P second.run) :
    stored.Keeps P (if condition then first else second).run := by
  split
  next h => exact hfirst h
  next h => exact hsecond h

theorem attempt_read_bind {next : BitVec width.bits → Attempt β}
    (hnext : ∀ value, P value → stored.Keeps P (next value).run) :
    stored.Keeps P ((liftM register.read : Attempt (BitVec width.bits)) >>= next).run := by
  rw [Attempt.run_bind, Attempt.run_program, Program.bind_bind]
  exact read_bind hnext

end Keeps

end StoredRegister

end SdHost
