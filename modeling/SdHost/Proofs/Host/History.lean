import Mathlib
import SdHost.Host.Access

/-!
# What programs ask

A run of a program on a host is seen from outside as a sequence of events: the queries that the
program asked, each with the reply it got. This module keeps that sequence and gives the means to
reason about all the sequences a program can produce at once.

The module introduces:

* `Program.history host program state`: the events of one run;
* `program.Ensures Allowed post`: whatever the replies are, as long as each event is `Allowed`,
  the events of a run and its outcome satisfy `post`.

`Program.Ensures.run` carries a statement about all replies over to a run on any host whose
replies are allowed, and `Program.ensures_bind` takes such a statement apart along the program.
-/

namespace SdHost

/-- A query with the reply that it got. -/
structure Event where
  /-- The query. -/
  query : Query
  /-- The reply. -/
  reply : query.Reply

/-- The event is an access to the registers. -/
def Event.isAccess (event : Event) : Bool :=
  match event.query with
  | .barrier | .read _ _ | .write _ _ _ => true
  | _ => false

theorem filter_isAccess_eq_nil {events : List Event}
    (h : ∀ event ∈ events, event.isAccess = false) : events.filter Event.isAccess = [] := by
  rw [List.filter_eq_nil_iff]
  intro event hevent
  rw [h event hevent]
  exact Bool.false_ne_true

/-- Every reply of the host, in every state, makes an event of the given kind. -/
def Host.Always {σ : Type} (host : Host σ) (Allowed : Event → Prop) : Prop :=
  ∀ (query : Query) (state : σ), Allowed ⟨query, (host.answer query state).1⟩

namespace Register

variable {width : Width}

/-- The events of reading a register. -/
def readEvents (register : Register width) (value : BitVec width.bits) : List Event :=
  [⟨.barrier, ()⟩, ⟨.read width register.offset, value⟩]

/-- The events of writing a register. -/
def writeEvents (register : Register width) (value : BitVec width.bits) : List Event :=
  [⟨.barrier, ()⟩, ⟨.write width register.offset value, ()⟩]

@[simp]
theorem length_readEvents (register : Register width) (value : BitVec width.bits) :
    (register.readEvents value).length = 2 := rfl

@[simp]
theorem length_writeEvents (register : Register width) (value : BitVec width.bits) :
    (register.writeEvents value).length = 2 := rfl

end Register

namespace Program

variable {α β σ : Type}

/-- The events of a run on a host. -/
def history (host : Host σ) : Program α → σ → List Event
  | .done _, _ => []
  | .fault _, _ => []
  | .ask query next, state =>
    ⟨query, (host.answer query state).1⟩ ::
      (next (host.answer query state).1).history host (host.answer query state).2

@[simp]
theorem run_done (host : Host σ) (value : α) (state : σ) :
    (Program.done value).run host state = (.ok value, state) := rfl

@[simp]
theorem run_fault (host : Host σ) (cause : Fault) (state : σ) :
    (Program.fault cause : Program α).run host state = (.error cause, state) := rfl

@[simp]
theorem run_ask (host : Host σ) (query : Query) (next : query.Reply → Program α) (state : σ) :
    (Program.ask query next).run host state =
      (next (host.answer query state).1).run host (host.answer query state).2 := rfl

@[simp]
theorem history_done (host : Host σ) (value : α) (state : σ) :
    (Program.done value).history host state = [] := rfl

@[simp]
theorem history_fault (host : Host σ) (cause : Fault) (state : σ) :
    (Program.fault cause : Program α).history host state = [] := rfl

@[simp]
theorem history_ask (host : Host σ) (query : Query) (next : query.Reply → Program α) (state : σ) :
    (Program.ask query next).history host state =
      ⟨query, (host.answer query state).1⟩ ::
        (next (host.answer query state).1).history host (host.answer query state).2 := rfl

theorem run_bind_of_ok {host : Host σ} {program : Program α} {state after : σ} {value : α}
    (hrun : program.run host state = (.ok value, after)) (next : α → Program β) :
    (program >>= next).run host state = (next value).run host after := by
  rw [run_bind, hrun]

/-- The events of one program after another are those of the first, and those of the second where the first
comes to its end. -/
theorem history_bind (host : Host σ) (program : Program α) (next : α → Program β) (state : σ) :
    (program >>= next).history host state = program.history host state ++
      match program.run host state with
      | (.ok value, after) => (next value).history host after
      | (.error _, _) => [] := by
  induction program generalizing state with
  | done => rfl
  | fault => rfl
  | ask query rest ih => exact congrArg _ (ih _ _)

theorem history_bind_of_ok {host : Host σ} {program : Program α} {state after : σ} {value : α}
    (hrun : program.run host state = (.ok value, after)) (next : α → Program β) :
    (program >>= next).history host state =
      program.history host state ++ (next value).history host after := by
  rw [history_bind, hrun]

/-- A run of one program after another that comes to its end is a run of the first, and a run of the
second from what the first left. -/
theorem exists_of_run_bind {host : Host σ} {program : Program α} {next : α → Program β}
    {state after : σ} {value : β}
    (hrun : (program >>= next).run host state = (.ok value, after)) :
    ∃ first between, program.run host state = (.ok first, between) ∧
      (next first).run host between = (.ok value, after) ∧
      (program >>= next).history host state =
        program.history host state ++ (next first).history host between := by
  induction program generalizing state with
  | done first => exact ⟨first, state, rfl, hrun, rfl⟩
  | fault cause => cases hrun
  | ask query rest ih =>
    obtain ⟨first, between, hfirst, hnext, hhistory⟩ := ih _ hrun
    exact ⟨first, between, hfirst, hnext, congrArg _ hhistory⟩

/-- A run on a given host can be carried out to see that it comes to its end, and to what end. -/
theorem exists_of_run_any {host : Host σ} {program : Program α} {state : σ} {P : α → σ → Prop}
    [∀ value after, Decidable (P value after)]
    (h : (program.run host state).1.toOption.any fun value =>
      decide (P value (program.run host state).2)) :
    ∃ value after, program.run host state = (.ok value, after) ∧ P value after := by
  rcases hrun : program.run host state with ⟨_ | value, after⟩
  · simp [hrun, Except.toOption] at h
  · exact ⟨value, after, rfl, by simpa [hrun, Except.toOption] using h⟩

theorem history_bind_done (host : Host σ) (program : Program α) (change : α → β) (state : σ) :
    (program >>= fun value => .done (change value)).history host state =
      program.history host state := by
  induction program generalizing state with
  | done => rfl
  | fault => rfl
  | ask query rest ih =>
    rw [ask_bind, history_ask, history_ask]
    exact congrArg _ (ih _ _)

/-- Whatever the replies are, as long as each event is allowed, the events of a run and its outcome
satisfy a postcondition. -/
def Ensures (Allowed : Event → Prop) :
    Program α → (List Event → Except Fault α → Prop) → Prop
  | .done value, post => post [] (.ok value)
  | .fault cause, post => post [] (.error cause)
  | .ask query next, post =>
    ∀ reply, Allowed ⟨query, reply⟩ →
      (next reply).Ensures Allowed fun events => post (⟨query, reply⟩ :: events)

variable {Allowed : Event → Prop}

@[simp]
theorem ensures_done (value : α) (post : List Event → Except Fault α → Prop) :
    (Program.done value).Ensures Allowed post ↔ post [] (.ok value) := Iff.rfl

@[simp]
theorem ensures_fault (cause : Fault) (post : List Event → Except Fault α → Prop) :
    (Program.fault cause : Program α).Ensures Allowed post ↔ post [] (.error cause) := Iff.rfl

@[simp]
theorem ensures_ask (query : Query) (next : query.Reply → Program α)
    (post : List Event → Except Fault α → Prop) :
    (Program.ask query next).Ensures Allowed post ↔
      ∀ reply, Allowed ⟨query, reply⟩ →
        (next reply).Ensures Allowed fun events => post (⟨query, reply⟩ :: events) := Iff.rfl

theorem Ensures.mono {program : Program α} {post post' : List Event → Except Fault α → Prop}
    (h : program.Ensures Allowed post) (himp : ∀ events outcome, post events outcome →
      post' events outcome) : program.Ensures Allowed post' := by
  induction program generalizing post post' with
  | done => exact himp _ _ h
  | fault => exact himp _ _ h
  | ask query next ih =>
    intro reply hreply
    exact ih reply (h reply hreply) fun events outcome => himp _ outcome

/-- What is ensured for itself is ensured together. -/
theorem Ensures.and {program : Program α} {post post' : List Event → Except Fault α → Prop}
    (h : program.Ensures Allowed post) (h' : program.Ensures Allowed post') :
    program.Ensures Allowed fun events outcome => post events outcome ∧ post' events outcome := by
  induction program generalizing post post' with
  | done => exact ⟨h, h'⟩
  | fault => exact ⟨h, h'⟩
  | ask query next ih => exact fun reply hreply => ih reply (h reply hreply) (h' reply hreply)

/-- What a program ensures is ensured in steps: first what comes of its first part, and from there
what comes of the rest. -/
theorem ensures_bind (program : Program α) (next : α → Program β)
    (post : List Event → Except Fault β → Prop) :
    (program >>= next).Ensures Allowed post ↔
      program.Ensures Allowed fun events outcome =>
        match outcome with
        | .ok value => (next value).Ensures Allowed fun later => post (events ++ later)
        | .error cause => post events (.error cause) := by
  induction program generalizing post with
  | done => rfl
  | fault => rfl
  | ask query rest ih =>
    rw [ask_bind, ensures_ask, ensures_ask]
    exact forall₂_congr fun reply _ => ih reply _

/-- What is ensured for all allowed replies holds of a run on a host that gives such replies. -/
theorem Ensures.run {program : Program α} {post : List Event → Except Fault α → Prop}
    (h : program.Ensures Allowed post) {host : Host σ} (hhost : host.Always Allowed) (state : σ) :
    post (program.history host state) (program.run host state).1 := by
  induction program generalizing state post with
  | done => exact h
  | fault => exact h
  | ask query next ih => exact ih _ (h _ (hhost query state)) _

/-- What is ensured for all replies holds of every run. -/
theorem Ensures.of_run {program : Program α} {post : List Event → Except Fault α → Prop}
    (h : program.Ensures (fun _ => True) post) {host : Host σ} {state after : σ}
    {outcome : Except Fault α} (hrun : program.run host state = (outcome, after)) :
    post (program.history host state) outcome := by
  have hany : host.Always fun _ => True := fun _ _ => trivial
  have hpost := h.run hany state
  rwa [hrun] at hpost

end Program

end SdHost
