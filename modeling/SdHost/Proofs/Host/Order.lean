import SdHost.Proofs.Host.Invariant

/-!
# What comes before what

Some things may be done only after others. Where the events of a run are put together from parts, it is
enough to see for each part what comes before it.

The module introduces:

* `Program.Path`: the events and the outcome of a program for the replies that it gets;
* `OnlyAfter Acts Ready events`: every event that acts has something before it that makes it right.
-/

namespace SdHost

namespace Program

variable {α : Type} {Allowed : Event → Prop}

/-- The program asks the queries of these events one after the other, and comes to this outcome if it
gets their replies. -/
inductive Path : Program α → List Event → Except Fault α → Prop
  | done (value : α) : Path (.done value) [] (.ok value)
  | fault (cause : Fault) : Path (.fault cause) [] (.error cause)
  | ask {query : Query} {next : query.Reply → Program α} {later : List Event}
      {outcome : Except Fault α} (reply : query.Reply) (hnext : Path (next reply) later outcome) :
      Path (.ask query next) (⟨query, reply⟩ :: later) outcome

/-- Whatever a program is told, it goes some way. -/
theorem ensures_path (program : Program α) : program.Ensures Allowed program.Path := by
  induction program with
  | done value => exact .done value
  | fault cause => exact .fault cause
  | ask query next ih => exact fun reply _ => (ih reply).mono fun _ _ => .ask reply

/-- What a program ensures holds of every way that it can go. -/
theorem Ensures.of_path {program : Program α} {post : List Event → Except Fault α → Prop}
    {events : List Event} {outcome : Except Fault α} (h : program.Ensures Allowed post)
    (hpath : program.Path events outcome) (hallowed : ∀ event ∈ events, Allowed event) :
    post events outcome := by
  induction hpath generalizing post with
  | done => exact h
  | fault => exact h
  | ask reply _ ih =>
    obtain ⟨hreply, hlater⟩ := List.forall_mem_cons.mp hallowed
    exact ih (h reply hreply) hlater

/-- What a program asks is of one kind, and so it is where not every reply is allowed. -/
theorem Asks.ensures {Quiet : Event → Prop} {program : Program α} (h : program.Asks Quiet) :
    program.Ensures Allowed fun events _ => ∀ event ∈ events, Quiet event :=
  program.ensures_path.mono fun _ _ hpath => h.of_path hpath fun _ _ => trivial

section Run

variable {σ : Type} {host : Host σ}

/-- A run goes the way of its events. -/
theorem path_history (program : Program α) (state : σ) :
    program.Path (program.history host state) (program.run host state).1 := by
  induction program generalizing state with
  | done value => exact .done value
  | fault cause => exact .fault cause
  | ask query next ih => exact .ask _ (ih _ _)

/-- What a program ensures holds of every run whose events are allowed. -/
theorem Ensures.of_history {program : Program α} {post : List Event → Except Fault α → Prop}
    {state : σ} (h : program.Ensures Allowed post)
    (hallowed : ∀ event ∈ program.history host state, Allowed event) :
    post (program.history host state) (program.run host state).1 :=
  h.of_path (program.path_history state) hallowed

end Run

end Program

variable {Acts : Event → Prop} {Ready : List Event → Prop} {first second : List Event}

/-- Every event that acts comes after events that make it right. -/
def OnlyAfter (Acts : Event → Prop) (Ready : List Event → Prop) (events : List Event) : Prop :=
  ∀ earlier event, earlier ++ [event] <+: events → Acts event → Ready earlier

namespace OnlyAfter

/-- Where nothing acts there is nothing to be made right. -/
theorem of_forall_not {events : List Event} (h : ∀ event ∈ events, ¬ Acts event) :
    OnlyAfter Acts Ready events := by
  intro earlier event hprefix hacts
  have hevent : event ∈ events := hprefix.subset (List.mem_append_right _ List.mem_cons_self)
  exact absurd hacts (h event hevent)

theorem cons {event : Event} {later : List Event} (h : Acts event → Ready [])
    (hlater : OnlyAfter Acts (fun earlier => Ready (event :: earlier)) later) :
    OnlyAfter Acts Ready (event :: later) := by
  intro earlier acting hprefix hacts
  cases earlier with
  | nil =>
    obtain ⟨rfl, -⟩ := List.cons_prefix_cons.mp hprefix
    exact h hacts
  | cons first between =>
    obtain ⟨rfl, hbetween⟩ := List.cons_prefix_cons.mp hprefix
    exact hlater between acting hbetween hacts

/-- Of two runs of events, the second one comes after all of the first. -/
theorem append (h : OnlyAfter Acts Ready first)
    (hsecond : OnlyAfter Acts (fun earlier => Ready (first ++ earlier)) second) :
    OnlyAfter Acts Ready (first ++ second) := by
  intro earlier event hprefix hacts
  rcases List.prefix_or_prefix_of_prefix hprefix (List.prefix_append first second) with
    hwithin | ⟨more, hmore⟩
  · exact h earlier event hwithin hacts
  rcases List.eq_nil_or_concat more with rfl | ⟨between, last, rfl⟩
  · -- the event is the last one of the first run
    rw [List.append_nil] at hmore
    exact h earlier event (hmore ▸ List.prefix_rfl) hacts
  · rw [List.concat_eq_append, ← List.append_assoc] at hmore
    obtain ⟨rfl, hlast⟩ := List.append_inj' hmore rfl
    cases hlast
    rw [List.append_assoc, List.prefix_append_right_inj] at hprefix
    exact hsecond between event hprefix hacts

/-- After a run of events that makes everything right, anything may be done. -/
theorem append_of_forall (h : OnlyAfter Acts Ready first)
    (hready : ∀ earlier, Ready (first ++ earlier)) : OnlyAfter Acts Ready (first ++ second) :=
  h.append fun earlier _ _ _ => hready earlier

end OnlyAfter

end SdHost
