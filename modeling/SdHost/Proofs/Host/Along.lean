import SdHost.Proofs.Host.Invariant

/-!
# What holds in the course of a run

Some properties are not about what a program leaves in the end, but about every state that it goes
through: a register is written only while something is switched off, or something stays switched off all
the time.

The module introduces `Program.Along`: every query of a run is asked in a state that is right for it.
`Program.along_bind` takes such a statement apart along the program, and `Program.mem_history_of_along`
leads from the states to the events of the run.
-/

namespace SdHost.Program

variable {α β σ : Type} {host : Host σ} {P : Query → σ → Prop}

/-- Every query of a run is asked in a state that is right for it. -/
def Along (host : Host σ) (P : Query → σ → Prop) : Program α → σ → Prop
  | .done _, _ => True
  | .fault _, _ => True
  | .ask query next, state =>
    P query state ∧ (next (host.answer query state).1).Along host P (host.answer query state).2

/-- The queries of one program after another are those of the first, and those of the second where the
first comes to its end. -/
theorem along_bind (program : Program α) (next : α → Program β) (state : σ) :
    (program >>= next).Along host P state ↔
      program.Along host P state ∧
        ∀ value after, program.run host state = (.ok value, after) →
          (next value).Along host P after := by
  induction program generalizing state with
  | done value =>
    refine ⟨fun h => ⟨trivial, ?_⟩, fun h => h.2 value state rfl⟩
    rintro _ _ ⟨⟩
    exact h
  | fault cause =>
    refine iff_of_true trivial ⟨trivial, ?_⟩
    rintro _ _ ⟨⟩
  | ask query rest ih =>
    rw [ask_bind, Along, Along, ih, and_assoc]
    rfl

/-- What may be asked in any state may be asked in the course of a run. -/
theorem Asks.along {Quiet : Event → Prop} {program : Program α} (h : program.Asks Quiet)
    (himp : ∀ event, Quiet event → ∀ state, P event.query state) (state : σ) :
    program.Along host P state := by
  have hevents : ∀ event ∈ program.history host state, Quiet event := h.of_mem_history
  clear h
  induction program generalizing state with
  | done => trivial
  | fault => trivial
  | ask query next ih =>
    rw [history_ask] at hevents
    obtain ⟨hquery, hrest⟩ := List.forall_mem_cons.mp hevents
    exact ⟨himp _ hquery state, ih _ _ hrest⟩

/-- What holds at first and is kept by every answer of a run holds in the course of it, and after it. -/
theorem along_of_history {Inv : σ → Prop} (program : Program α) {state : σ}
    (h : ∀ event ∈ program.history host state, ∀ state, Inv state →
      Inv (host.answer event.query state).2) (hstate : Inv state) :
    program.Along host (fun _ => Inv) state ∧ Inv (program.run host state).2 := by
  induction program generalizing state with
  | done => exact ⟨trivial, hstate⟩
  | fault => exact ⟨trivial, hstate⟩
  | ask query next ih =>
    rw [history_ask] at h
    obtain ⟨hquery, hrest⟩ := List.forall_mem_cons.mp h
    obtain ⟨halong, hafter⟩ := ih _ hrest (hquery state hstate)
    exact ⟨⟨hstate, halong⟩, hafter⟩

/-- What a host answers in the states that a run goes through holds of all events of the run. -/
theorem mem_history_of_along {Allowed : Event → Prop}
    (himp : ∀ query state, P query state → Allowed ⟨query, (host.answer query state).1⟩)
    {program : Program α} {state : σ} (h : program.Along host P state) :
    ∀ event ∈ program.history host state, Allowed event := by
  induction program generalizing state with
  | done => exact List.forall_mem_nil _
  | fault => exact List.forall_mem_nil _
  | ask query next ih => exact List.forall_mem_cons.mpr ⟨himp query state h.1, ih _ h.2⟩

/-- What holds of all that the host answers holds of all events of a run. -/
theorem mem_history_of_always {Allowed : Event → Prop} (hhost : host.Always Allowed)
    (program : Program α) (state : σ) :
    ∀ event ∈ program.history host state, Allowed event := by
  have halong : program.Along host (fun _ _ => True) state :=
    (along_of_history program (fun _ _ _ _ => trivial) trivial).1
  exact mem_history_of_along (fun query state _ => hhost query state) halong

end SdHost.Program
