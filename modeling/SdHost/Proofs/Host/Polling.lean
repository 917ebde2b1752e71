import SdHost.Proofs.Host.Order
import SdHost.Slot.Basic

/-!
# Polling loops

A polling loop tries until an attempt reaches its goal, and pauses between two attempts. It has no bound
but the number of retries that the options allow, which is counted down after an attempt and not before
it, so that even without retries there is one attempt.

The module introduces:

* `Trial`: an attempt of a loop as it went, and `pausing`: the events of a loop that made some attempts;
* `Polled Goes`: the ways in which a loop can go, where `Goes` tells how an attempt can;
* `Options.Polls`: what the options allow a loop to do;
* `Stretch`: a part of an operation, which is such a loop or is not.

Main statements:

* `Options.ensures_poll`: whatever a loop is told, it goes in one of these ways;
* `Polled.polls`: so it keeps to what the options allow.
-/

namespace SdHost

/-- The event is a pause. -/
def Event.pauses (event : Event) : Bool :=
  match event.query with
  | .delay _ => true
  | _ => false

/-- An attempt of a polling loop, as it went. -/
structure Trial where
  /-- What was asked in the course of it. -/
  events : List Event
  /-- The goal was reached. -/
  reached : Bool

/-- The events of a loop that made some attempts. Between any two of them there is a pause. -/
def pausing (interval : Word) (trials : List Trial) : List Event :=
  [⟨.delay interval, ()⟩].intercalate (trials.map Trial.events)

theorem pausing_singleton (interval : Word) (trial : Trial) :
    pausing interval [trial] = trial.events :=
  List.intercalate_singleton

theorem pausing_cons {interval : Word} {trials : List Trial} (hne : trials ≠ []) (trial : Trial) :
    pausing interval (trial :: trials) =
      trial.events ++ ⟨.delay interval, ()⟩ :: pausing interval trials := by
  have hmap : trials.map Trial.events ≠ [] := by simpa using hne
  rw [pausing, List.map_cons, List.intercalate_cons_of_ne_nil hmap, List.append_assoc]
  rfl

/-- Where pauses do not count, what a loop comes to is what its attempts come to. -/
theorem filterMap_pausing {β : Type} {view : Event → Option β} {interval : Word}
    (hdelay : view ⟨.delay interval, ()⟩ = none) (trials : List Trial) :
    (pausing interval trials).filterMap view =
      trials.flatMap fun trial => trial.events.filterMap view := by
  induction trials with
  | nil => rfl
  | cons trial trials ih =>
    rcases eq_or_ne trials [] with rfl | hne
    · rw [pausing_singleton, List.flatMap_singleton]
    · rw [pausing_cons hne, List.filterMap_append, List.filterMap_cons_none hdelay, ih,
        List.flatMap_cons]

/-- If the attempts do not pause themselves, there is one pause less than there are attempts. -/
theorem countP_pauses_pausing (interval : Word) {trials : List Trial}
    (hquiet : ∀ trial ∈ trials, ∀ event ∈ trial.events, event.pauses = false) :
    (pausing interval trials).countP Event.pauses = trials.length - 1 := by
  induction trials with
  | nil => rfl
  | cons trial trials ih =>
    obtain ⟨htrial, htrials⟩ := List.forall_mem_cons.mp hquiet
    have hzero : trial.events.countP Event.pauses = 0 := by simpa using htrial
    rcases eq_or_ne trials [] with rfl | hne
    · rw [pausing_singleton, hzero]
      rfl
    · -- the pause before the other attempts makes up for the one that the hypothesis leaves out
      have hpos : 0 < trials.length := List.length_pos_of_ne_nil hne
      rw [pausing_cons hne, List.countP_append, hzero, List.countP_cons_of_pos rfl, ih htrials,
        List.length_cons]
      omega

/-- If no attempt has more than so many events, the loop has that many for each of them, and the
pauses. -/
theorem length_pausing_le (interval : Word) {trials : List Trial} {longest : Nat}
    (hlongest : ∀ trial ∈ trials, trial.events.length ≤ longest) :
    (pausing interval trials).length ≤ trials.length * (longest + 1) := by
  induction trials with
  | nil => exact Nat.zero_le _
  | cons trial trials ih =>
    obtain ⟨htrial, htrials⟩ := List.forall_mem_cons.mp hlongest
    rw [List.length_cons, Nat.succ_mul]
    rcases eq_or_ne trials [] with rfl | hne
    · rw [pausing_singleton]
      exact htrial.trans (by omega)
    · have hrest := ih htrials
      rw [pausing_cons hne, List.length_append, List.length_cons]
      omega

/-! ## How a loop can go -/

section Loops

variable {α : Type} {Goes : α → List Event → α → Bool → Prop} {retries : Nat} {value : α}
  {trials : List Trial} {outcome : Option α}

/-- The ways in which a loop can go that has some retries left. What an attempt starts from, what it
asks, what it leaves and whether it reaches the goal go together. -/
inductive Polled (Goes : α → List Event → α → Bool → Prop) :
    Nat → α → List Trial → Option α → Prop
  /-- The goal is reached, and the loop is over. -/
  | reached {retries : Nat} {value left : α} {events : List Event}
      (hgoes : Goes value events left true) :
      Polled Goes retries value [⟨events, true⟩] (some left)
  /-- The goal is not reached, and there are no retries left. -/
  | exhausted {value left : α} {events : List Event} (hgoes : Goes value events left false) :
      Polled Goes 0 value [⟨events, false⟩] none
  /-- The loop goes on from what the attempt left. -/
  | retried {retries : Nat} {value left : α} {events : List Event} {trials : List Trial}
      {outcome : Option α} (hgoes : Goes value events left false)
      (hlater : Polled Goes retries left trials outcome) :
      Polled Goes (retries + 1) value (⟨events, false⟩ :: trials) outcome

namespace Polled

theorem ne_nil (h : Polled Goes retries value trials outcome) : trials ≠ [] := by
  cases h <;> exact List.cons_ne_nil _ _

theorem length_le (h : Polled Goes retries value trials outcome) :
    trials.length ≤ retries + 1 := by
  induction h with
  | reached => exact Nat.le_add_left 1 _
  | exhausted => exact Nat.le_refl 1
  | retried _ _ ih => exact Nat.succ_le_succ ih

/-- A loop goes on only as long as the goal is not reached. -/
theorem reached_eq_of_mem_dropLast (h : Polled Goes retries value trials outcome) :
    ∀ trial ∈ trials.dropLast, trial.reached = false := by
  induction h with
  | reached => exact List.forall_mem_nil _
  | exhausted => exact List.forall_mem_nil _
  | retried _ hlater ih =>
    rw [List.dropLast_cons_of_ne_nil hlater.ne_nil]
    exact List.forall_mem_cons.mpr ⟨rfl, ih⟩

theorem isSome_iff (h : Polled Goes retries value trials outcome) :
    outcome.isSome = true ↔ ∃ trial ∈ trials, trial.reached = true := by
  induction h with
  | reached => exact iff_of_true rfl ⟨_, List.mem_cons_self, rfl⟩
  | exhausted => simp
  | retried _ _ ih => simpa using ih

theorem length_of_none (h : Polled Goes retries value trials outcome)
    (hnone : outcome.isSome = false) : trials.length = retries + 1 := by
  induction h with
  | reached => cases hnone
  | exhausted => rfl
  | retried _ _ ih => exact congrArg Nat.succ (ih hnone)

/-- What holds of every way an attempt can go holds of the attempts of a loop. -/
theorem forall_mem {P : Trial → Prop} (h : Polled Goes retries value trials outcome)
    (hgoes : ∀ value events left reached, Goes value events left reached → P ⟨events, reached⟩) :
    ∀ trial ∈ trials, P trial := by
  induction h with
  | reached h => exact List.forall_mem_singleton.mpr (hgoes _ _ _ _ h)
  | exhausted h => exact List.forall_mem_singleton.mpr (hgoes _ _ _ _ h)
  | retried h _ ih => exact List.forall_mem_cons.mpr ⟨hgoes _ _ _ _ h, ih⟩

end Polled

/-- What the options allow a polling loop to do that makes some attempts, and that succeeds or not. -/
structure Options.Polls (options : Options) (trials : List Trial) (success : Bool) : Prop where
  /-- There is an attempt at least. -/
  ne_nil : trials ≠ []
  /-- There is one attempt more than there are retries at most. -/
  length_le : trials.length ≤ options.pollRetries + 1
  /-- No attempt pauses by itself. -/
  quiet : ∀ trial ∈ trials, ∀ event ∈ trial.events, event.pauses = false
  /-- Only the last attempt may reach the goal. -/
  reached_eq : ∀ trial ∈ trials.dropLast, trial.reached = false
  /-- The loop succeeds exactly if an attempt reaches the goal. -/
  success_iff : success = true ↔ ∃ trial ∈ trials, trial.reached = true
  /-- A loop that does not succeed has used up the retries, with a pause for each of them. -/
  exhausted : success = false → trials.length = options.pollRetries + 1 ∧
    (pausing options.pollInterval trials).countP Event.pauses = options.pollRetries

theorem Polled.polls {options : Options} (h : Polled Goes options.pollRetries value trials outcome)
    (hquiet : ∀ value events left reached, Goes value events left reached →
      ∀ event ∈ events, event.pauses = false) : options.Polls trials outcome.isSome := by
  have hquiet : ∀ trial ∈ trials, ∀ event ∈ trial.events, event.pauses = false := h.forall_mem hquiet
  refine ⟨h.ne_nil, h.length_le, hquiet, h.reached_eq_of_mem_dropLast, h.isSome_iff, fun hnone => ?_⟩
  have hlength := h.length_of_none hnone
  rw [countP_pauses_pausing _ hquiet, hlength]
  exact ⟨rfl, rfl⟩

namespace Options

/-- A loop with some retries left goes in one of these ways. -/
theorem ensures_tryRepeatedly {attempt : α → Program (α × Bool)}
    (hattempt : ∀ value, (attempt value).Ensures (fun _ => True) fun events outcome =>
      ∃ left reached, outcome = .ok (left, reached) ∧ Goes value events left reached)
    (interval : Word) (retries : Nat) (value : α) :
    (tryRepeatedly interval attempt retries value).Ensures (fun _ => True) fun events outcome =>
      ∃ trials left, Polled Goes retries value trials left ∧ events = pausing interval trials ∧
        outcome = .ok left := by
  -- induction on the retries that are left, with any value to go on from
  induction retries generalizing value with
  | zero =>
    rw [tryRepeatedly, Program.ensures_bind]
    refine (hattempt value).mono ?_
    rintro events _ ⟨left, _ | _, rfl, hgoes⟩
    · refine ⟨_, none, .exhausted hgoes, ?_, rfl⟩
      rw [pausing_singleton, List.append_nil]
    · refine ⟨_, some left, .reached hgoes, ?_, rfl⟩
      rw [pausing_singleton, List.append_nil]
  | succ retries ih =>
    rw [tryRepeatedly, Program.ensures_bind]
    refine (hattempt value).mono ?_
    rintro events _ ⟨left, _ | _, rfl, hgoes⟩
    · intro _ _
      refine (ih left).mono ?_
      rintro _ _ ⟨trials, last, hlater, rfl, rfl⟩
      refine ⟨_, last, .retried hgoes hlater, ?_, rfl⟩
      rw [pausing_cons hlater.ne_nil]
    · refine ⟨_, some left, .reached hgoes, ?_, rfl⟩
      rw [pausing_singleton, List.append_nil]

/-- A polling loop goes in one of these ways, and fails with a time-out if it does not succeed. -/
theorem ensures_poll {attempt : α → Program (α × Bool)}
    (hattempt : ∀ value, (attempt value).Ensures (fun _ => True) fun events outcome =>
      ∃ left reached, outcome = .ok (left, reached) ∧ Goes value events left reached)
    (options : Options) (value : α) :
    (options.poll attempt value).run.Ensures (fun _ => True) fun events outcome =>
      ∃ trials left, Polled Goes options.pollRetries value trials left ∧
        events = pausing options.pollInterval trials ∧
        outcome = .ok (left.elim (.error .timeout) .ok) := by
  rw [poll, Attempt.run_bind, Attempt.run_program, Program.bind_bind, Program.ensures_bind]
  refine (ensures_tryRepeatedly hattempt options.pollInterval options.pollRetries value).mono ?_
  rintro _ _ ⟨trials, left, hpolled, rfl, rfl⟩
  cases left with
  | none => exact ⟨trials, none, hpolled, List.append_nil _, rfl⟩
  | some left => exact ⟨trials, some left, hpolled, List.append_nil _, rfl⟩

end Options

end Loops

/-! ## Parts of an operation -/

/-- A part of an operation, as it went. -/
inductive Stretch where
  /-- Some events that are no polling loop. -/
  | plain (events : List Event)
  /-- A polling loop that made some attempts, and that succeeded or not. -/
  | polling (trials : List Trial) (success : Bool)

namespace Options

/-- The events of the parts of an operation, one after the other. -/
def eventsOf (options : Options) (stretches : List Stretch) : List Event :=
  stretches.flatMap fun stretch =>
    match stretch with
    | .plain events => events
    | .polling trials _ => pausing options.pollInterval trials

variable (options : Options)

@[simp]
theorem eventsOf_nil : options.eventsOf [] = [] := rfl

@[simp]
theorem eventsOf_plain_cons (events : List Event) (stretches : List Stretch) :
    options.eventsOf (.plain events :: stretches) = events ++ options.eventsOf stretches := rfl

@[simp]
theorem eventsOf_polling_cons (trials : List Trial) (success : Bool) (stretches : List Stretch) :
    options.eventsOf (.polling trials success :: stretches) =
      pausing options.pollInterval trials ++ options.eventsOf stretches := rfl

theorem eventsOf_plain (events : List Event) : options.eventsOf [.plain events] = events :=
  List.append_nil events

theorem eventsOf_polling (trials : List Trial) (success : Bool) :
    options.eventsOf [.polling trials success] = pausing options.pollInterval trials :=
  List.append_nil _

@[simp]
theorem eventsOf_append (first second : List Stretch) :
    options.eventsOf (first ++ second) = options.eventsOf first ++ options.eventsOf second :=
  List.flatMap_append

end Options

/-- The part is a polling loop. -/
def Stretch.isPolling : Stretch → Bool
  | .plain _ => false
  | .polling _ _ => true

/-- The parts of an operation keep to what the options allow. There are so many loops at most, nothing
but the loops pauses, and besides the loops there are so many events at most. -/
structure Options.Within (options : Options) (loops rest : Nat) (stretches : List Stretch) : Prop where
  /-- Each loop does what the options allow. -/
  polls : ∀ trials success, .polling trials success ∈ stretches → options.Polls trials success
  /-- An attempt does not take long. -/
  attempt_le : ∀ trials success, .polling trials success ∈ stretches →
    ∀ trial ∈ trials, trial.events.length ≤ 4
  /-- There are not too many loops. -/
  loops_le : stretches.countP Stretch.isPolling ≤ loops
  /-- Only loops pause. -/
  quiet : ∀ events, .plain events ∈ stretches → ∀ event ∈ events, event.pauses = false
  /-- There is not too much besides the loops. -/
  rest_le : (options.eventsOf (stretches.filter fun stretch => !stretch.isPolling)).length ≤ rest

namespace Options.Within

variable {options : Options} {loops loops' rest rest' : Nat} {stretches stretches' : List Stretch}

theorem nil : options.Within 0 0 [] := by
  refine ⟨?_, ?_, Nat.le_refl 0, ?_, Nat.le_refl 0⟩
  · rintro _ _ ⟨⟩
  · rintro _ _ ⟨⟩
  · rintro _ ⟨⟩

theorem mono (h : options.Within loops rest stretches) (hloops : loops ≤ loops')
    (hrest : rest ≤ rest') : options.Within loops' rest' stretches :=
  { h with
    loops_le := h.loops_le.trans hloops
    rest_le := h.rest_le.trans hrest }

theorem plain {events : List Event} (hquiet : ∀ event ∈ events, event.pauses = false)
    (h : options.Within loops rest stretches) :
    options.Within loops (events.length + rest) (.plain events :: stretches) where
  polls trials success hmem := h.polls trials success (by simpa using hmem)
  attempt_le trials success hmem := h.attempt_le trials success (by simpa using hmem)
  loops_le := by simpa [Stretch.isPolling] using h.loops_le
  quiet other hmem := by
    rcases List.mem_cons.mp hmem with heq | hmem
    · cases heq
      exact hquiet
    · exact h.quiet other hmem
  rest_le := by simpa [Stretch.isPolling] using h.rest_le

theorem polling {trials : List Trial} {success : Bool} (hpolls : options.Polls trials success)
    (hattempt : ∀ trial ∈ trials, trial.events.length ≤ 4) (h : options.Within loops rest stretches) :
    options.Within (loops + 1) rest (.polling trials success :: stretches) where
  polls other success' hmem := by
    rcases List.mem_cons.mp hmem with heq | hmem
    · cases heq
      exact hpolls
    · exact h.polls other success' hmem
  attempt_le other success' hmem := by
    rcases List.mem_cons.mp hmem with heq | hmem
    · cases heq
      exact hattempt
    · exact h.attempt_le other success' hmem
  loops_le := by
    rw [List.countP_cons_of_pos rfl]
    exact Nat.succ_le_succ h.loops_le
  quiet events hmem := h.quiet events (by simpa using hmem)
  rest_le := by simpa [Stretch.isPolling] using h.rest_le

theorem append (h : options.Within loops rest stretches) (h' : options.Within loops' rest' stretches') :
    options.Within (loops + loops') (rest + rest') (stretches ++ stretches') where
  polls trials success hmem := (List.mem_append.mp hmem).elim (h.polls _ _) (h'.polls _ _)
  attempt_le trials success hmem :=
    (List.mem_append.mp hmem).elim (h.attempt_le _ _) (h'.attempt_le _ _)
  loops_le := by
    rw [List.countP_append]
    exact Nat.add_le_add h.loops_le h'.loops_le
  quiet events hmem := (List.mem_append.mp hmem).elim (h.quiet _) (h'.quiet _)
  rest_le := by
    rw [List.filter_append, eventsOf_append, List.length_append]
    exact Nat.add_le_add h.rest_le h'.rest_le

/-- The loops by themselves keep to it, with nothing besides them. -/
theorem filter_isPolling (h : options.Within loops rest stretches) :
    options.Within loops 0 (stretches.filter Stretch.isPolling) where
  polls trials success hmem := h.polls trials success (List.mem_of_mem_filter hmem)
  attempt_le trials success hmem := h.attempt_le trials success (List.mem_of_mem_filter hmem)
  loops_le := by
    rw [List.countP_filter]
    simpa using h.loops_le
  quiet events hmem := absurd (List.mem_filter.mp hmem).2 Bool.false_ne_true
  rest_le := by simp

/-- All pauses in the loops together are not more than the retries of each. -/
theorem countP_pauses_le (h : options.Within loops rest stretches) :
    (options.eventsOf stretches).countP Event.pauses ≤ loops * options.pollRetries := by
  -- by induction on the parts, with the loops that there are in place of those that there may be
  suffices hstretches : (options.eventsOf stretches).countP Event.pauses ≤
      stretches.countP Stretch.isPolling * options.pollRetries from
    hstretches.trans (Nat.mul_le_mul_right _ h.loops_le)
  obtain ⟨hpolls, -, -, hquiet, -⟩ := h
  induction stretches with
  | nil => exact Nat.zero_le _
  | cons stretch stretches ih =>
    have hlater := ih (fun trials success hmem => hpolls trials success (.tail _ hmem))
      fun events hmem => hquiet events (.tail _ hmem)
    cases stretch with
    | plain events =>
      have hzero : events.countP Event.pauses = 0 := by
        simpa using hquiet events List.mem_cons_self
      rwa [eventsOf_plain_cons, List.countP_append, hzero, Nat.zero_add,
        List.countP_cons_of_neg (by simp [Stretch.isPolling])]
    | polling trials success =>
      have hloop := hpolls trials success List.mem_cons_self
      have hlength := hloop.length_le
      rw [eventsOf_polling_cons, List.countP_append, countP_pauses_pausing _ hloop.quiet,
        List.countP_cons_of_pos rfl, Nat.succ_mul]
      omega

/-- A loop has five events for each of its attempts at most, counting the pause after it. -/
theorem length_le (h : options.Within loops rest stretches) :
    (options.eventsOf stretches).length ≤ loops * (5 * (options.pollRetries + 1)) + rest := by
  -- as for the pauses, but what is besides the loops counts too
  suffices hstretches : (options.eventsOf stretches).length ≤
      stretches.countP Stretch.isPolling * (5 * (options.pollRetries + 1)) +
        (options.eventsOf (stretches.filter fun stretch => !stretch.isPolling)).length from
    hstretches.trans (Nat.add_le_add (Nat.mul_le_mul_right _ h.loops_le) h.rest_le)
  obtain ⟨hpolls, hattempt, -, -, -⟩ := h
  induction stretches with
  | nil => exact Nat.zero_le _
  | cons stretch stretches ih =>
    have hlater := ih (fun trials success hmem => hpolls trials success (.tail _ hmem))
      fun trials success hmem => hattempt trials success (.tail _ hmem)
    cases stretch with
    | plain events =>
      rw [List.countP_cons_of_neg (by simp [Stretch.isPolling]),
        List.filter_cons_of_pos (by simp [Stretch.isPolling]), eventsOf_plain_cons,
        eventsOf_plain_cons, List.length_append, List.length_append]
      omega
    | polling trials success =>
      have hloop := (hpolls trials success List.mem_cons_self).length_le
      have hlength := length_pausing_le options.pollInterval
        (hattempt trials success List.mem_cons_self)
      rw [List.countP_cons_of_pos rfl, List.filter_cons_of_neg (by simp [Stretch.isPolling]),
        eventsOf_polling_cons, List.length_append, Nat.succ_mul]
      omega

end Options.Within

/-! ## Looking at a register -/

namespace Register

variable {width : Width}

/-- The attempts that look for a property of what a register holds, with what they read. -/
def looks (register : Register width) (test : BitVec width.bits → Bool)
    (values : List (BitVec width.bits)) : List Trial :=
  values.map fun value => ⟨register.readEvents value, test value⟩

theorem exists_looks {register : Register width} {test : BitVec width.bits → Bool}
    {trials : List Trial}
    (h : ∀ trial ∈ trials, ∃ value, trial.events = register.readEvents value ∧
      trial.reached = test value) : ∃ values, trials = register.looks test values := by
  induction trials with
  | nil => exact ⟨[], rfl⟩
  | cons trial trials ih =>
    obtain ⟨⟨value, hevents, hreached⟩, htrials⟩ := List.forall_mem_cons.mp h
    obtain ⟨values, hvalues⟩ := ih htrials
    refine ⟨value :: values, ?_⟩
    rw [hvalues, looks, looks, List.map_cons, ← hevents, ← hreached]

theorem pauses_of_mem_readEvents (register : Register width) (value : BitVec width.bits) :
    ∀ event ∈ register.readEvents value, event.pauses = false := by
  simp [readEvents, Event.pauses]

theorem pauses_of_mem_writeEvents (register : Register width) (value : BitVec width.bits) :
    ∀ event ∈ register.writeEvents value, event.pauses = false := by
  simp [writeEvents, Event.pauses]

end Register

/-- Waiting for a property of what a register holds is a loop of looks at it. -/
theorem Options.ensures_pollUntil_read {width : Width} (options : Options) (register : Register width)
    (test : BitVec width.bits → Bool) :
    (options.pollUntil (register.read >>= fun value => .done (test value))).run.Ensures
      (fun _ => True) fun events outcome => ∃ values success,
        options.Polls (register.looks test values) success ∧
        events = pausing options.pollInterval (register.looks test values) ∧
        outcome = .ok (if success then .ok () else .error .timeout) := by
  let Goes : Unit → List Event → Unit → Bool → Prop := fun _ events _ reached =>
    ∃ value, events = register.readEvents value ∧ reached = test value
  have hattempt : ∀ value, ((register.read >>= fun value => .done (test value)) >>=
      fun reached => .done ((), reached)).Ensures (fun _ => True) fun events outcome =>
        ∃ left reached, outcome = .ok (left, reached) ∧ Goes value events left reached := by
    intro _ _ _ value _
    exact ⟨(), test value, rfl, value, rfl, rfl⟩
  refine (options.ensures_poll hattempt ()).mono ?_
  rintro _ _ ⟨trials, left, hpolled, rfl, rfl⟩
  obtain ⟨values, rfl⟩ := Register.exists_looks (hpolled.forall_mem fun _ _ _ _ hgoes => hgoes)
  refine ⟨values, left.isSome, hpolled.polls ?_, rfl, ?_⟩
  · rintro _ _ _ _ ⟨value, rfl, rfl⟩
    exact register.pauses_of_mem_readEvents value
  · cases left <;> rfl

end SdHost
