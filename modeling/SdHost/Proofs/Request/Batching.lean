import SdHost.Proofs.Request.Completion

/-!
# Steps end with their last event

A step waits for a mask of events, and interrupts bring them in any order and in any grouping. As long
as one is missing, accounting for interrupts does nothing but shrink the mask. The call that brings the
last one ends the step, with a status that depends on what was recorded before and on nothing else.

The module introduces:

* `Request.endStatus`, `Request.ended`: how a step ends without errors, and the request after it;
* `Request.Rebatched`: two lists of calls bring the same events, grouped or ordered in another way.

`Request.ends_with_last_event` states when a step ends, and that no other grouping of the events
makes a difference to it.
-/

namespace SdHost.Request

variable {σ : Type} {request : Request} {before after calls calls' : List Word} {events : Word}

/-- The status that a step without errors ends with. -/
def endStatus (request : Request) : Status :=
  if request.status = .moreProcessingRequired then .moreProcessingRequired else .success

/-- The request once the step has ended without errors. -/
def ended (request : Request) : Request :=
  { request with
    requiredEvents := 0
    status := request.endStatus
    completions := request.completions + 1 }

/-- Ending a step once more does not change its status. -/
theorem endStatus_ended (request : Request) : request.ended.endStatus = request.endStatus := by
  simp only [ended, endStatus]
  split <;> simp

/-! ## Single calls -/

theorem account_of_missing (hmissing : request.requiredEvents &&& ~~~events ≠ 0) :
    request.account events 0 = .done (request.clearRequiredEvents events) := by
  rw [account, if_neg (by decide), clearRequiredEvents, if_neg hmissing]
  rfl

theorem account_of_settled (hsettled : request.requiredEvents &&& ~~~events = 0) :
    request.account events 0 =
      .ask (.complete request.ended request.endStatus) fun _ => .done request.ended := by
  rw [account, if_neg (by decide), clearRequiredEvents, if_pos hsettled, hsettled]
  rfl

/-! ## Lists of calls -/

theorem accountAll_append (request : Request) (before after : List Word) :
    request.accountAll (before ++ after) =
      request.accountAll before >>= fun request => request.accountAll after :=
  List.foldlM_append

theorem allEvents_append (before after : List Word) :
    allEvents (before ++ after) = allEvents before ||| allEvents after := by
  induction before with
  | nil => exact BitVec.zero_or.symm
  | cons events before ih =>
    show events ||| allEvents (before ++ after) = events ||| allEvents before ||| allEvents after
    rw [ih, BitVec.or_assoc]

/-- As long as an event is missing, calls shrink the mask and ask nothing of the surroundings. -/
theorem accountAll_of_missing (hmissing : ¬ SettledBy request.requiredEvents calls) :
    request.accountAll calls =
      .done { request with requiredEvents := request.requiredEvents &&& ~~~allEvents calls } := by
  induction calls generalizing request with
  | nil =>
    have hmask : request.requiredEvents &&& ~~~0#32 = request.requiredEvents := by
      rw [BitVec.not_zero, BitVec.and_allOnes]
    show Program.done request = .done { request with requiredEvents := _ &&& ~~~0#32 }
    rw [hmask]
  | cons events calls ih =>
    rw [settledBy_cons] at hmissing
    -- if the first call left nothing of the mask, neither would the others
    have hfirst : request.requiredEvents &&& ~~~events ≠ 0 := by
      intro hzero
      exact hmissing ((settledBy_nil _).mpr hzero |>.append calls)
    rw [accountAll, List.foldlM_cons, account_of_missing hfirst, Program.done_bind,
      and_not_allEvents_cons]
    exact ih hmissing

/-- The call that brings the last event ends the step. -/
theorem accountAll_of_last (hmissing : ¬ SettledBy request.requiredEvents before)
    (hlast : SettledBy request.requiredEvents (before ++ [events])) :
    request.accountAll (before ++ [events]) =
      .ask (.complete request.ended request.endStatus) fun _ => .done request.ended := by
  have hsingle : allEvents [events] = events := BitVec.or_zero
  have hleft : request.requiredEvents &&& ~~~allEvents before &&& ~~~events = 0 := by
    rw [BitVec.and_assoc, ← BitVec.not_or, ← hsingle, ← allEvents_append]
    exact hlast
  rw [accountAll_append, accountAll_of_missing hmissing, Program.done_bind, accountAll,
    List.foldlM_cons, account_of_settled hleft]
  rfl

/-- Calls that bring every event have a first among them that brings the last. -/
theorem exists_last (hwaits : request.requiredEvents ≠ 0)
    (hsettled : SettledBy request.requiredEvents calls) :
    ∃ before events after, calls = before ++ events :: after ∧
      ¬ SettledBy request.requiredEvents before ∧
      SettledBy request.requiredEvents (before ++ [events]) := by
  induction calls using List.reverseRecOn with
  | nil => exact absurd ((settledBy_nil _).mp hsettled) hwaits
  | append_singleton calls events ih =>
    by_cases hearlier : SettledBy request.requiredEvents calls
    · obtain ⟨before, last, after, rfl, hmissing, hlast⟩ := ih hearlier
      exact ⟨before, last, after ++ [events], by simp, hmissing, hlast⟩
    · exact ⟨calls, events, [], rfl, hearlier, hsettled⟩

/-! ## What is recorded in the end -/

/-- Calls that find nothing left to wait for do not change how the step went. -/
theorem ensures_accountAll_ended (hmask : request.requiredEvents = 0)
    (hstatus : request.endStatus = request.status) (calls : List Word) :
    (request.accountAll calls).Ensures (fun _ => True) fun _ outcome =>
      ∃ request', outcome = .ok request' ∧ request'.status = request.status := by
  induction calls generalizing request with
  | nil => exact ⟨request, rfl, rfl⟩
  | cons events calls ih =>
    have hleft : request.requiredEvents &&& ~~~events = 0 := by
      rw [hmask]
      exact BitVec.zero_and
    rw [accountAll, List.foldlM_cons, account_of_settled hleft]
    intro _ _
    -- the call ends the step once more, in the same way
    refine Program.Ensures.mono (@ih request.ended rfl (endStatus_ended request)) ?_
    rintro later _ ⟨request', rfl, hlater⟩
    exact ⟨request', rfl, hlater.trans hstatus⟩

/-- The status after all calls, whatever order they came in. -/
theorem ensures_accountAll_status (hwaits : request.requiredEvents ≠ 0) (calls : List Word) :
    (request.accountAll calls).Ensures (fun _ => True) fun _ outcome =>
      ∃ request', outcome = .ok request' ∧ request'.status =
        if SettledBy request.requiredEvents calls then request.endStatus else request.status := by
  by_cases hsettled : SettledBy request.requiredEvents calls
  · obtain ⟨before, events, after, rfl, hmissing, hlast⟩ := exists_last hwaits hsettled
    rw [if_pos hsettled, List.append_cons, accountAll_append,
      accountAll_of_last hmissing hlast]
    intro _ _
    refine (ensures_accountAll_ended rfl (endStatus_ended request) after).mono ?_
    exact fun _ _ h => h
  · rw [if_neg hsettled, accountAll_of_missing hsettled]
    exact ⟨_, rfl, rfl⟩

/-- Where something is waited for, the framework is told if and only if every event comes. -/
theorem one_le_settlings_iff {mask : Word} (hwaits : mask ≠ 0) (calls : List Word) :
    1 ≤ settlings mask calls ↔ SettledBy mask calls := by
  rw [Nat.one_le_iff_ne_zero, Ne, settlings_eq_zero_iff, not_or, not_not]
  refine ⟨And.right, fun h => ⟨?_, h⟩⟩
  rintro rfl
  exact hwaits ((settledBy_nil mask).mp h)

/-! ## Grouping events in another way -/

/-- Two lists of calls bring the same events, in another order or grouped in another way. -/
inductive Rebatched : List Word → List Word → Prop
  /-- The calls come in another order. -/
  | reorder {calls calls' : List Word} (h : calls.Perm calls') : Rebatched calls calls'
  /-- Two neighbouring calls are made as one. -/
  | merge (before : List Word) (first second : Word) (after : List Word) :
      Rebatched (before ++ first :: second :: after) (before ++ (first ||| second) :: after)
  /-- One call is split where two are merged. -/
  | symm {calls calls' : List Word} (h : Rebatched calls calls') : Rebatched calls' calls
  /-- One change comes after the other. -/
  | trans {calls calls' calls'' : List Word} (h : Rebatched calls calls')
      (h' : Rebatched calls' calls'') : Rebatched calls calls''

theorem allEvents_perm (h : calls.Perm calls') : allEvents calls = allEvents calls' :=
  h.foldr_eq 0

theorem Rebatched.allEvents_eq (h : Rebatched calls calls') :
    allEvents calls = allEvents calls' := by
  induction h with
  | reorder h => exact allEvents_perm h
  | merge before first second after =>
    rw [allEvents_append, allEvents_append]
    show _ ||| (first ||| (second ||| _)) = _ ||| (first ||| second ||| _)
    rw [BitVec.or_assoc first]
  | symm _ ih => exact ih.symm
  | trans _ _ ih ih' => exact ih.trans ih'

theorem Rebatched.settledBy_iff (h : Rebatched calls calls') (mask : Word) :
    SettledBy mask calls ↔ SettledBy mask calls' := by
  rw [SettledBy, SettledBy, h.allEvents_eq]

/-- **A step ends with its last event.** Take a request that waits for some events, and calls that
account for interrupts without errors. As long as an event is missing, the calls shrink the mask of
what is waited for, and the framework is told nothing. The call that brings the last event leaves
nothing of the mask and tells the framework, for the first time, that the step is done. The status that
it is told, and that is recorded, is that more is to be processed if that was recorded before, and
success if not.

So it makes no difference to a step in which order the events come, or in which groups: neither to
whether it ended, nor to its status, nor to what is left of the mask. -/
theorem ends_with_last_event (hwaits : request.requiredEvents ≠ 0) (calls : List Word) :
    (∀ n, ¬ SettledBy request.requiredEvents (calls.take n) →
      request.accountAll (calls.take n) = .done { request with
        requiredEvents := request.requiredEvents &&& ~~~allEvents (calls.take n) }) ∧
    (SettledBy request.requiredEvents calls →
      ∃ before events after, calls = before ++ events :: after ∧
        ¬ SettledBy request.requiredEvents before ∧
        SettledBy request.requiredEvents (before ++ [events]) ∧
        request.accountAll (before ++ [events]) =
          .ask (.complete request.ended request.endStatus) (fun _ => .done request.ended) ∧
        request.ended.requiredEvents =
          request.requiredEvents &&& ~~~allEvents (before ++ [events]) ∧
        request.ended.status = request.endStatus ∧
        request.accountAll calls = request.accountAll (before ++ [events]) >>= fun ended =>
          ended.accountAll after) ∧
    ∀ calls', Rebatched calls calls' → ∀ (host : Host σ) (state : σ),
      ∃ request₁ request₂ after₁ after₂,
        (request.accountAll calls).run host state = (.ok request₁, after₁) ∧
        (request.accountAll calls').run host state = (.ok request₂, after₂) ∧
        (1 ≤ timesCompleted ((request.accountAll calls).history host state) ↔
          1 ≤ timesCompleted ((request.accountAll calls').history host state)) ∧
        request₁.status = request₂.status ∧
        request₁.requiredEvents = request₂.requiredEvents := by
  refine ⟨fun n hmissing => accountAll_of_missing hmissing, fun hsettled => ?_, ?_⟩
  · obtain ⟨before, events, after, rfl, hmissing, hlast⟩ := exists_last hwaits hsettled
    refine ⟨before, events, after, rfl, hmissing, hlast, accountAll_of_last hmissing hlast,
      hlast.symm, rfl, ?_⟩
    rw [List.append_cons, accountAll_append]
  · intro calls' hrebatched host state
    cases hrun₁ : (request.accountAll calls).run host state with
    | mk outcome₁ after₁ =>
    cases hrun₂ : (request.accountAll calls').run host state with
    | mk outcome₂ after₂ =>
    -- what is left, what is recorded and whether the step ended depend on the union alone
    obtain ⟨request₁, rfl, hmask₁, htimes₁⟩ := (ensures_accountAll request calls).of_run hrun₁
    obtain ⟨request₂, rfl, hmask₂, htimes₂⟩ := (ensures_accountAll request calls').of_run hrun₂
    obtain ⟨_, ⟨⟩, hstatus₁⟩ := (ensures_accountAll_status hwaits calls).of_run hrun₁
    obtain ⟨_, ⟨⟩, hstatus₂⟩ := (ensures_accountAll_status hwaits calls').of_run hrun₂
    have hsettled := hrebatched.settledBy_iff request.requiredEvents
    refine ⟨request₁, request₂, after₁, after₂, rfl, rfl, ?_, ?_, ?_⟩
    · rw [htimes₁, htimes₂, one_le_settlings_iff hwaits, one_le_settlings_iff hwaits, hsettled]
    · simp only [hstatus₁, hstatus₂, hsettled]
    · rw [hmask₁, hmask₂, hrebatched.allEvents_eq]

/-- A request that waits for its answer and for a block to read. -/
def awaitingBlock : Request :=
  { new { index := 17, argument := 0, responseType := .r1 } with
    requiredEvents := Transfer.commandComplete ||| Transfer.bufferReady .read }

/-- The answer and the block, with one interrupt each or with one for both. -/
theorem ends_with_last_event_answer_and_block :
    awaitingBlock.requiredEvents ≠ 0 ∧
      awaitingBlock.accountAll [Transfer.commandComplete] =
        .done { awaitingBlock with requiredEvents := Transfer.bufferReady .read } ∧
      ∀ (host : Host Unit), ∃ request₁ request₂,
        (awaitingBlock.accountAll [Transfer.commandComplete, Transfer.bufferReady .read]).run
          host () = (.ok request₁, ()) ∧
        (awaitingBlock.accountAll [Transfer.commandComplete ||| Transfer.bufferReady .read]).run
          host () = (.ok request₂, ()) ∧
        request₁.status = request₂.status := by
  have hwaits : awaitingBlock.requiredEvents ≠ 0 := by decide
  obtain ⟨hmissing, -, hrebatched⟩ := ends_with_last_event (σ := Unit) hwaits
    [Transfer.commandComplete, Transfer.bufferReady .read]
  refine ⟨hwaits, hmissing 1 (by decide), fun host => ?_⟩
  obtain ⟨request₁, request₂, _, _, hrun₁, hrun₂, -, hstatus, -⟩ :=
    hrebatched _ (.merge [] _ _ []) host ()
  exact ⟨request₁, request₂, hrun₁, hrun₂, hstatus⟩

end SdHost.Request
