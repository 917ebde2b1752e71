import SdHost.Bench.World
import SdHost.Proofs.Host.Along
import SdHost.Proofs.Regulator.Stream

/-!
# Wrappers of channels

A channel is wrapped to be shared by several users, or to be called in any context: a wrapper of the second
kind asks an executor for the context of its caller, and where that is not passive it has the executor run the
call on a worker and waits for it. Neither the caller nor the channel inside notices any of this, as long as
the executor runs what it is given just once.

The module introduces:

* `Channel.core`: the channel inside all wrappers;
* `ChannelCall`: a call that a user makes, and what it brings;
* `BesideExecutor outer inner`: the surroundings `outer` are the surroundings `inner` of a channel, with an
  executor beside them;
* `BesideExecutor.Same`: a program does with the executor what another one does without it;
* `BesideExecutor.Dropped`: a call fails without a trace;
* `Channel.Way`: what the wrappers of a channel ask the executor in the course of a call.

Main statement: `BesideExecutor.wrappers_transparent`.
-/

namespace SdHost

/-- The query is one to the executor. -/
def Query.isToExecutor : Query → Bool
  | .context | .runPassive => true
  | _ => false

/-- The event is a query to the executor, with its reply. -/
def Event.isToExecutor (event : Event) : Bool :=
  event.query.isToExecutor

theorem Event.isToExecutor_of_isOnStream {event : Event} (h : event.isOnStream = true) :
    event.isToExecutor = false := by
  obtain ⟨query, reply⟩ := event
  cases query <;> first | rfl | cases h

/-- A worker that is given some work runs it so many times. -/
def Event.Runs (n : Nat) : Event → Prop
  | ⟨.runPassive, times⟩ => (show Nat from times) = n
  | _ => True

/-! ## Channels and calls -/

namespace Channel

/-- The channel inside all wrappers. -/
def core : Channel → Channel
  | .firmware => .firmware
  | .shared inner => inner.core
  | .marshalled inner => inner.core
  | .stream => .stream

theorem property_marshalled (inner : Channel) (message : Memory) :
    (Channel.marshalled inner).property message = .ask .context fun context =>
      if context = .passive then inner.property message
      else .ask .runPassive fun times =>
        repeatCall inner.property times (.error .transport, message) := rfl

/-- The channel inside asks the executor for nothing. -/
theorem asks_core (channel : Channel) (message : Memory) :
    (channel.core.property message).Asks fun event => event.isToExecutor = false := by
  induction channel with
  | firmware => exact .request fun _ => rfl
  | shared inner ih => exact ih
  | marshalled inner ih => exact ih
  | stream => exact asks_callStream (fun _ => Event.isToExecutor_of_isOnStream) message

end Channel

/-- A call that a user of a channel makes. -/
inductive ChannelCall where
  /-- Have the firmware answer a message in place. -/
  | property (message : Memory)
  /-- Read the state of a pin. -/
  | read (pin : Word)
  /-- Drive a pin. -/
  | drive (pin state : Word)
  deriving DecidableEq, Repr

namespace ChannelCall

/-- What a call brings. -/
inductive Answer where
  /-- What became of the message, and the message as it is afterwards. -/
  | property (result : PropertyResult)
  /-- The state of the pin. -/
  | read (result : Except RegulatorError Word)
  /-- Whether the pin is driven. -/
  | drive (result : Except RegulatorError Unit)

/-- Make the call through a channel. -/
def perform (channel : Channel) : ChannelCall → Program Answer
  | .property message => return .property (← channel.property message)
  | .read pin => return .read (← channel.readPin pin)
  | .drive pin state => return .drive (← channel.drivePin pin state)

/-- Make some calls through a channel, one after the other. -/
def performAll (channel : Channel) (calls : List ChannelCall) : Program (List Answer) :=
  calls.mapM fun call => call.perform channel

/-- The message that goes through the channel. -/
def message : ChannelCall → Memory
  | .property message => message
  | .read pin => (PinMessage.read pin).encode
  | .drive pin state => (PinMessage.drive pin state).encode

/-- What the user makes of what became of the message. -/
def answer : ChannelCall → PropertyResult → Answer
  | .property _, result => .property result
  | .read _, result => .read ((PropertyResult.decoded result).map PinMessage.state)
  | .drive _ _, result => .drive ((PropertyResult.decoded result).map fun _ => ())

/-- What the user is told if the message does not get through. -/
def failing (cause : RegulatorError) : ChannelCall → Answer
  | .property message => .property (.error cause, message)
  | .read _ => .read (.error cause)
  | .drive _ _ => .drive (.error cause)

theorem answer_error (call : ChannelCall) (cause : RegulatorError) :
    call.answer (.error cause, call.message) = call.failing cause := by
  cases call <;> rfl

/-- Every call sends its message, and looks at what became of it. -/
theorem perform_eq (channel : Channel) (call : ChannelCall) :
    call.perform channel =
      channel.property call.message >>= fun result => .done (call.answer result) := by
  cases call with
  | property message => rfl
  | read pin =>
    rw [perform, Channel.readPin, Channel.exchange_eq, bind_assoc, bind_assoc]
    rfl
  | drive pin state =>
    rw [perform, Channel.drivePin, Channel.exchange_eq, bind_assoc, bind_assoc]
    rfl

theorem history_perform {σ : Type} (host : Host σ) (channel : Channel) (call : ChannelCall) (state : σ) :
    (call.perform channel).history host state = (channel.property call.message).history host state := by
  rw [perform_eq, Program.history_bind_done]

theorem performAll_cons (channel : Channel) (call : ChannelCall) (calls : List ChannelCall) :
    performAll channel (call :: calls) = call.perform channel >>= fun answer =>
      performAll channel calls >>= fun answers => .done (answer :: answers) :=
  List.mapM_cons

end ChannelCall

/-! ## What the executor is asked -/

/-- A worker does not run what it is given. -/
def Event.notRun : Event :=
  ⟨.runPassive, (0 : Nat)⟩

namespace Channel

/-- What the wrappers of a channel ask the executor in the course of one call. -/
inductive Way : Channel → List Event → Prop
  /-- The firmware needs no executor. -/
  | firmware : Way .firmware []
  /-- Nor does a stream. -/
  | stream : Way .stream []
  /-- Nor does sharing. -/
  | shared {inner : Channel} {events : List Event} (h : Way inner events) : Way (.shared inner) events
  /-- In passive context, the call goes straight on. -/
  | passive {inner : Channel} {events : List Event} (h : Way inner events) :
      Way (.marshalled inner) (⟨.context, .passive⟩ :: events)
  /-- In any other context it is given to a worker, from which it goes on. -/
  | worker {inner : Channel} {events : List Event} {context : CallContext} (hcontext : context ≠ .passive)
      (h : Way inner events) :
      Way (.marshalled inner) (⟨.context, context⟩ :: ⟨.runPassive, (1 : Nat)⟩ :: events)
  /-- A worker that does not run it is where it ends. -/
  | notRun {inner : Channel} {context : CallContext} (hcontext : context ≠ .passive) :
      Way (.marshalled inner) [⟨.context, context⟩, .notRun]

/-- The events of a call, as far as the executor is concerned, if no worker runs it more than once. -/
structure Went (channel : Channel) (message : Memory) (events : List Event)
    (outcome : Except Fault PropertyResult) : Prop where
  /-- The executor is asked what the wrappers ask. -/
  way : channel.Way (events.filter Event.isToExecutor)
  /-- A call that is not run comes to nothing. -/
  of_notRun : .notRun ∈ events →
    outcome = .ok (.error .transport, message) ∧ ∀ event ∈ events, event.isToExecutor = true

/-- What a wrapper asks before it passes the call on. -/
theorem Went.after {channel outer : Channel} {message : Memory} {events : List Event}
    {outcome : Except Fault PropertyResult} (h : channel.Went message events outcome)
    (earlier : List Event) (hearlier : ∀ event ∈ earlier, event.isToExecutor = true)
    (hrun : .notRun ∉ earlier)
    (hway : outer.Way (earlier ++ events.filter Event.isToExecutor)) :
    outer.Went message (earlier ++ events) outcome where
  way := by rwa [List.filter_append, List.filter_eq_self.mpr hearlier]
  of_notRun hmem := by
    obtain ⟨houtcome, hevents⟩ := h.of_notRun ((List.mem_append.mp hmem).resolve_left hrun)
    exact ⟨houtcome, List.forall_mem_append.mpr ⟨hearlier, hevents⟩⟩

/-- What asks the executor for nothing is not stopped by it. -/
theorem Went.of_asks {channel : Channel} {message : Memory} {program : Program PropertyResult}
    (hway : channel.Way []) (h : program.Asks fun event => event.isToExecutor = false) :
    program.Ensures Event.RunsOnce (channel.Went message) := by
  refine h.ensures.mono fun events outcome hevents => ?_
  have hnone : events.filter Event.isToExecutor = [] :=
    List.filter_eq_nil_iff.mpr fun event hevent => by simp [hevents event hevent]
  exact ⟨hnone ▸ hway, fun hmem => nomatch hevents _ hmem⟩

/-- Whatever the replies are, a call goes its way through the wrappers. -/
theorem ensures_went (channel : Channel) (message : Memory) :
    (channel.property message).Ensures Event.RunsOnce (channel.Went message) := by
  induction channel with
  | firmware => exact Went.of_asks .firmware (asks_core .firmware message)
  | shared inner ih => exact ih.mono fun _ _ h => ⟨.shared h.way, h.of_notRun⟩
  | marshalled inner ih =>
    rw [property_marshalled]
    intro context _
    by_cases hcontext : context = .passive
    · subst hcontext
      refine ih.mono fun events _ h => ?_
      exact h.after [⟨.context, .passive⟩] (by simp [Event.isToExecutor, Query.isToExecutor])
        (by simp [Event.notRun]) (.passive h.way)
    · simp only [if_neg hcontext]
      intro times honce
      -- a worker runs the call or does not
      obtain _ | _ | times := times
      · refine ⟨.notRun hcontext, fun _ => ⟨rfl, ?_⟩⟩
        simp [Event.isToExecutor, Query.isToExecutor]
      · show Program.Ensures _ (repeatCall inner.property 1 _) _
        rw [repeatCall_one]
        refine ih.mono fun events _ h => ?_
        exact h.after [⟨.context, context⟩, ⟨.runPassive, (1 : Nat)⟩]
          (by simp [Event.isToExecutor, Query.isToExecutor]) (by simp [Event.notRun]) (.worker hcontext h.way)
      · exact absurd honce (by simp [Event.RunsOnce])
  | stream => exact Went.of_asks .stream (asks_core .stream message)

end Channel

/-! ## Surroundings with an executor -/

/-- The surroundings `outer` are the surroundings `inner` of a channel, with an executor beside them. What
the executor replies may depend on all that went before, so it may be one executor for each wrapper. It does
nothing to the surroundings of the channel. -/
structure BesideExecutor {σ φ : Type} (outer : Host σ) (inner : Host φ) where
  /-- The surroundings of the channel. -/
  view : σ → φ
  /-- They reply as they do without an executor. -/
  reply_eq : ∀ query state, query.isToExecutor = false →
    (outer.answer query state).1 = (inner.answer query (view state)).1
  /-- They change as they do without an executor. -/
  view_eq : ∀ query state, query.isToExecutor = false →
    view (outer.answer query state).2 = (inner.answer query (view state)).2
  /-- The executor leaves them alone. -/
  view_executor : ∀ query state, query.isToExecutor = true →
    view (outer.answer query state).2 = view state

/-- An executor that has a state of its own. -/
structure Executor (ε : Type) where
  /-- Tell the context that the caller runs in. -/
  context : ε → CallContext × ε
  /-- Have a worker run some work, and tell how often it ran it. -/
  runPassive : ε → Nat × ε

/-- Put an executor beside the surroundings of a channel. -/
def Host.withExecutor {φ ε : Type} (inner : Host φ) (executor : Executor ε) : Host (φ × ε) where
  answer query state :=
    match query with
    | .context =>
      let (context, own) := executor.context state.2
      (context, state.1, own)
    | .runPassive =>
      let (times, own) := executor.runPassive state.2
      (times, state.1, own)
    | query =>
      let (reply, after) := inner.answer query state.1
      (reply, after, state.2)

namespace Executor

variable {φ ε : Type} (executor : Executor ε) (inner : Host φ)

/-- With an executor put beside them, the surroundings are what they were. -/
def beside : BesideExecutor (inner.withExecutor executor) inner where
  view := Prod.fst
  reply_eq query state h := by cases query <;> first | rfl | cases h
  view_eq query state h := by cases query <;> first | rfl | cases h
  view_executor query state h := by cases query <;> first | rfl | cases h

variable {executor inner}

theorem always_runs {n : Nat} (h : ∀ own, (executor.runPassive own).1 = n) :
    (inner.withExecutor executor).Always (Event.Runs n) := by
  intro query state
  cases query <;> first | exact h state.2 | trivial

end Executor

namespace BesideExecutor

variable {σ φ α β : Type} {outer : Host σ} {inner : Host φ} (beside : BesideExecutor outer inner)

/-- The program does with the executor what another one does without it. -/
structure Same (direct program : Program α) (state : σ) : Prop where
  /-- It comes to the same. -/
  outcome_eq : (program.run outer state).1 = (direct.run inner (beside.view state)).1
  /-- It leaves the surroundings of the channel in the same state. -/
  view_eq : beside.view (program.run outer state).2 = (direct.run inner (beside.view state)).2
  /-- They are asked the same in the same order, and reply the same. -/
  events_eq : (program.history outer state).filter (fun event => !event.isToExecutor) =
    direct.history inner (beside.view state)

namespace Same

variable {beside} {direct program : Program α} {state : σ}

theorem done (value : α) (state : σ) : beside.Same (.done value) (.done value) state where
  outcome_eq := rfl
  view_eq := rfl
  events_eq := rfl

/-- What asks the executor for nothing does not notice it. -/
theorem of_asks (h : program.Asks fun event => event.isToExecutor = false) (state : σ) :
    beside.Same program program state := by
  have hevents : ∀ event ∈ program.history outer state, event.isToExecutor = false := h.of_mem_history
  clear h
  induction program generalizing state with
  | done value => exact done value state
  | fault cause => exact ⟨rfl, rfl, rfl⟩
  | ask query next ih =>
    rw [Program.history_ask] at hevents
    obtain ⟨hquery, hrest⟩ := List.forall_mem_cons.mp hevents
    -- both get the same reply, and go on with the same program
    have hreply := beside.reply_eq query state hquery
    have hview := beside.view_eq query state hquery
    obtain ⟨houtcome, hafter, hlater⟩ := ih _ _ hrest
    rw [hview] at houtcome hafter hlater
    refine ⟨?_, ?_, ?_⟩
    · rw [Program.run_ask, Program.run_ask, houtcome, hreply]
    · rw [Program.run_ask, Program.run_ask, hafter, hreply]
    · rw [Program.history_ask, Program.history_ask, List.filter_cons_of_pos (by simp [hquery]), hlater,
        hreply]

/-- A query to the executor is not noticed inside. -/
theorem ask_executor {query : Query} (hquery : query.isToExecutor = true)
    {next : query.Reply → Program α}
    (hnext : beside.Same direct (next (outer.answer query state).1) (outer.answer query state).2) :
    beside.Same direct (.ask query next) state := by
  have hview := beside.view_executor query state hquery
  obtain ⟨houtcome, hafter, hevents⟩ := hnext
  rw [hview] at houtcome hafter hevents
  refine ⟨houtcome, hafter, ?_⟩
  rw [Program.history_ask, List.filter_cons_of_neg (by simp [Event.isToExecutor, hquery]), hevents]

/-- Programs that do the same one after the other do the same together. -/
theorem bind {directNext next : α → Program β} (h : beside.Same direct program state)
    (hnext : ∀ value after, program.run outer state = (.ok value, after) →
      beside.Same (directNext value) (next value) after) :
    beside.Same (direct >>= directNext) (program >>= next) state := by
  obtain ⟨houtcome, hview, hevents⟩ := h
  rcases hrun : program.run outer state with ⟨outcome, after⟩
  rcases hdirect : direct.run inner (beside.view state) with ⟨directOutcome, directAfter⟩
  rw [hrun, hdirect] at houtcome hview
  obtain rfl : outcome = directOutcome := houtcome
  obtain rfl : beside.view after = directAfter := hview
  cases outcome with
  | error cause =>
    -- neither gets to what comes after
    refine ⟨?_, ?_, ?_⟩
    · rw [Program.run_bind, Program.run_bind, hrun, hdirect]
    · rw [Program.run_bind, Program.run_bind, hrun, hdirect]
    · rw [Program.history_bind, Program.history_bind, hrun, hdirect, List.append_nil, List.append_nil,
        hevents]
  | ok value =>
    obtain ⟨houtcome, hview, hlater⟩ := hnext value after hrun
    refine ⟨?_, ?_, ?_⟩
    · rw [Program.run_bind_of_ok hrun, Program.run_bind_of_ok hdirect, houtcome]
    · rw [Program.run_bind_of_ok hrun, Program.run_bind_of_ok hdirect, hview]
    · rw [Program.history_bind_of_ok hrun, Program.history_bind_of_ok hdirect, List.filter_append,
        hevents, hlater]

end Same

/-- A call through the wrappers does the same as one through the channel inside, if every worker runs it just
once. -/
theorem same_property (channel : Channel) (message : Memory) (state : σ)
    (hruns : ∀ event ∈ (channel.property message).history outer state, event.Runs 1) :
    beside.Same (channel.core.property message) (channel.property message) state := by
  induction channel generalizing state with
  | firmware => exact .of_asks (Channel.asks_core .firmware message) state
  | shared inner ih => exact ih state hruns
  | marshalled inner ih =>
    rw [Channel.property_marshalled] at hruns ⊢
    simp only [Program.history_ask, List.forall_mem_cons] at hruns
    refine .ask_executor rfl ?_
    by_cases hcontext : (outer.answer .context state).1 = .passive
    · rw [if_pos hcontext] at hruns ⊢
      exact ih _ hruns.2
    · rw [if_neg hcontext] at hruns ⊢
      simp only [Program.history_ask, List.forall_mem_cons] at hruns
      obtain ⟨-, htimes, hruns⟩ := hruns
      -- the event says how often the worker runs the call inside
      have htimes : (outer.answer .runPassive (outer.answer .context state).2).1 = 1 := htimes
      refine .ask_executor rfl ?_
      rw [htimes, Channel.repeatCall_one] at hruns ⊢
      exact ih _ hruns
  | stream => exact .of_asks (Channel.asks_core .stream message) state

theorem same_perform (channel : Channel) (call : ChannelCall) (state : σ)
    (hruns : ∀ event ∈ (call.perform channel).history outer state, event.Runs 1) :
    beside.Same (call.perform channel.core) (call.perform channel) state := by
  rw [call.history_perform] at hruns
  rw [ChannelCall.perform_eq, ChannelCall.perform_eq]
  exact (beside.same_property channel _ state hruns).bind fun result after _ => .done _ after

theorem same_performAll (channel : Channel) (calls : List ChannelCall) (state : σ)
    (hruns : ∀ event ∈ (ChannelCall.performAll channel calls).history outer state, event.Runs 1) :
    beside.Same (ChannelCall.performAll channel.core calls) (ChannelCall.performAll channel calls)
      state := by
  induction calls generalizing state with
  | nil => exact .done _ state
  | cons call calls ih =>
    rw [ChannelCall.performAll_cons] at hruns
    rw [ChannelCall.performAll_cons, ChannelCall.performAll_cons]
    -- each call has its own part of the events, whether or not it gets to the next one
    have hcall : ∀ event ∈ (call.perform channel).history outer state, event.Runs 1 := by
      rw [Program.history_bind] at hruns
      exact (List.forall_mem_append.mp hruns).1
    refine (beside.same_perform channel call state hcall).bind fun answer after hrun => ?_
    rw [Program.history_bind_of_ok hrun, Program.history_bind_done] at hruns
    have hcalls := ih after (List.forall_mem_append.mp hruns).2
    exact hcalls.bind fun answers last _ => .done _ last

/-- The call comes to nothing. -/
structure Dropped (channel : Channel) (call : ChannelCall) (state : σ) : Prop where
  /-- The call fails, and the message is as it was. -/
  outcome_eq : ((call.perform channel).run outer state).1 = .ok (call.failing .transport)
  /-- Nobody but the executor was asked for anything. -/
  isToExecutor : ∀ event ∈ (call.perform channel).history outer state, event.isToExecutor = true
  /-- The surroundings of the channel are as they were. -/
  view_eq : beside.view ((call.perform channel).run outer state).2 = beside.view state

theorem dropped {channel : Channel} {call : ChannelCall} {state : σ}
    (houtcome : ((channel.property call.message).run outer state).1 =
      .ok (.error .transport, call.message))
    (hevents : ∀ event ∈ (channel.property call.message).history outer state,
      event.isToExecutor = true) : beside.Dropped channel call state := by
  rw [← call.history_perform outer channel] at hevents
  refine ⟨?_, hevents, ?_⟩
  · rcases hrun : (channel.property call.message).run outer state with ⟨outcome, after⟩
    rw [hrun] at houtcome
    obtain rfl : outcome = _ := houtcome
    rw [ChannelCall.perform_eq, Program.run_bind_of_ok hrun, ChannelCall.answer_error]
    rfl
  · exact Program.view_of_history _ state fun event hevent later =>
      beside.view_executor event.query later (hevents event hevent)

/-- A channel in wrappers is the channel inside.

A row of calls does the same through the wrappers as without them, in whatever contexts the calls are made,
if every worker runs what it is given just once. In each call, a wrapper that marshals has a worker run what
it passes on just if it is called outside passive context. And where the worker does not run it, the call
fails, the message is as it was, and the channel inside does not hear of it. -/
theorem wrappers_transparent (channel : Channel) :
    (∀ (calls : List ChannelCall) (state : σ),
      (∀ event ∈ (ChannelCall.performAll channel calls).history outer state, event.Runs 1) →
      beside.Same (ChannelCall.performAll channel.core calls) (ChannelCall.performAll channel calls)
        state) ∧
    ∀ (call : ChannelCall) (state : σ),
      (∀ event ∈ (call.perform channel).history outer state, event.RunsOnce) →
      channel.Way (((call.perform channel).history outer state).filter Event.isToExecutor) ∧
        (.notRun ∈ (call.perform channel).history outer state → beside.Dropped channel call state) := by
  refine ⟨beside.same_performAll channel, fun call state honce => ?_⟩
  rw [call.history_perform] at honce ⊢
  have hwent := (channel.ensures_went call.message).of_history honce
  refine ⟨hwent.way, fun hmem => ?_⟩
  obtain ⟨houtcome, hevents⟩ := hwent.of_notRun hmem
  exact beside.dropped houtcome hevents

namespace ChangingContext

/-- A channel that is marshalled twice, and shared each time. -/
def channel : Channel :=
  .shared (.marshalled (.shared (.marshalled .firmware)))

/-- The pin is driven, and read back. -/
def calls : List ChannelCall :=
  [.drive Regulator.signalingPin Regulator.state18, .read Regulator.signalingPin]

/-- An executor for callers that run in the given contexts one after the other. A worker runs what it is given
so many times. -/
def executor (times : Nat) : Executor (List CallContext) where
  context own := (own.headD .passive, own.tail)
  runPassive own := (times, own)

/-- The first call comes at dispatch level, the second from an asynchronous procedure, and the workers run in
passive context. -/
def start : Bench.World × List CallContext :=
  ({ registers := { bytes := Memory.zeroed registerBlockSize } }, [.dispatch, .passive, .apc, .passive])

/-- The bench, with the executor beside it. -/
abbrev host (times : Nat) : Host (Bench.World × List CallContext) :=
  Bench.World.host.withExecutor (executor times)

/-- The bench is the surroundings of the firmware. -/
abbrev onBench (times : Nat) : BesideExecutor (host times) Bench.World.host :=
  (executor times).beside Bench.World.host

end ChangingContext

open ChangingContext (channel calls start host onBench) in
/-- On the bench a pin is driven and read back from different contexts. A worker that runs what it is given
lets it happen, and one that does not leaves no trace. -/
theorem wrappers_transparent_changing_context :
    (∀ event ∈ (ChannelCall.performAll channel calls).history (host 1) start, event.Runs 1) ∧
      ((ChannelCall.performAll channel calls).run (host 1) start).1 =
        .ok [.drive (.ok ()), .read (.ok Regulator.state18)] ∧
      (onBench 1).Same (ChannelCall.performAll .firmware calls) (ChannelCall.performAll channel calls)
        start ∧
    ∀ call ∈ calls,
      (∀ event ∈ (call.perform channel).history (host 0) start, event.RunsOnce) ∧
        .notRun ∈ (call.perform channel).history (host 0) start ∧
        (onBench 0).Dropped channel call start := by
  have hruns : ∀ event ∈ (ChannelCall.performAll channel calls).history (host 1) start, event.Runs 1 :=
    Program.mem_history_of_always (Executor.always_runs fun _ => rfl) _ start
  refine ⟨hruns, rfl, ((onBench 1).wrappers_transparent channel).1 calls start hruns, ?_⟩
  intro call hcall
  have hhistory : (call.perform channel).history (host 0) start =
      [⟨.context, .dispatch⟩, .notRun] := by
    rw [call.history_perform]
    rfl
  have honce : ∀ event ∈ (call.perform channel).history (host 0) start, event.RunsOnce := by
    simp [hhistory, Event.RunsOnce, Event.notRun]
  have hnotRun : .notRun ∈ (call.perform channel).history (host 0) start := by simp [hhistory]
  exact ⟨honce, hnotRun, (((onBench 0).wrappers_transparent channel).2 call start honce).2 hnotRun⟩

end BesideExecutor

end SdHost
