import SdHost.Proofs.Host.Invariant

/-!
# Walks through a channel

A call makes its way to the firmware through any number of wrappers, and over a byte stream in pieces. What
all programs on this way have in common is shown in one walk along it, for every kind of programs that is
closed under what calls are made of.

The module introduces `Channel.Closed`, kinds of programs with a budget that are closed in this way.
`Channel.Closed.property` is the walk, and `Channel.Closed.readPin` and `Channel.Closed.drivePin` are its
end.

From it comes that a channel asks for nothing but what a message needs, and in particular for no access
to the registers of the controller: `Channel.asks_readPin` and `Channel.asks_drivePin`.
-/

namespace SdHost

/-- The event is a part of carrying a property message. -/
def Event.isMessage (event : Event) : Bool :=
  match event.query with
  | .property _ | .context | .runPassive | .streamWrite _ | .streamFlush | .streamRead _ => true
  | _ => false

theorem Event.isAccess_of_isMessage {event : Event} (h : event.isMessage = true) :
    event.isAccess = false := by
  obtain ⟨query, reply⟩ := event
  cases query <;> first | rfl | cases h

/-- The event is one of the byte stream. -/
def Event.isOnStream (event : Event) : Bool :=
  match event.query with
  | .streamWrite _ | .streamFlush | .streamRead _ => true
  | _ => false

theorem Event.isMessage_of_isOnStream {event : Event} (h : event.isOnStream = true) :
    event.isMessage = true := by
  obtain ⟨query, reply⟩ := event
  cases query <;> first | rfl | cases h

/-- A stream that is written to takes some of the bytes and no more than there are, if it does not
fail. -/
def Event.TakesSome : Event → Prop
  | ⟨.streamWrite bytes, taken⟩ =>
    ∀ count ∈ (show Option Nat from taken), 0 < count ∧ count ≤ bytes.length
  | _ => True

/-- What a query takes out of a budget: one where it hands the firmware a message, and else what is charged
for it. -/
def Query.share (charge : Nat) : Query → Nat
  | .property _ | .streamFlush => 1
  | _ => charge

namespace Channel

/-- A kind of programs that is closed under what calls through a channel are made of. Each program has a
budget, which covers whatever it asks for, as long as the replies are allowed. -/
structure Closed (Asked Allowed : Event → Prop) (charge : Nat)
    (Kind : {α : Type} → Nat → Program α → Prop) : Prop where
  /-- Nothing is asked for. -/
  done {α : Type} (value : α) : Kind 0 (.done value)
  /-- Something is asked for, and then what the rest of the program asks for. -/
  ask {α : Type} {n : Nat} (query : Query) {next : query.Reply → Program α}
    (hasked : ∀ reply, Asked ⟨query, reply⟩)
    (hnext : ∀ reply, Allowed ⟨query, reply⟩ → Kind n (next reply)) :
    Kind (n + query.share charge) (.ask query next)
  /-- The budgets of programs one after the other add up. -/
  bind {α β : Type} {m n : Nat} {program : Program α} {next : α → Program β} (h : Kind m program)
    (hnext : ∀ value, Kind n (next value)) : Kind (m + n) (program >>= next)
  /-- Not all of a budget has to be used. -/
  mono {α : Type} {m n : Nat} {program : Program α} (h : Kind m program) (hle : m ≤ n) : Kind n program
  /-- A stream keeps its promise to take some bytes, or else programs may stop anywhere. -/
  takes (bytes : List Byte) (taken : Option Nat) (h : Allowed ⟨.streamWrite bytes, taken⟩) :
    Event.TakesSome ⟨.streamWrite bytes, taken⟩ ∨
      ∀ {α : Type} {n : Nat} (cause : Fault), Kind n (.fault cause : Program α)
  /-- A worker runs what it is given once at most, or else budgets do not matter. -/
  runs (times : Nat) (h : Allowed ⟨.runPassive, times⟩) :
    times ≤ 1 ∨ ∀ {α : Type} {m n : Nat} {program : Program α}, Kind m program → Kind n program

/-- What a call through the channel takes out of a budget at most, with a message of so many bytes. -/
def budget (charge size : Nat) : Channel → Nat
  | .firmware => 1
  | .shared inner => inner.budget charge size
  | .marshalled inner => inner.budget charge size + charge + charge
  | .stream => size * charge + (size * charge + 1)

/-- Work that is run once is a call, whatever there was before. -/
theorem repeatCall_one (call : Memory → Program PropertyResult) (result : PropertyResult) :
    repeatCall call 1 result = call result.2 :=
  Program.bind_done _

namespace Closed

variable {Asked Allowed : Event → Prop} {charge : Nat}
  {Kind : {α : Type} → Nat → Program α → Prop} (closed : Closed Asked Allowed charge Kind)

include closed

theorem done_within {α : Type} (n : Nat) (value : α) : Kind n (.done value) :=
  closed.mono (closed.done value) (Nat.zero_le n)

/-- What is done with the result asks for nothing. -/
theorem bind_done {α β : Type} {n : Nat} {program : Program α} {next : α → Program β}
    (h : Kind n program) (hnext : ∀ value, Kind 0 (next value)) : Kind n (program >>= next) :=
  closed.bind h hnext

/-- Where some calls are of the kind, having a worker run one of them is. -/
theorem repeatCall {call : Memory → Program PropertyResult} {cost : Memory → Nat}
    (hcall : ∀ message, Kind (cost message) (call message)) {times : Nat}
    (hallowed : Allowed ⟨.runPassive, times⟩) (result : PropertyResult) :
    Kind (cost result.2) (Channel.repeatCall call times result) := by
  rcases closed.runs times hallowed with honce | hfree
  · obtain rfl | rfl := Nat.le_one_iff_eq_zero_or_eq_one.mp honce
    · exact closed.done_within _ result
    · rw [repeatCall_one]
      exact hcall result.2
  · -- without a budget it does not matter how often the call is made
    clear hallowed
    induction times generalizing result with
    | zero => exact hfree (closed.done result)
    | succ times ih =>
      have hlater : ∀ result, Kind 0 (Channel.repeatCall call times result) :=
        fun result => hfree (ih result)
      exact hfree (closed.bind (hcall result.2) hlater)

section Stream

variable (hstream : ∀ event : Event, event.isOnStream = true → Asked event)

include hstream

/-- As long as there are at least as many steps left as there are bytes, all of them are written. -/
theorem writeAll {steps : Nat} {bytes : List Byte} (h : bytes.length ≤ steps) :
    Kind (steps * charge) (Channel.writeAll steps bytes) := by
  induction steps generalizing bytes with
  | zero =>
    obtain rfl := List.length_eq_zero_iff.mp (Nat.le_zero.mp h)
    exact closed.done_within _ true
  | succ steps ih =>
    cases bytes with
    | nil => exact closed.done_within _ true
    | cons byte rest =>
      rw [Nat.succ_mul]
      refine closed.ask (.streamWrite (byte :: rest)) (fun _ => hstream _ rfl) fun taken hallowed => ?_
      have htakes := closed.takes (byte :: rest) taken hallowed
      obtain _ | _ | taken := taken
      · exact closed.done_within _ false
      · rcases htakes with htakes | hfault
        · exact absurd (htakes 0 rfl).1 (Nat.lt_irrefl 0)
        · exact hfault _
      · show Kind _ (if taken ≤ rest.length then Channel.writeAll steps (rest.drop taken) else .fault _)
        split
        next =>
          refine ih ?_
          rw [List.length_drop]
          exact (Nat.sub_le _ _).trans (Nat.le_of_succ_le_succ h)
        next hmore =>
          rcases htakes with htakes | hfault
          · exact absurd (Nat.le_of_succ_le_succ (htakes (taken + 1) rfl).2) hmore
          · exact hfault _

/-- What is read may be as short as the stream likes. -/
theorem readAll (steps offset : Nat) (message : Memory) :
    Kind (steps * charge) (Channel.readAll steps offset message) := by
  induction steps generalizing offset message with
  | zero => exact closed.done_within _ _
  | succ steps ih =>
    rw [Channel.readAll]
    split
    · exact closed.done_within _ _
    · rw [Nat.succ_mul]
      refine closed.ask (.streamRead (message.size - offset)) (fun _ => hstream _ rfl) fun bytes _ => ?_
      obtain _ | _ | ⟨byte, rest⟩ := bytes
      · exact closed.done_within _ _
      · exact closed.done_within _ _
      · exact ih _ _

/-- Each byte of the message is written and read by itself at worst. -/
theorem callStream (message : Memory) :
    Kind (message.size * charge + (message.size * charge + 1)) (Channel.callStream message) := by
  refine closed.bind (closed.writeAll hstream (Array.length_toList).le) fun written => ?_
  cases written with
  | false => exact closed.done_within _ _
  | true =>
    refine closed.ask .streamFlush (fun _ => hstream _ rfl) fun flushed _ => ?_
    cases flushed with
    | false => exact closed.done_within _ _
    | true =>
      show Kind _ (Channel.readAll message.size 0 message >>= fun _ => .done _)
      exact closed.bind_done (closed.readAll hstream message.size 0 message) fun _ => closed.done _

end Stream

variable (hmessage : ∀ event : Event, event.isMessage = true → Asked event)

include hmessage

/-- A call through a channel is of the kind, whatever the channel is made of. -/
theorem property (channel : Channel) (message : Memory) :
    Kind (channel.budget charge message.size) (channel.property message) := by
  induction channel generalizing message with
  | firmware =>
    refine closed.ask (.property message) (fun _ => hmessage _ rfl) fun _ _ => closed.done _
  | shared inner ih => exact ih message
  | marshalled inner ih =>
    refine closed.ask .context (fun _ => hmessage _ rfl) fun context _ => ?_
    show Kind _ (if _ then _ else _)
    split
    · exact closed.mono (ih message) (Nat.le_add_right _ _)
    · refine closed.ask .runPassive (fun _ => hmessage _ rfl) fun times hallowed => ?_
      exact closed.repeatCall ih hallowed (.error .transport, message)
  | stream =>
    exact closed.callStream (fun event hevent => hmessage event (Event.isMessage_of_isOnStream hevent))
      message

theorem exchange (channel : Channel) (message : PinMessage) :
    Kind (channel.budget charge PinMessage.size) (channel.exchange message) := by
  refine closed.bind_done (closed.property hmessage channel message.encode) fun result => ?_
  obtain ⟨_ | _, answer⟩ := result <;> exact closed.done _

theorem readPin (channel : Channel) (pin : Word) :
    Kind (channel.budget charge PinMessage.size) (channel.readPin pin) :=
  closed.bind_done (closed.exchange hmessage channel _) fun _ => closed.done _

theorem drivePin (channel : Channel) (pin state : Word) :
    Kind (channel.budget charge PinMessage.size) (channel.drivePin pin state) :=
  closed.bind_done (closed.exchange hmessage channel _) fun _ => closed.done _

end Closed

/-! ## What is asked -/

open Program (Asks)

/-- Asking for nothing but events of one kind needs no budget. -/
theorem closed_asks (Quiet : Event → Prop) :
    Closed Quiet (fun _ => True) 0 fun _ program => program.Asks Quiet where
  done := .done
  ask _ := fun hasked hnext => .ask hasked fun reply => hnext reply trivial
  bind := .bind
  mono h _ := h
  takes _ _ _ := .inr .fault
  runs _ _ := .inr id

variable {Quiet : Event → Prop}

/-- A call over a stream asks only for what the stream is for. -/
theorem asks_callStream (hquiet : ∀ event : Event, event.isOnStream = true → Quiet event)
    (message : Memory) : (callStream message).Asks Quiet :=
  (closed_asks Quiet).callStream hquiet message

variable (hquiet : ∀ event : Event, event.isMessage = true → Quiet event)

include hquiet

theorem asks_readPin (channel : Channel) (pin : Word) : (channel.readPin pin).Asks Quiet :=
  (closed_asks Quiet).readPin hquiet channel pin

theorem asks_drivePin (channel : Channel) (pin state : Word) :
    (channel.drivePin pin state).Asks Quiet :=
  (closed_asks Quiet).drivePin hquiet channel pin state

end Channel

end SdHost
