import SdHost.Proofs.Host.Order
import SdHost.Proofs.Regulator.Firmware

/-!
# Calls to the regulator

The regulator is switched by one call through the channel of the slot. However many things the channel
has to ask for, the firmware is handed one message at most, unless a worker that is to run the call runs
it more than once.

The module introduces:

* `Event.delivers`: the firmware is handed a message;
* `RegulatorCall`: a call that drives the signaling pin, with its events and what came of it.

`Slot.ensures_switchRegulator` says that switching the regulator is such a call.
-/

namespace SdHost

/-- The firmware is handed a message, at once or by flushing the stream that it was written to. -/
def Event.delivers (event : Event) : Bool :=
  match event.query with
  | .property _ | .streamFlush => true
  | _ => false

theorem Event.isMessage_of_delivers {event : Event} (h : event.delivers = true) :
    event.isMessage = true := by
  obtain ⟨query, reply⟩ := event
  cases query <;> first | rfl | cases h

theorem Event.ite_delivers (event : Event) :
    (if event.delivers = true then 1 else 0) = event.query.share 0 := by
  obtain ⟨query, reply⟩ := event
  cases query <;> rfl

/-- A worker that is given some work runs it once at most. -/
def Event.RunsOnce : Event → Prop
  | ⟨.runPassive, times⟩ => (show Nat from times) ≤ 1
  | _ => True

namespace Program

variable {α β : Type} {m n : Nat}

/-- The firmware is handed so many messages at most, if no worker runs its work more than once. -/
def DeliversAtMost (n : Nat) (program : Program α) : Prop :=
  program.Ensures Event.RunsOnce fun events _ => events.countP Event.delivers ≤ n

namespace DeliversAtMost

theorem ask {query : Query} {next : query.Reply → Program α}
    (hnext : ∀ reply, Event.RunsOnce ⟨query, reply⟩ → (next reply).DeliversAtMost n) :
    DeliversAtMost (n + query.share 0) (.ask query next) := by
  intro reply hreply
  refine (hnext reply hreply).mono fun later _ hlater => ?_
  have hcons : (⟨query, reply⟩ :: later).countP Event.delivers =
      later.countP Event.delivers + query.share 0 := by
    rw [List.countP_cons, Event.ite_delivers]
  exact hcons.trans_le (Nat.add_le_add_right hlater _)

theorem bind {program : Program α} {next : α → Program β} (h : program.DeliversAtMost m)
    (hnext : ∀ value, (next value).DeliversAtMost n) :
    (program >>= next).DeliversAtMost (m + n) := by
  rw [DeliversAtMost, ensures_bind]
  refine h.mono fun events outcome hevents => ?_
  cases outcome with
  | error cause => exact Nat.le_add_right_of_le hevents
  | ok value =>
    refine (hnext value).mono fun later _ hlater => ?_
    rw [List.countP_append]
    exact Nat.add_le_add hevents hlater

end DeliversAtMost

end Program

namespace Channel

open Program (DeliversAtMost)

theorem closed_deliversAtMost :
    Closed (fun _ => True) Event.RunsOnce 0 fun n program => program.DeliversAtMost n where
  done _ := Nat.le_refl 0
  ask _ := fun _ hnext => .ask hnext
  bind := .bind
  mono := fun h hle => h.mono fun _ _ hevents => hevents.trans hle
  takes _ _ _ := .inr fun _ => Nat.zero_le _
  runs _ honce := .inl honce

/-- Where only what hands over a message is charged for, a call takes one. -/
theorem budget_zero (channel : Channel) (size : Nat) : channel.budget 0 size = 1 := by
  induction channel with
  | firmware => rfl
  | shared inner ih => exact ih
  | marshalled inner ih => exact ih
  | stream => simp [budget]

/-- Through any number of wrappers, a call hands one message over. -/
theorem deliversAtMost_drivePin (channel : Channel) (pin level : Word) :
    (channel.drivePin pin level).DeliversAtMost 1 := by
  have hcall := closed_deliversAtMost.drivePin (fun _ _ => trivial) channel pin level
  rwa [budget_zero] at hcall

end Channel

/-- A call that drives the signaling pin through a channel, as far as it got. -/
structure RegulatorCall where
  /-- The channel that it goes through. -/
  channel : Channel
  /-- Whether the regulator is to supply 1.8 V. -/
  at18 : Bool
  /-- What is asked in the course of it. -/
  events : List Event
  /-- What came of it. -/
  outcome : Except Fault (Except RegulatorError Unit)
  /-- These are the events of such a call, and this is what they come to. -/
  path : (channel.drivePin Regulator.signalingPin (Regulator.level at18)).Path events outcome

namespace RegulatorCall

variable (call : RegulatorCall)

/-- The firmware accepted the call. -/
def Accepted : Prop :=
  call.outcome = .ok (.ok ())

/-- The call was refused, by the firmware or on the way to it. -/
def Refused : Prop :=
  ∃ cause, call.outcome = .ok (.error cause)

theorem isMessage : ∀ event ∈ call.events, event.isMessage = true :=
  (Channel.asks_drivePin (fun _ h => h) _ _ _).of_path call.path fun _ _ => trivial

theorem countP_delivers_le (honce : ∀ event ∈ call.events, event.RunsOnce) :
    call.events.countP Event.delivers ≤ 1 :=
  (Channel.deliversAtMost_drivePin _ _ _).of_path call.path honce

/-- A call that comes to an end was accepted or refused, and so is what is made of it. -/
theorem accepted_or_refused {α : Type} {call : RegulatorCall}
    {make : Except RegulatorError Unit → α} {value : α}
    (h : call.outcome.map make = .ok value) :
    call.Accepted ∧ value = make (.ok ()) ∨
      ∃ cause, call.outcome = .ok (.error cause) ∧ value = make (.error cause) := by
  rcases houtcome : call.outcome with fault | ⟨cause | ⟨⟩⟩
  · rw [houtcome] at h
    cases h
  · rw [houtcome] at h
    exact .inr ⟨cause, rfl, (Except.ok.inj h).symm⟩
  · rw [houtcome] at h
    exact .inl ⟨houtcome, (Except.ok.inj h).symm⟩

variable (calls : List RegulatorCall)

theorem isMessage_flatMap :
    ∀ event ∈ calls.flatMap RegulatorCall.events, event.isMessage = true := by
  intro event hevent
  obtain ⟨call, -, hevent⟩ := List.mem_flatMap.mp hevent
  exact call.isMessage event hevent

theorem filter_isMessage_flatMap :
    (calls.flatMap RegulatorCall.events).filter Event.isMessage =
      calls.flatMap RegulatorCall.events :=
  List.filter_eq_self.mpr (isMessage_flatMap calls)

/-- Of some calls, each hands one message over. -/
theorem countP_delivers_flatMap_le
    (honce : ∀ event ∈ calls.flatMap RegulatorCall.events, event.RunsOnce) :
    (calls.flatMap RegulatorCall.events).countP Event.delivers ≤ calls.length := by
  induction calls with
  | nil => exact Nat.le_refl 0
  | cons call calls ih =>
    rw [List.flatMap_cons] at honce ⊢
    obtain ⟨hcall, hcalls⟩ := List.forall_mem_append.mp honce
    rw [List.countP_append, List.length_cons, Nat.add_comm calls.length]
    exact Nat.add_le_add (call.countP_delivers_le hcall) (ih hcalls)

end RegulatorCall

/-- What is handed over is handed over in the course of carrying a message. -/
theorem countP_delivers_filter_isMessage (events : List Event) :
    (events.filter Event.isMessage).countP Event.delivers = events.countP Event.delivers := by
  rw [List.countP_filter]
  refine List.countP_congr fun event _ => ?_
  rw [Bool.and_eq_true]
  exact and_iff_left_of_imp Event.isMessage_of_delivers

/-- Switching the regulator is a call through the channel of the slot. What came of it is noted. -/
theorem Slot.ensures_switchRegulator (at18 : Bool) (slot : Slot) :
    ((switchRegulator at18).start slot).Ensures (fun _ => True) fun events outcome =>
      slot.regulator = none ∧ events = [] ∧
          outcome = .ok (.error (.regulator .notFound), slot) ∨
        ∃ call : RegulatorCall, slot.regulator = some call.channel ∧ call.at18 = at18 ∧
          events = call.events ∧ outcome = call.outcome.map (slot.noted at18) := by
  rw [start_switchRegulator]
  split
  next hnone => exact .inl ⟨hnone, rfl, rfl⟩
  next channel hchannel =>
    rw [Program.ensures_bind]
    refine (Program.ensures_path _).mono fun events outcome hpath => ?_
    cases outcome with
    | error cause => exact .inr ⟨⟨channel, at18, events, _, hpath⟩, hchannel, rfl, rfl, rfl⟩
    | ok result =>
      refine .inr ⟨⟨channel, at18, events, _, hpath⟩, hchannel, rfl, ?_, rfl⟩
      exact List.append_nil events

end SdHost
