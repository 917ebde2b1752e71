import SdHost.Proofs.Regulator.Call
import SdHost.Proofs.Regulator.Codec

/-!
# How long a call takes, and whether it ends

A call to the regulator goes through any number of wrappers. It asks for a fixed number of things at
most, unless a worker that is to run it runs it more than once, and it comes to its end unless a stream
that is written to breaks its promise to take some of the bytes.

The module introduces:

* `Program.AsksAtMost n`: the program asks for so many things at most;
* `Program.Ends`: the program comes to its end;
* `Channel.span`: how many things a call through a channel asks for.

Main statements: `RegulatorCall.length_le` and `RegulatorCall.exists_outcome`.
-/

namespace SdHost

namespace Program

variable {α β : Type} {m n : Nat}

/-- The program asks for so many things at most, if no worker runs its work more than once. -/
def AsksAtMost (n : Nat) (program : Program α) : Prop :=
  program.Ensures Event.RunsOnce fun events _ => events.length ≤ n

namespace AsksAtMost

theorem ask {query : Query} {next : query.Reply → Program α}
    (hnext : ∀ reply, Event.RunsOnce ⟨query, reply⟩ → (next reply).AsksAtMost n) :
    AsksAtMost (n + query.share 1) (.ask query next) := by
  have hshare : query.share 1 = 1 := by cases query <;> rfl
  rw [hshare]
  exact fun reply hreply => Ensures.mono (hnext reply hreply) fun _ _ hlater => Nat.succ_le_succ hlater

theorem bind {program : Program α} {next : α → Program β} (h : program.AsksAtMost m)
    (hnext : ∀ value, (next value).AsksAtMost n) : (program >>= next).AsksAtMost (m + n) := by
  rw [AsksAtMost, ensures_bind]
  refine Ensures.mono h fun events outcome hevents => ?_
  cases outcome with
  | error cause => exact Nat.le_add_right_of_le hevents
  | ok value =>
    refine Ensures.mono (hnext value) fun later _ hlater => ?_
    rw [List.length_append]
    exact Nat.add_le_add hevents hlater

end AsksAtMost

/-- The program comes to its end, if every stream takes some of what is written to it. -/
def Ends (program : Program α) : Prop :=
  program.Ensures Event.TakesSome fun _ outcome => ∃ value, outcome = .ok value

theorem Ends.bind {program : Program α} {next : α → Program β} (h : program.Ends)
    (hnext : ∀ value, (next value).Ends) : (program >>= next).Ends := by
  rw [Ends, ensures_bind]
  refine h.mono ?_
  rintro events _ ⟨value, rfl⟩
  exact hnext value

end Program

namespace Channel

open Program (AsksAtMost Ends)

theorem closed_asksAtMost :
    Closed (fun _ => True) Event.RunsOnce 1 fun n program => program.AsksAtMost n where
  done _ := Nat.le_refl 0
  ask _ := fun _ hnext => .ask hnext
  bind := .bind
  mono := fun h hle => h.mono fun _ _ hevents => hevents.trans hle
  takes _ _ _ := .inr fun _ => Nat.zero_le _
  runs _ honce := .inl honce

theorem closed_ends :
    Closed (fun _ => True) Event.TakesSome 0 fun _ program => program.Ends where
  done value := ⟨value, rfl⟩
  ask _ := fun _ hnext => hnext
  bind := .bind
  mono h _ := h
  takes _ _ htakes := .inl htakes
  runs _ _ := .inr id

/-- How many things a call through the channel asks for at most. -/
def span : Channel → Nat
  | .firmware => 1
  | .shared inner => inner.span
  | .marshalled inner => inner.span + 2
  | .stream => PinMessage.size + (PinMessage.size + 1)

/-- Where everything is charged for, a call takes as much as it asks for. -/
theorem budget_one (channel : Channel) : channel.budget 1 PinMessage.size = channel.span := by
  induction channel with
  | firmware => rfl
  | shared inner ih => exact ih
  | marshalled inner ih => rw [budget, ih, span]
  | stream => rfl

theorem asksAtMost_drivePin (channel : Channel) (pin level : Word) :
    (channel.drivePin pin level).AsksAtMost channel.span := by
  have hcall := closed_asksAtMost.drivePin (fun _ _ => trivial) channel pin level
  rwa [budget_one] at hcall

theorem ends_drivePin (channel : Channel) (pin level : Word) :
    (channel.drivePin pin level).Ends :=
  closed_ends.drivePin (fun _ _ => trivial) channel pin level

end Channel

namespace RegulatorCall

variable (call : RegulatorCall)

/-- A call has a bounded number of events, if no worker runs it more than once. -/
theorem length_le (honce : ∀ event ∈ call.events, event.RunsOnce) :
    call.events.length ≤ call.channel.span :=
  (Channel.asksAtMost_drivePin _ _ _).of_path call.path honce

/-- A call comes to its end, if every stream takes some of what is written to it. -/
theorem exists_outcome (htakes : ∀ event ∈ call.events, event.TakesSome) :
    ∃ result, call.outcome = .ok result :=
  (Channel.ends_drivePin _ _ _).of_path call.path htakes

end RegulatorCall

end SdHost
