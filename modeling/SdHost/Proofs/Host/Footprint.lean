import SdHost.Proofs.Host.Invariant
import SdHost.Proofs.Host.Storage
import SdHost.Slot.Basic

/-!
# What a program writes

Most programs that set the controller up go back and forth between a few registers, as long as the
hardware makes them. Which registers they write can be told all the same, and whatever holds elsewhere
is not touched.

The module introduces:

* `Register.place`: a register as a place to write;
* `Event.WritesAmong places`: the event is an access that writes one of the places, or none at all, or
  it is a pause.

The rules tell for each way of accessing a register, and for polling, that a program writes certain
places only; `Event.WritesAmong.not_reaches` tells what it leaves alone then.
-/

namespace SdHost

open Program (Asks)

/-- The register as a place to write, with the width of the access. -/
def Register.place {width : Width} (register : Register width) : Width × Nat :=
  (width, register.offset)

/-- The event is an access that writes one of the places or none, or it is a pause. -/
def Event.WritesAmong (places : List (Width × Nat)) (event : Event) : Prop :=
  match event.query with
  | .barrier | .read _ _ | .delay _ => True
  | .write width offset _ => (width, offset) ∈ places
  | _ => False

namespace Event.WritesAmong

variable {places places' : List (Width × Nat)} {event : Event}

theorem mono (h : event.WritesAmong places) (hplaces : places ⊆ places') :
    event.WritesAmong places' := by
  obtain ⟨query, reply⟩ := event
  cases query with
  | write width offset value => exact hplaces h
  | _ => exact h

/-- Registers apart from the places are not reached. -/
theorem not_reaches {width : Width} {register : Register width} (h : event.WritesAmong places)
    (hplaces : places.all register.isApart = true) : ¬ event.query.Reaches register := by
  obtain ⟨query, reply⟩ := event
  cases query with
  | write other offset value =>
    exact Register.not_reaches_of_isApart (List.all_eq_true.mp hplaces _ h) value
  | _ => exact id

end Event.WritesAmong

variable {places : List (Width × Nat)}

theorem Program.asks_delay (microseconds : Word) :
    (Program.delay microseconds).Asks (Event.WritesAmong places) :=
  .request fun _ => trivial

namespace Register

variable {width : Width} (register : Register width)

theorem asks_read : register.read.Asks (Event.WritesAmong places) :=
  .ask (fun _ => trivial) fun _ => .request fun _ => trivial

variable {register}

theorem asks_write (hplace : register.place ∈ places) (value : BitVec width.bits) :
    (register.write value).Asks (Event.WritesAmong places) :=
  .ask (fun _ => trivial) fun _ => .request fun _ => hplace

theorem asks_modify (hplace : register.place ∈ places)
    (change : BitVec width.bits → BitVec width.bits) :
    (register.modify change).Asks (Event.WritesAmong places) :=
  register.asks_read.bind fun value => asks_write hplace (change value)

end Register

namespace Options

variable {α : Type}

/-- However often something is tried, it writes what a single attempt may write. -/
theorem asks_tryRepeatedly {attempt : α → Program (α × Bool)}
    (hattempt : ∀ value, (attempt value).Asks (Event.WritesAmong places)) (interval : Word)
    (retries : Nat) (value : α) :
    (tryRepeatedly interval attempt retries value).Asks (Event.WritesAmong places) := by
  induction retries generalizing value with
  | zero => exact (hattempt value).bind fun _ => .done _
  | succ retries ih =>
    refine (hattempt value).bind fun (value, reached) => .ite (.done _) ?_
    exact (Program.asks_delay interval).bind fun _ => ih value

theorem asks_poll {attempt : α → Program (α × Bool)}
    (hattempt : ∀ value, (attempt value).Asks (Event.WritesAmong places)) (options : Options)
    (value : α) : (options.poll attempt value).run.Asks (Event.WritesAmong places) := by
  refine Attempt.asks_bind (Attempt.asks_program (asks_tryRepeatedly hattempt _ _ value)) ?_
  rintro (_ | reached)
  · exact .done _
  · exact .done _

theorem asks_pollUntil {condition : Program Bool}
    (hcondition : condition.Asks (Event.WritesAmong places)) (options : Options) :
    (options.pollUntil condition).run.Asks (Event.WritesAmong places) :=
  asks_poll (fun _ => hcondition.bind fun _ => .done _) options ()

end Options

end SdHost
