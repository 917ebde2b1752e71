import SdHost.Host.Program
import SdHost.Regulator.Message

/-!
# Channels to the regulator

A property message reaches the firmware through a channel. The firmware itself is the plainest
one. A channel can be shared by several users, it can be kept to passive context, and it can be a
byte stream into which the message is written and from which the answer is read back.

## Modelled functions

* `Channel.property`: `property` of a channel, with `Channel.callStream` for one over a byte stream;
* `Channel.readPin`, `Channel.drivePin`: `get_gpio_state` and `set_gpio_state`.
-/

namespace SdHost

/-- A way for property messages to reach the firmware. -/
inductive Channel where
  /-- The firmware takes the message itself. -/
  | firmware
  /-- A channel that several users share, one call at a time. -/
  | shared (inner : Channel)
  /-- A channel that is only used in passive context. A caller in another context waits while a
  worker makes the call. -/
  | marshalled (inner : Channel)
  /-- A byte stream to the firmware. -/
  | stream
  deriving DecidableEq, Repr

/-- What became of a property call: whether the channel carried it, and the message as it is
afterwards. -/
abbrev PropertyResult : Type :=
  Except RegulatorError Unit × Memory

namespace Channel

/-- Make a call so many times, each on the message that the one before left. The last one
counts. -/
def repeatCall (call : Memory → Program PropertyResult) :
    Nat → PropertyResult → Program PropertyResult
  | 0, result => return result
  | times + 1, (_, message) => do
    repeatCall call times (← call message)

/-- Write a run of bytes to the stream in as many pieces as it takes, and tell whether that
worked. `steps` bounds the number of pieces. A stream that takes nothing, or more than it was
given, breaks its promise. -/
def writeAll : (steps : Nat) → List Byte → Program Bool
  | _, [] => return true
  | 0, _ :: _ => .fault .stalledStream
  | steps + 1, byte :: rest => do
    match ← Program.request (.streamWrite (byte :: rest)) with
    | none => return false
    | some 0 => .fault .stalledStream
    | some (taken + 1) =>
      if taken ≤ rest.length then writeAll steps (rest.drop taken)
      else .fault .outOfBounds

/-- Read bytes from the stream over a message in as many pieces as it takes, and tell whether
the message was filled. `steps` bounds the number of pieces. What was read before a failure
stays in the message. -/
def readAll : (steps offset : Nat) → Memory → Program (Bool × Memory)
  | 0, offset, message => return (decide (message.size ≤ offset), message)
  | steps + 1, offset, message =>
    if message.size ≤ offset then
      return (true, message)
    else do
      match ← Program.request (.streamRead (message.size - offset)) with
      | none => return (false, message)
      | some [] => return (false, message)
      | some (byte :: rest) =>
        let message := Memory.store message offset (byte :: rest)
        readAll steps (offset + (rest.length + 1)) message

/-- Write the message to the stream, flush it, and read the answer over it. -/
def callStream (message : Memory) : Program PropertyResult := do
  if ← writeAll message.size message.toList then
    if ← Program.request .streamFlush then
      let (filled, message) ← readAll message.size 0 message
      return (if filled then .ok () else .error .transport, message)
  return (.error .transport, message)

/-- Have the firmware answer a message in place. -/
def property : Channel → Memory → Program PropertyResult
  | .firmware, message => Program.request (.property message)
  | .shared inner, message => inner.property message
  | .marshalled inner, message => do
    if (← Program.request .context) = .passive then
      inner.property message
    else
      let times ← Program.request .runPassive
      repeatCall inner.property times (.error .transport, message)
  | .stream, message => callStream message

/-- Send a pin message and read the answer to it. -/
def exchange (channel : Channel) (message : PinMessage) :
    Program (Except RegulatorError PinMessage) := do
  match ← channel.property message.encode with
  | (.ok (), answer) => return PinMessage.decode answer
  | (.error cause, _) => return .error cause

/-- Read the state of a pin. -/
def readPin (channel : Channel) (pin : Word) : Program (Except RegulatorError Word) := do
  return (← channel.exchange (.read pin)).map PinMessage.state

/-- Drive a pin. -/
def drivePin (channel : Channel) (pin state : Word) : Program (Except RegulatorError Unit) := do
  return (← channel.exchange (.drive pin state)).map fun _ => ()

/-- The channel inside a wrapper. The firmware and a stream have nothing inside. -/
def inner : Channel → Channel
  | .shared inner => inner
  | .marshalled inner => inner
  | .firmware => .firmware
  | .stream => .stream

end Channel

end SdHost
