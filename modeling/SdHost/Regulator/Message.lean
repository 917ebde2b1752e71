import SdHost.Error

/-!
# Pin messages

The signaling voltage comes from a regulator on the firmware's pin expander. A pin is read or
driven by a property message of eight words, which the firmware answers in place: it replaces the
request code by a response code and, for a read, fills in the state.

## Modelled functions

* `PinMessage.read`, `PinMessage.drive`: `get` and `set` of a message;
* `PinMessage.encode`, `PinMessage.decode`: `encode` and `decode`.
-/

namespace SdHost

/-- A request to read or to drive one pin of the expander. -/
structure PinMessage where
  /-- Whether the pin is read or driven. -/
  tag : Word
  /-- The pin. -/
  pin : Word
  /-- The state of the pin. -/
  state : Word
  deriving DecidableEq, Repr

namespace PinMessage

/-- Number of bytes in a message. -/
def size : Nat := 32

/-- Tag of a message that reads a pin. -/
def readTag : Word := 0x00030041

/-- Tag of a message that drives a pin. -/
def driveTag : Word := 0x00038041

/-- The request code, which the firmware replaces. -/
def requestCode : Word := 0

/-- The response code for success. -/
def success : Word := 0x80000000

/-- Ask for the state of a pin. -/
def read (pin : Word) : PinMessage :=
  { tag := readTag, pin, state := 0 }

/-- Drive a pin. -/
def drive (pin state : Word) : PinMessage :=
  { tag := driveTag, pin, state }

/-- The eight words of a message: size, request code, tag, room for the value, length of the
value, pin, state, and the mark that ends the list of properties. -/
def words (message : PinMessage) : List Word :=
  [BitVec.ofNat 32 size, requestCode, message.tag, 8, 8, message.pin, message.state, 0]

/-- The message as it is sent. -/
def encode (message : PinMessage) : Memory :=
  (message.words.flatMap fun word => LittleEndian.bytes 4 word.toNat).toArray

/-- The word at a byte offset of a message. -/
def wordAt (buffer : Memory) (offset : Nat) : Word :=
  BitVec.ofNat 32 (Memory.load buffer offset 4)

/-- Read the answer to a message. It has to be long enough, and its code has to be success. -/
def decode (buffer : Memory) : Except RegulatorError PinMessage :=
  if buffer.size < size then
    .error .transport
  else
    let code := wordAt buffer 4
    if code = success then
      .ok { tag := wordAt buffer 8, pin := wordAt buffer 20, state := wordAt buffer 24 }
    else
      .error (.rejected code)

end PinMessage

namespace Regulator

/-- The expander pin that drives the signaling voltage. -/
def signalingPin : Word := 132

/-- State of the pin for signaling at 3.3 V. -/
def state33 : Word := 0

/-- State of the pin for signaling at 1.8 V. -/
def state18 : Word := 1

end Regulator

end SdHost
