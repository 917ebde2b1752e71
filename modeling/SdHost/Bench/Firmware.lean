import SdHost.Regulator.Message

/-!
# Simulated firmware

Firmware with one pin, and a byte stream that leads to it. Both can be told to fail.
-/

namespace SdHost.Bench

/-- What comes of a call to the firmware. -/
inductive Outcome where
  /-- The firmware answers with a response code. -/
  | answers (code : Word)
  /-- The call does not get through. -/
  | fails (cause : RegulatorError)
  deriving DecidableEq, Repr

/-- Simulated firmware. -/
structure Firmware where
  /-- State of the pin. -/
  state : Word := 0
  /-- What comes of the next calls. -/
  script : List Outcome := []
  /-- What comes of the calls after them. -/
  fallback : Outcome := .answers PinMessage.success
  deriving DecidableEq, Repr

namespace Firmware

/-- Take what comes of the next call. -/
def nextOutcome (firmware : Firmware) : Outcome × Firmware :=
  match firmware.script with
  | [] => (firmware.fallback, firmware)
  | outcome :: script => (outcome, { firmware with script })

/-- Answer a message with a response code. A message that is too short to hold a pin is left
alone, and only success has an effect on the pin or on the state in the message. -/
def answer (firmware : Firmware) (code : Word) (message : Memory) : Memory × Firmware :=
  if message.size < 28 then
    (message, firmware)
  else
    let message := Memory.store message 4 (LittleEndian.bytes 4 code.toNat)
    if code = PinMessage.success then
      if PinMessage.wordAt message 8 = PinMessage.driveTag then
        (message, { firmware with state := PinMessage.wordAt message 24 })
      else
        (Memory.store message 24 (LittleEndian.bytes 4 firmware.state.toNat), firmware)
    else
      (message, firmware)

/-- Make a property call. -/
def call (firmware : Firmware) (message : Memory) :
    (Except RegulatorError Unit × Memory) × Firmware :=
  match firmware.nextOutcome with
  | (.fails cause, firmware) => ((.error cause, message), firmware)
  | (.answers code, firmware) =>
    let (message, firmware) := firmware.answer code message
    ((.ok (), message), firmware)

end Firmware

/-- A simulated byte stream. A limit that is absent is no limit. -/
structure Stream where
  /-- The most bytes that one write takes. -/
  writeChunk : Option Nat := none
  /-- The most bytes that one read gives. -/
  readChunk : Option Nat := none
  /-- The most bytes that can wait for a flush. -/
  writeLimit : Option Nat := none
  /-- The most bytes that can still be read. -/
  readLimit : Option Nat := none
  /-- The most bytes of an answer that arrive. -/
  answerLength : Option Nat := none
  /-- Flushing fails. -/
  flushFails : Bool := false
  /-- Bytes that wait for a flush. -/
  pending : Memory := #[]
  /-- Bytes that wait to be read. -/
  answers : List Byte := []
  deriving DecidableEq, Repr

namespace Stream

/-- Set the limit of a given name, if there is one. -/
def set? (stream : Stream) (name : String) (value : Nat) : Option Stream :=
  match name with
  | "write_chunk" => some { stream with writeChunk := some value }
  | "read_chunk" => some { stream with readChunk := some value }
  | "write_limit" => some { stream with writeLimit := some value }
  | "read_limit" => some { stream with readLimit := some value }
  | "answer_len" => some { stream with answerLength := some value }
  | _ => none

/-- A count, cut down to a limit if there is one. -/
def upTo (count : Nat) : Option Nat → Nat
  | none => count
  | some limit => min count limit

/-- Whether a count goes over a limit, if there is one. -/
def exceeds (count : Nat) : Option Nat → Bool
  | none => false
  | some limit => decide (limit < count)

/-- Take bytes to write. The reply tells how many were taken, if it did not fail. -/
def write (stream : Stream) (bytes : List Byte) : Option Nat × Stream :=
  let taken := upTo bytes.length stream.writeChunk
  if exceeds (stream.pending.size + taken) stream.writeLimit then
    (none, stream)
  else
    (some taken, { stream with pending := stream.pending ++ bytes.take taken })

/-- Give bytes to read, at most so many. -/
def read (stream : Stream) (room : Nat) : Option (List Byte) × Stream :=
  let given := min (upTo room stream.readChunk) stream.answers.length
  if 0 < given ∧ exceeds given stream.readLimit then
    (none, stream)
  else
    (some (stream.answers.take given),
      { stream with
        readLimit := stream.readLimit.map (· - given)
        answers := stream.answers.drop given })

end Stream

end SdHost.Bench
