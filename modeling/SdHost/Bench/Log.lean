import SdHost.Hexadecimal
import SdHost.Register.Basic
import SdHost.Request.Status

/-!
# The log of the bench

What the simulated world saw of a driver program, entry by entry, and the short text that stands
for an entry.
-/

namespace SdHost.Bench

/-- Something that the world saw. -/
inductive Entry where
  /-- Register accesses were ordered. -/
  | barrier
  /-- A register was read. -/
  | read (width : Width) (offset : Nat) (value : BitVec width.bits)
  /-- A register was written. -/
  | write (width : Width) (offset : Nat) (value : BitVec width.bits)
  /-- Time passed. -/
  | delay (microseconds : Word)
  /-- A message reached the firmware. -/
  | message (bytes : Memory)
  /-- Work was given to the worker. -/
  | passive
  /-- The stream took bytes. -/
  | wrote (count : Nat)
  /-- The stream failed to take bytes. -/
  | writeFailed
  /-- The stream was flushed. -/
  | flushed
  /-- The stream failed to flush. -/
  | flushFailed
  /-- The stream gave bytes. -/
  | gave (count : Nat)
  /-- The stream failed to give bytes. -/
  | readFailed
  /-- A bounce buffer was handed out. -/
  | allocated (length : Nat)
  /-- A bounce buffer was refused. -/
  | refused (length : Nat)
  /-- The framework was told that a step is done. -/
  | completed (index : Byte) (status : Status) (completions : Word)

namespace Entry

/-- The text of a register access: what it was, its width in bytes, its offset and its value. -/
def access (kind : String) (width : Width) (offset : Nat) (value : BitVec width.bits) : String :=
  kind ++ toString width.bytes ++ ":" ++ Hexadecimal.padded 2 offset ++ "="
    ++ Hexadecimal.padded (2 * width.bytes) value.toNat

/-- The text of an entry. -/
def text : Entry → String
  | .barrier => "b"
  | .read width offset value => access "r" width offset value
  | .write width offset value => access "w" width offset value
  | .delay microseconds => "d:" ++ toString microseconds.toNat
  | .message bytes => "m:" ++ Hexadecimal.memory bytes
  | .passive => "x"
  | .wrote count => "io:w" ++ toString count
  | .writeFailed => "io:w!"
  | .flushed => "io:f"
  | .flushFailed => "io:f!"
  | .gave count => "io:r" ++ toString count
  | .readFailed => "io:r!"
  | .allocated length => "a:" ++ toString length
  | .refused length => "a:" ++ toString length ++ "!"
  | .completed index status completions =>
    "c:" ++ toString index.toNat ++ ":" ++ status.name ++ ":" ++ toString completions.toNat

end Entry

end SdHost.Bench
