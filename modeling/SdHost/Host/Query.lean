import SdHost.Dma.Bounce
import SdHost.Register.Basic
import SdHost.Request.Basic

/-!
# Queries

All that a slot driver can ask of its surroundings: the controller's registers, a timer, the
firmware, a worker that may block, a byte stream, an allocator, and the framework that issued the
requests. Each query says what kind of reply it gets.
-/

namespace SdHost

/-- The context in which the driver's caller runs. -/
inductive CallContext where
  /-- An ordinary thread, which may block. -/
  | passive
  /-- An asynchronous procedure call. -/
  | apc
  /-- Dispatch level. -/
  | dispatch
  deriving DecidableEq, Repr

/-- A question that the driver asks of its surroundings. -/
inductive Query where
  /-- Order all earlier register accesses before the later ones. -/
  | barrier
  /-- Read a register. -/
  | read (width : Width) (offset : Nat)
  /-- Write a register. -/
  | write (width : Width) (offset : Nat) (value : BitVec width.bits)
  /-- Wait for some microseconds. -/
  | delay (microseconds : Word)
  /-- Have the firmware answer a property message in place. -/
  | property (message : Memory)
  /-- Tell the context that the caller runs in. -/
  | context
  /-- Have a worker in passive context run some work. The reply tells how often it ran it. -/
  | runPassive
  /-- Write to the byte stream. The reply tells how many bytes were taken, if it did not fail. -/
  | streamWrite (bytes : List Byte)
  /-- Flush the byte stream. The reply tells whether that worked. -/
  | streamFlush
  /-- Read at most so many bytes from the byte stream. There is no reply if that failed. -/
  | streamRead (room : Nat)
  /-- Allocate a bounce buffer of at least so many bytes. -/
  | allocate (length : Nat)
  /-- Give a bounce buffer back. -/
  | release (buffer : BounceBuffer)
  /-- Tell the framework that a step of a request is done. -/
  | complete (request : Request) (status : Status)

/-- The kind of reply to a query. -/
@[reducible]
def Query.Reply : Query → Type
  | .barrier => Unit
  | .read width _ => BitVec width.bits
  | .write _ _ _ => Unit
  | .delay _ => Unit
  | .property _ => Except RegulatorError Unit × Memory
  | .context => CallContext
  | .runPassive => Nat
  | .streamWrite _ => Option Nat
  | .streamFlush => Bool
  | .streamRead _ => Option (List Byte)
  | .allocate _ => Option BounceBuffer
  | .release _ => Unit
  | .complete _ _ => Unit

end SdHost
