import SdHost.Request.Command
import SdHost.Request.Status

/-!
# Requests

A request is one command with its data phase, on its way through the slot. The framework issues
it step by step: first the command, then, for data that the processor moves, one block at a time.
Each step ends when every event it waits for has come, or at the first error.

## Modelled functions

* `Request.new`, `Request.beginStep`, `Request.addRequiredEvents`, `Request.clearRequiredEvents`: `new`,
  `begin_step`, `add_required_events` and `clear_required_events` of a request.

What a request waits for, its status and its completions are changed atomically by whoever holds the request.
Here they are fields, and a program that changes them gives the request back.
-/

namespace SdHost

/-- What the framework wants done next with a request. -/
inductive RequestType where
  /-- Send a command without data phase. -/
  | commandNoTransfer
  /-- Send a command with a data phase. -/
  | commandWithTransfer
  /-- Go on with the data phase. -/
  | startTransfer
  deriving DecidableEq, Repr

/-- How far a step of a request got at once. -/
inductive Progress where
  /-- An interrupt will bring it further. -/
  | pending
  /-- It is done, and the framework has been told. -/
  | completed
  deriving DecidableEq, Repr

/-- A command with its data phase, and how far it got. -/
structure Request where
  /-- What to do next. -/
  requestType : RequestType
  /-- The command. -/
  command : Command
  /-- The interrupt events that the step still waits for. -/
  requiredEvents : Word := 0
  /-- How the last step went. -/
  status : Status := .success
  /-- How often the step has been reported as done. -/
  completions : Word := 0
  deriving DecidableEq, Repr

namespace Request

/-- A fresh request for a command. -/
def new (command : Command) : Request where
  requestType :=
    if command.transferType = .none then .commandNoTransfer else .commandWithTransfer
  command

/-- Begin a step, of which nothing has been reported yet. -/
def beginStep (request : Request) : Request :=
  { request with completions := 0 }

/-- Wait for more events. -/
def addRequiredEvents (events : Word) (request : Request) : Request :=
  { request with requiredEvents := request.requiredEvents ||| events }

/-- Stop waiting for events that have come. -/
def clearRequiredEvents (events : Word) (request : Request) : Request :=
  { request with requiredEvents := request.requiredEvents &&& ~~~events }

/-- Each number of a request with the name it is known by. -/
def readings (request : Request) : List (String × Reading) := [
  ("index", .number request.command.index.toNat),
  ("argument", .number request.command.argument.toNat),
  ("block_size", .number request.command.blockSize.toNat),
  ("block_count", .number request.command.blockCount.toNat),
  ("length", .number request.command.length),
  ("cursor", .number request.command.cursor),
  ("required_events", .number request.requiredEvents.toNat),
  ("completions", .number request.completions.toNat)]

end Request

end SdHost
