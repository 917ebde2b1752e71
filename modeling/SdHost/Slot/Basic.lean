import SdHost.Controller.Basic
import SdHost.Dma.Bounce
import SdHost.Host.Access
import SdHost.Regulator.Channel

/-!
# Slots

The state of one slot, and what all its operations are built on: polling the hardware for a
bounded time, getting a bounce buffer, and switching the regulator.

## Modelled functions

* `Options.pollUntil`: `poll_until`, and `Options.tryRepeatedly` the counting of its `Delay`;
* `Slot.allocateBounce`: `allocate_bounce`;
* `Slot.switchRegulator`: `set_regulator_voltage_1_8`;
* `Slot.cleanup`: `cleanup`.
-/

namespace SdHost

/-- Choices for running a slot. -/
structure Options where
  /-- Transfers of up to this many bytes are never bounced. -/
  pioThreshold : Nat := 64
  /-- Size of the bounce buffer, in bytes. -/
  bounceSize : Nat := 0x100000
  /-- Size of the bounce buffer when writing a crash dump. -/
  crashDumpBounceSize : Nat := 0x10000
  /-- How often the hardware is looked at again before giving up. -/
  pollRetries : Nat := 100
  /-- Microseconds between two looks. -/
  pollInterval : Word := 1000
  /-- Microseconds that the card's clock takes to settle. -/
  clockSettle : Word := 10000
  /-- Microseconds that the voltage of the signals takes to settle. -/
  signalingSettle : Word := 5000
  deriving DecidableEq, Repr

/-- One slot of a controller. -/
structure Slot where
  /-- The controller. -/
  controller : Controller
  /-- The channel to the regulator of the signaling voltage. -/
  regulator : Option Channel := none
  /-- Choices for running the slot. -/
  options : Options := {}
  /-- What the slot can do, once it has been initialized. -/
  capabilities : Capabilities := {}
  /-- The slot writes a crash dump, and no interrupt reaches the processor. -/
  crashDump : Bool := false
  /-- The regulator is at 1.8 V. -/
  regulatorAt18 : Bool := false
  /-- Offset between the processor's addresses and the controller's. -/
  busOffset : Word := 0
  /-- The bounce pages, if there are any. -/
  bounce : Option BouncePages := none
  /-- The transfer that goes through the bounce pages at the moment. -/
  bounceInProgress : Option Direction := none

namespace Options

variable {σ : Type}

/-- Try again and again until an attempt reaches its goal, at most `retries` times after the
first. Each attempt goes on from what the one before it left, and there is a pause in between. -/
def tryRepeatedly (interval : Word) (attempt : σ → Program (σ × Bool)) :
    (retries : Nat) → σ → Program (Option σ)
  | 0, state => do
    let (state, reached) ← attempt state
    return if reached then some state else none
  | retries + 1, state => do
    let (state, reached) ← attempt state
    if reached then
      return some state
    else
      Program.delay interval
      tryRepeatedly interval attempt retries state

/-- Try until an attempt reaches its goal, for as long as the options allow. -/
def poll (options : Options) (attempt : σ → Program (σ × Bool)) (state : σ) : Attempt σ := do
  match ← tryRepeatedly options.pollInterval attempt options.pollRetries state with
  | some state => return state
  | none => throw .timeout

/-- Wait until a condition of the hardware holds, for as long as the options allow. -/
def pollUntil (options : Options) (condition : Program Bool) : Attempt Unit :=
  options.poll (fun _ => do return ((), ← condition)) ()

end Options

namespace Options

/-- Each choice with the name it is known by. -/
def readings (options : Options) : List (String × Reading) := [
  ("pio_threshold", .number options.pioThreshold),
  ("bounce_size", .number options.bounceSize),
  ("crash_dump_bounce_size", .number options.crashDumpBounceSize),
  ("poll_retries", .number options.pollRetries),
  ("poll_interval_us", .number options.pollInterval.toNat),
  ("clock_settle_us", .number options.clockSettle.toNat),
  ("signaling_settle_us", .number options.signalingSettle.toNat)]

/-- Change the choice of a given name, if there is one. -/
def set? (options : Options) (name : String) (value : Nat) : Option Options :=
  match name with
  | "pio_threshold" => some { options with pioThreshold := value }
  | "bounce_size" => some { options with bounceSize := value }
  | "crash_dump_bounce_size" => some { options with crashDumpBounceSize := value }
  | "poll_retries" => some { options with pollRetries := value }
  | "poll_interval_us" => some { options with pollInterval := BitVec.ofNat 32 value }
  | "clock_settle_us" => some { options with clockSettle := BitVec.ofNat 32 value }
  | "signaling_settle_us" => some { options with signalingSettle := BitVec.ofNat 32 value }
  | _ => none

end Options

namespace Slot

/-- How many bytes the bounce pages can hold, if there are any. -/
def bounceCapacity (slot : Slot) : Option Nat :=
  slot.bounce.map BouncePages.capacity

/-- A size in bytes, rounded up to whole pages. -/
def wholePages (length : Nat) : Except Fault Nat :=
  let size := (length + (pageSize - 1)) / pageSize * pageSize
  if size < 0x10000000000000000 then .ok size else .error .overflow

/-- Give the memory of bounce pages back, if there is any. -/
def releasePages : Option BouncePages → Program Unit
  | some pages => Program.request (.release pages.buffer)
  | none => return

/-- Replace the bounce pages by new ones for at least `length` bytes. If no buffer is to be had,
or none that the controller can use, the pages stay as they are. -/
def allocateBounce (slot : Slot) (length : Nat) : Attempt Slot := do
  let size ← wholePages length
  match ← Program.request (.allocate size) with
  | none => throw .insufficientResources
  | some buffer =>
    match BouncePages.new buffer slot.busOffset with
    | .error refused =>
      Program.request (.release refused)
      throw .insufficientResources
    -- The old pages go only once there are others to take their place.
    | .ok pages =>
      releasePages slot.bounce
      return { slot with bounce := some pages }

/-- Switch the regulator. The new state is recorded only if the firmware accepted it. -/
def switchRegulator (at18 : Bool) : Task Slot Unit := do
  match (← get).regulator with
  | none => throw (.regulator .notFound)
  | some channel =>
    let state := if at18 then Regulator.state18 else Regulator.state33
    match ← channel.drivePin Regulator.signalingPin state with
    | .error cause => throw (.regulator cause)
    | .ok () => modify fun slot => { slot with regulatorAt18 := at18 }

/-- Give up the bounce pages, and with them the transfer that goes through them. -/
def cleanup (slot : Slot) : Program Slot := do
  releasePages slot.bounce
  return { slot with bounce := none, bounceInProgress := none }

end Slot

end SdHost
