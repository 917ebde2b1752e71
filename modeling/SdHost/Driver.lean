import SdHost.Regulator.Channel

/-!
# The driver-wide object

What all slots of a driver share: the channel to the regulator of the signaling voltage.

## Modelled functions

* `Driver.new`, `Driver.close`: `open` and `close`;
* `Driver.regulatorAvailable`, `Driver.regulatorHandle`: `regulator_available` and `regulator`;
* `Driver.controlPower`: `power_control_callback`.
-/

namespace SdHost

/-- What all slots of a driver share. -/
structure Driver where
  /-- The channel to the regulator, if there is one. -/
  regulator : Option Channel
  /-- The driver writes a crash dump. -/
  crashDump : Bool
  deriving DecidableEq, Repr

namespace Driver

/-- Set the driver up. While a crash dump is written the regulator is left alone, and the channel
is dropped. -/
def new (channel : Option Channel) (crashDump : Bool) : Driver where
  regulator := if crashDump then none else channel
  crashDump

/-- Whether there is a channel to the regulator. -/
def regulatorAvailable (driver : Driver) : Bool :=
  driver.regulator.isSome

/-- A handle on the channel for one slot. -/
def regulatorHandle (driver : Driver) : Option Channel :=
  driver.regulator.map .shared

/-- How many slots the controller has. -/
def slotCount (_ : Driver) : Nat :=
  1

/-- Manage power at run time. Not implemented for any controller. -/
def controlPower (_ : Driver) : Except Error Unit :=
  .error .notImplemented

/-- Drop the channel. -/
def cleanup (driver : Driver) : Driver :=
  { driver with regulator := none }

/-- Shut the driver down and give the channel back. -/
def close (driver : Driver) : Option Channel :=
  driver.regulator

end Driver

end SdHost
