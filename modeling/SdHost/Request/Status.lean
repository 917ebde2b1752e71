import SdHost.Register.Interrupt

/-!
# Request statuses

How a step of a request went, as the framework is told.

## Modelled functions

* `Status.ofErrors`: `from_errors`.
-/

namespace SdHost

/-- How a step of a request went. -/
inductive Status where
  /-- The request is done. -/
  | success
  /-- The step is done, and more blocks are to be moved. -/
  | moreProcessingRequired
  /-- The command or its data did not come in time. -/
  | timeout
  /-- The checksum of the response or of a block is wrong. -/
  | checksum
  /-- The response or a block does not end as it should. -/
  | endBit
  /-- The response belongs to another command. -/
  | commandIndex
  /-- The card draws too much current. -/
  | currentLimit
  /-- Any other error of the controller. -/
  | otherError
  deriving DecidableEq, Repr

def Status.name : Status → String
  | .success => "Success"
  | .moreProcessingRequired => "MoreProcessingRequired"
  | .timeout => "IoTimeout"
  | .checksum => "CrcError"
  | .endBit => "DeviceDataError"
  | .commandIndex => "DeviceProtocolError"
  | .currentLimit => "DevicePowerFailure"
  | .otherError => "IoDeviceError"

namespace Status

open ErrorEvents

/-- The status that error interrupts stand for. A timeout outweighs a wrong checksum, which
outweighs a wrong end bit, then a wrong index, then the current limit. -/
def ofErrors (errors : HalfWord) : Status :=
  if errors = 0 then .success
  else if commandTimeout.test errors || dataTimeout.test errors then .timeout
  else if commandCrc.test errors || dataCrc.test errors then .checksum
  else if commandEndBit.test errors || dataEndBit.test errors then .endBit
  else if ErrorEvents.commandIndex.test errors then .commandIndex
  else if ErrorEvents.currentLimit.test errors then .currentLimit
  else .otherError

end Status

end SdHost
