import SdHost.Memory

/-!
# Errors and faults

Two kinds of failure are kept apart. An `Error` is an answer: the operation was refused or did
not work out, and the slot goes on. A `Fault` is a broken promise of the caller or of the
hardware, after which the driver stops.

The driver is taken as it is built for its tests: debug assertions are checked, and a sum that its machine
word cannot hold is a fault and does not wrap around. Log messages are left out, together with the register
reads in their arguments, which no caller and no later step depends on.
-/

namespace SdHost

/-- Why a call to the signaling-voltage regulator failed. -/
inductive RegulatorError where
  /-- There is no channel to the firmware. -/
  | notFound
  /-- The channel did not carry the message, or brought back too short an answer. -/
  | transport
  /-- The firmware answered with a response code other than success. -/
  | rejected (code : Word)
  deriving DecidableEq, Repr

namespace RegulatorError

def name : RegulatorError → String
  | .notFound => "NotFound"
  | .transport => "Transport"
  | .rejected _ => "Rejected"

/-- The response code that goes with an error, if there is one. -/
def detail? : RegulatorError → Option String
  | .rejected code => some (toString code.toNat)
  | _ => none

/-- The name and the response code. -/
def text (error : RegulatorError) : String :=
  match error.detail? with
  | some detail => error.name ++ "(" ++ detail ++ ")"
  | none => error.name

end RegulatorError

/-- Why an operation on a slot failed. -/
inductive Error where
  /-- The controller cannot do what was asked, or a code is not a known one. -/
  | notSupported
  /-- The controller did not reach the expected state in time. -/
  | timeout
  /-- The controller did not latch a setting that was read back. -/
  | unsuccessful
  /-- The operation is not implemented for any controller. -/
  | notImplemented
  /-- Memory for direct access could not be had, or a table has too little room. -/
  | insufficientResources
  /-- The signaling-voltage regulator failed. -/
  | regulator (cause : RegulatorError)
  deriving DecidableEq, Repr

namespace Error

def name : Error → String
  | .notSupported => "NotSupported"
  | .timeout => "IoTimeout"
  | .unsuccessful => "Unsuccessful"
  | .notImplemented => "NotImplemented"
  | .insufficientResources => "InsufficientResources"
  | .regulator _ => "Regulator"

/-- What went wrong with the regulator, if it was the regulator. -/
def detail? : Error → Option String
  | .regulator cause => some cause.text
  | _ => none

end Error

/-- A promise that was broken, on which the driver stops. -/
inductive Fault where
  /-- A descriptor table was asked for without any element to describe. -/
  | noElements
  /-- A scatter/gather element covers no byte. -/
  | emptyElement
  /-- A bus width that no card has. -/
  | badBusWidth (width : Byte)
  /-- A length that the descriptors in use cannot express. -/
  | badLength
  /-- An access past the end of a mapping or of a buffer. -/
  | outOfBounds
  /-- A sum or product that its machine word cannot hold. -/
  | overflow
  /-- The capability registers describe a controller that cannot exist. -/
  | impossibleCapabilities
  /-- A byte stream took nothing although there was something to write. -/
  | stalledStream
  deriving DecidableEq, Repr

/-- The explanation that goes with a fault, for the faults a caller can bring about by a value
it passes. -/
def Fault.message? : Fault → Option String
  | .noElements => some "ADMA2 table needs at least one scatter/gather element"
  | .emptyElement => some "zero-length scatter/gather element"
  | .badBusWidth width => some ("bad bus width " ++ toString width.toNat)
  | _ => none

end SdHost
