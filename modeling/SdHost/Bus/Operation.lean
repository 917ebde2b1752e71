import SdHost.Error
import SdHost.Register.Control

/-!
# Bus operations

The changes that the framework can ask for, to the bus or to how the controller drives it. The
framework numbers the choices; a number it does not know is refused.

## Modelled functions

* `ofCode` of each type: the checked conversion from the framework's number, `try_from`;
* `SupplyVoltage`: `BusVoltage`;
* `BusSpeed.configure?`, `configureWidth?`: the register values of `set_bus_speed` and `set_bus_width`;
* `DriverType.select`: `register_value` of a driver type.
-/

namespace SdHost

/-- Which part of the controller to reset. -/
inductive ResetType where
  /-- All of it. -/
  | all
  /-- The command circuit. -/
  | command
  /-- The data circuit. -/
  | data
  deriving DecidableEq, Repr

def ResetType.name : ResetType → String
  | .all => "All"
  | .command => "Cmd"
  | .data => "Dat"

namespace ResetType

def ofCode (code : Word) : Except Error ResetType :=
  match code.toNat with
  | 1 => .ok .all
  | 2 => .ok .command
  | 3 => .ok .data
  | _ => .error .notSupported

/-- The bit that resets the part. -/
def bit : ResetType → Field 8
  | .all => SoftwareReset.all
  | .command => SoftwareReset.cmdLine
  | .data => SoftwareReset.datLine

end ResetType

/-- Supply voltage of the card. -/
inductive SupplyVoltage where
  | off
  | v33
  | v30
  | v18
  deriving DecidableEq, Repr

def SupplyVoltage.name : SupplyVoltage → String
  | .off => "Off"
  | .v33 => "V3_3"
  | .v30 => "V3_0"
  | .v18 => "V1_8"

namespace SupplyVoltage

def ofCode (code : Word) : Except Error SupplyVoltage :=
  match code.toNat with
  | 1 => .ok .off
  | 2 => .ok .v33
  | 3 => .ok .v30
  | 4 => .ok .v18
  | _ => .error .notSupported

/-- The value of the voltage field in Power Control, if the card is to be on. -/
def select? : SupplyVoltage → Option Nat
  | .off => none
  | .v33 => some PowerControl.select33
  | .v30 => some PowerControl.select30
  | .v18 => some PowerControl.select18

end SupplyVoltage

/-- Timing mode of the bus. -/
inductive BusSpeed where
  | normal
  | high
  | sdr12
  | sdr25
  | sdr50
  | ddr50
  | sdr104
  | hs200
  | hs400
  deriving DecidableEq, Repr

def BusSpeed.name : BusSpeed → String
  | .normal => "Normal"
  | .high => "High"
  | .sdr12 => "Sdr12"
  | .sdr25 => "Sdr25"
  | .sdr50 => "Sdr50"
  | .ddr50 => "Ddr50"
  | .sdr104 => "Sdr104"
  | .hs200 => "Hs200"
  | .hs400 => "Hs400"

namespace BusSpeed

def ofCode (code : Word) : Except Error BusSpeed :=
  match code.toNat with
  | 1 => .ok .normal
  | 2 => .ok .high
  | 3 => .ok .sdr12
  | 4 => .ok .sdr25
  | 5 => .ok .sdr50
  | 6 => .ok .ddr50
  | 7 => .ok .sdr104
  | 8 => .ok .hs200
  | 9 => .ok .hs400
  | _ => .error .notSupported

/-- What becomes of the two host control registers in a mode. The modes of embedded cards are not
supported. -/
def configure? (speed : BusSpeed) (control1 : Byte) (control2 : HalfWord) :
    Option (Byte × HalfWord) :=
  match speed with
  | .normal => some (HostControl1.highSpeed.put false control1, control2)
  | .high => some (HostControl1.highSpeed.put true control1, control2)
  | .sdr12 => some (control1, HostControl2.uhsMode.set 0 control2)
  | .sdr25 => some (control1, HostControl2.uhsMode.set 1 control2)
  | .sdr50 => some (control1, HostControl2.uhsMode.set 2 control2)
  | .sdr104 => some (control1, HostControl2.uhsMode.set 3 control2)
  | .ddr50 => some (control1, HostControl2.uhsMode.set 4 control2)
  | .hs200 | .hs400 => none

end BusSpeed

/-- Voltage of the signals. -/
inductive SignalingVoltage where
  | v33
  | v18
  deriving DecidableEq, Repr

def SignalingVoltage.name : SignalingVoltage → String
  | .v33 => "V3_3"
  | .v18 => "V1_8"

def SignalingVoltage.ofCode (code : Word) : Except Error SignalingVoltage :=
  match code.toNat with
  | 1 => .ok .v33
  | 2 => .ok .v18
  | _ => .error .notSupported

/-- How strongly the lines are driven. -/
inductive DriverType where
  | b
  | a
  | c
  | d
  deriving DecidableEq, Repr

def DriverType.name : DriverType → String
  | .b => "B"
  | .a => "A"
  | .c => "C"
  | .d => "D"

namespace DriverType

def ofCode (code : Word) : Except Error DriverType :=
  match code.toNat with
  | 1 => .ok .b
  | 2 => .ok .a
  | 3 => .ok .c
  | 4 => .ok .d
  | _ => .error .notSupported

/-- The value of the driver field in Host Control 2. -/
def select : DriverType → Nat
  | .b => 0
  | .a => 1
  | .c => 2
  | .d => 3

end DriverType

/-- What the host control register becomes with a number of data lines, where zero stands for
one. -/
def configureWidth? (width : Byte) (control : Byte) : Option Byte :=
  match width.toNat with
  | 0 | 1 => some (HostControl1.width8.put false (HostControl1.width4.put false control))
  | 4 => some (HostControl1.width8.put false (HostControl1.width4.put true control))
  | 8 => some (HostControl1.width8.put true (HostControl1.width4.put false control))
  | _ => none

/-- A change to the bus, or to how the controller drives it. -/
inductive BusOperation where
  /-- Reset the card. The controllers have no means to. -/
  | resetCard
  /-- Reset part of the controller. -/
  | resetHost (part : ResetType)
  /-- Set the clock, in kHz. Zero stops it. -/
  | setClock (khz : Word)
  /-- Set the supply voltage. -/
  | setVoltage (voltage : SupplyVoltage)
  /-- Switch the power and leave the voltage alone. Not supported. -/
  | setPower (on : Bool)
  /-- Set the number of data lines. -/
  | setBusWidth (width : Byte)
  /-- Set the timing mode. -/
  | setBusSpeed (speed : BusSpeed)
  /-- Switch the voltage of the signals. -/
  | setSignalingVoltage (voltage : SignalingVoltage)
  /-- Set how strongly the lines are driven, as a number. Not supported. -/
  | setDriveStrength (value : Word)
  /-- Set how strongly the lines are driven. -/
  | setDriverType (driver : DriverType)
  /-- Take the clock and driver settings from the presets. -/
  | setPresetValue (on : Bool)
  /-- Interrupt at block gaps. -/
  | setBlockGapInterrupt (on : Bool)
  /-- Tune the sampling clock. Nothing is done. -/
  | executeTuning
  /-- Switch the activity light. -/
  | setLed (on : Bool)
  deriving DecidableEq, Repr

/-- The operation of a given name, with the number that goes with it. A number that stands for no
choice is refused, and a switch is on unless its number is zero. -/
def BusOperation.ofName? (name : String) (number : Word) : Option (Except Error BusOperation) :=
  match name with
  | "ResetHw" => some (.ok .resetCard)
  | "ResetHost" => some ((ResetType.ofCode number).map .resetHost)
  | "SetClock" => some (.ok (.setClock number))
  | "SetVoltage" => some ((SupplyVoltage.ofCode number).map .setVoltage)
  | "SetPower" => some (.ok (.setPower (number != 0)))
  | "SetBusWidth" => some (.ok (.setBusWidth (number.setWidth 8)))
  | "SetBusSpeed" => some ((BusSpeed.ofCode number).map .setBusSpeed)
  | "SetSignalingVoltage" => some ((SignalingVoltage.ofCode number).map .setSignalingVoltage)
  | "SetDriveStrength" => some (.ok (.setDriveStrength number))
  | "SetDriverType" => some ((DriverType.ofCode number).map .setDriverType)
  | "SetPresetValue" => some (.ok (.setPresetValue (number != 0)))
  | "SetBlockGapInterrupt" => some (.ok (.setBlockGapInterrupt (number != 0)))
  | "ExecuteTuning" => some (.ok .executeTuning)
  | "SetLed" => some (.ok (.setLed (number != 0)))
  | _ => none

end SdHost
