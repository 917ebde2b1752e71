import SdHost.Host.Program
import SdHost.Register.CapabilityBits
import SdHost.Register.Map

/-!
# Access to the surroundings

The single steps that the driver's programs are made of. A register access comes in two forms.
The ordinary form puts a barrier in front, so that the controller has seen everything that came
before. The unfenced form does not, and serves for runs of accesses of which only one has to be
ordered.
-/

namespace SdHost

namespace Program

/-- Order all earlier register accesses before the later ones. -/
def barrier : Program Unit :=
  request .barrier

/-- Wait for some microseconds. -/
def delay (microseconds : Word) : Program Unit :=
  request (.delay microseconds)

end Program

namespace Register

variable {width : Width}

/-- Read a register without a barrier. -/
def readUnfenced (register : Register width) : Program (BitVec width.bits) :=
  Program.request (.read width register.offset)

/-- Write a register without a barrier. -/
def writeUnfenced (register : Register width) (value : BitVec width.bits) : Program Unit :=
  Program.request (.write width register.offset value)

/-- Read a register. -/
def read (register : Register width) : Program (BitVec width.bits) := do
  Program.barrier
  register.readUnfenced

/-- Write a register. -/
def write (register : Register width) (value : BitVec width.bits) : Program Unit := do
  Program.barrier
  register.writeUnfenced value

/-- Change a register: read it and write back what becomes of its value. -/
def modify (register : Register width) (change : BitVec width.bits → BitVec width.bits) :
    Program Unit := do
  register.write (change (← register.read))

end Register

/-- Read both words of the capability register, the low one first. -/
def CapabilityBits.read : Program DoubleWord := do
  let low ← RegisterMap.capabilitiesLow.read
  let high ← RegisterMap.capabilitiesHigh.read
  return high ++ low

end SdHost
