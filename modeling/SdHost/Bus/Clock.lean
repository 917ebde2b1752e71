import SdHost.Error

/-!
# Clock divisors

The card's clock is the base clock divided by a number that the controller can be programmed
with: a power of two up to 256 on older hosts, any even number up to 2046 on hosts that follow
version 3 of the specification.

## Modelled functions

* `ClockDivisor.find`: `clock_divisor`.
-/

namespace SdHost

/-- The specification version register of a host that follows version 3.00. -/
def specVersion3 : Byte := 2

namespace ClockDivisor

/-- The largest divisor that a version 3 host can be programmed with. -/
def largest : Nat := 2046

/-- The least power of two, from 2 to 256, that brings the base clock down to the target. -/
def powerOfTwo? (base target : Nat) : Option Nat :=
  ((List.range' 1 8).find? fun shift => base >>> shift ≤ target).map (1 <<< ·)

/-- The least even number whose product with the target reaches the base clock. It is computed in
a word. -/
def even (base target : Nat) : Except Fault Nat :=
  -- The quotient was rounded down, and then down to an even number.
  let below := base / target / 2 * 2
  if base ≤ target * below then .ok below
  else if below + 2 < 0x100000000 then .ok (below + 2)
  else .error .overflow

/-- The divisor that comes closest to the target frequency without going over it, both given in
kHz. One means that the base clock is not divided. -/
def find (base target : Word) (spec : Byte) : ExceptT Error (Except Fault) Nat :=
  if target = 0 then
    throw .notSupported
  else if base ≤ target then
    return 1
  else if spec < specVersion3 then
    match powerOfTwo? base.toNat target.toNat with
    | some divisor => return divisor
    | none => throw .notSupported
  else do
    let divisor ← (even base.toNat target.toNat : Except Fault Nat)
    if largest < divisor then
      throw .notSupported
    return divisor

end ClockDivisor

end SdHost
