import SdHost.Memory

/-!
# Hexadecimal text

Numbers and memory written in base sixteen, with lowercase digits. Digits of either case are read.
-/

namespace SdHost.Hexadecimal

/-- The digit for a number below sixteen. -/
def digit (n : Nat) : Char :=
  if n < 10 then Char.ofNat (48 + n) else Char.ofNat (87 + n)

/-- The number that a digit of either case stands for. -/
def digit? (c : Char) : Option Nat :=
  if '0' ≤ c ∧ c ≤ '9' then some (c.toNat - 48)
  else if 'a' ≤ c ∧ c ≤ 'f' then some (c.toNat - 87)
  else if 'A' ≤ c ∧ c ≤ 'F' then some (c.toNat - 55)
  else none

/-- A number with exactly `count` digits, of which the highest may be zero. -/
def padded (count n : Nat) : String :=
  String.ofList ((List.range count).map fun i => digit ((n >>> (4 * (count - 1 - i))) % 16))

/-- A number with as few digits as it needs. -/
def number (n : Nat) : String :=
  String.ofList (Nat.toDigits 16 n)

/-- The number that a run of digits stands for. -/
def number? (digits : List Char) : Option Nat :=
  digits.foldlM (fun value c => (digit? c).map (16 * value + ·)) 0

/-- Memory, two digits for a byte. -/
def memory (bytes : Memory) : String :=
  bytes.foldl (fun text byte =>
    (text.push (digit (byte.toNat / 16))).push (digit (byte.toNat % 16))) ""

/-- Read memory from its text, after what has been read already. -/
def memoryAfter? : List Char → Memory → Option Memory
  | [], bytes => some bytes
  | [_], _ => none
  | high :: low :: rest, bytes =>
    match digit? high, digit? low with
    | some h, some l => memoryAfter? rest (bytes.push (BitVec.ofNat 8 (16 * h + l)))
    | _, _ => none

/-- The memory that a text stands for. -/
def memory? (text : String) : Option Memory :=
  memoryAfter? text.toList #[]

end SdHost.Hexadecimal
