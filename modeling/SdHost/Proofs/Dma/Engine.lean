import SdHost.Dma.Table
import SdHost.Proofs.Memory
import SdHost.Proofs.Register.Field

/-!
# The engine that follows descriptor tables

What a controller makes of a descriptor table, as the specification of the table format has it:
entries of eight or of twelve bytes, each with its attributes and its length in the first word and
with its address in the rest, followed one after the other up to the first that carries the end
mark. The tables that the driver builds are given their meaning by this engine.

The module introduces:

* `DmaEngine.Entry.ofBytes`: what the bytes of one entry say;
* `DmaEngine.entries`: the entries of a table;
* `DmaEngine.walk`, `DmaEngine.total`: the chunks that the engine moves, in order, and the number of
  their bytes;
* `Chunk.addresses`, `Element.addresses`: the bytes of a chunk and of a run, one by one.

A piecewise transfer covers the same bytes as a transfer in one go
(`List.map_range_eq_flatMap_pieces`), and a table whose last entry alone carries the end mark is
followed to its end (`DmaEngine.walk_append_last`).
-/

/-- A range is the ranges of its pieces, of which all but the last are full. -/
theorem List.map_range_eq_flatMap_pieces {α : Type} (piece : Nat) (hpiece : 0 < piece)
    (length : Nat) (f : Nat → α) :
    (List.range length).map f =
      (List.range ((length + (piece - 1)) / piece)).flatMap fun i =>
        (List.range (min piece (length - piece * i))).map fun j => f (piece * i + j) := by
  induction length using Nat.strong_induction_on generalizing f with
  | _ length ih =>
    rcases Nat.eq_zero_or_pos length with rfl | hlength
    · rw [Nat.zero_add, Nat.div_eq_of_lt (by omega), List.range_zero, List.map_nil,
        List.flatMap_nil]
    -- the first piece comes off, and the rest is a shorter range
    have hcount : (length + (piece - 1)) / piece = (length - piece + (piece - 1)) / piece + 1 := by
      rcases Nat.lt_or_ge length piece with hlt | hge
      · have hone : (length + (piece - 1)) / piece = 1 :=
          Nat.div_eq_of_lt_le (by omega) (by omega)
        rw [hone, Nat.sub_eq_zero_of_le hlt.le, Nat.zero_add, Nat.div_eq_of_lt (by omega)]
      · rw [← Nat.add_div_right _ hpiece]
        congr 1
        omega
    have hrange : List.range length =
        List.range (min piece length) ++ (List.range (length - piece)).map (piece + ·) := by
      rcases Nat.lt_or_ge length piece with hlt | hge
      · rw [Nat.min_eq_right hlt.le, Nat.sub_eq_zero_of_le hlt.le, List.range_zero, List.map_nil,
          List.append_nil]
      · rw [Nat.min_eq_left hge, ← List.range_add, Nat.add_sub_cancel' hge]
    rw [hcount, List.range_succ_eq_map, List.flatMap_cons, List.flatMap_map, hrange,
      List.map_append, List.map_map, ih (length - piece) (by omega)]
    congr 1
    · simp
    · congr 1
      funext i
      have hroom : length - piece * (i + 1) = length - piece - piece * i := by
        rw [Nat.mul_succ]
        omega
      rw [Nat.succ_eq_add_one, hroom]
      congr 1
      funext j
      rw [Function.comp_apply, Nat.mul_succ]
      congr 1
      omega

namespace SdHost

def Chunk.addresses (chunk : Chunk) : List Nat :=
  (List.range chunk.length).map (chunk.address + ·)

def Element.addresses (element : Element) : List Nat :=
  (List.range element.length.toNat).map (element.address.toNat + ·)

/-- The chunks of a run cover exactly its bytes, in order. -/
theorem Element.flatMap_addresses_chunks (element : Element) :
    element.chunks.flatMap Chunk.addresses = element.addresses := by
  rw [Element.addresses,
    List.map_range_eq_flatMap_pieces Descriptor.maxLength (by decide), Element.chunks,
    List.flatMap_map]
  simp only [Chunk.addresses, Nat.add_assoc]

namespace DmaEngine

/-- What an entry of a descriptor table says. -/
structure Entry where
  /-- The entry may be used. -/
  valid : Bool
  /-- The table ends with this entry. -/
  last : Bool
  /-- Reaching the entry raises an interrupt. -/
  interrupt : Bool
  /-- What to do with the entry. -/
  action : Nat
  /-- High bits of the length. -/
  lengthUpper : Nat
  /-- Low bits of the length. -/
  length : Nat
  /-- Bus address of the first byte. -/
  address : Nat
  deriving DecidableEq, Repr

namespace Entry

/-- The entry with the attributes and the length of a descriptor and with a given address. -/
def ofDescriptor (descriptor : Descriptor) (address : Nat) : Entry where
  valid := Descriptor.valid.test descriptor
  last := Descriptor.last.test descriptor
  interrupt := Descriptor.interrupt.test descriptor
  action := Descriptor.action.get descriptor
  lengthUpper := Descriptor.lengthUpper.get descriptor
  length := Descriptor.length.get descriptor
  address

/-- What the bytes of an entry say: attributes and length in the first word, and the address in
the bytes after it. -/
def ofBytes (run : List Byte) : Entry :=
  ofDescriptor (BitVec.ofNat 64 (LittleEndian.value (run.take 4)))
    (LittleEndian.value (run.drop 4))

/-- The bytes that an entry has the engine move. A length of zero stands for 64 KiB. -/
def chunk (entry : Entry) : Chunk where
  address := entry.address
  length := if entry.length = 0 then 0x10000 else entry.length

/-- The entry that has a chunk moved, and that ends the table or not. -/
def moving (last : Bool) (chunk : Chunk) : Entry where
  valid := true
  last
  interrupt := false
  action := Descriptor.moveData
  lengthUpper := 0
  length := chunk.length % 0x10000
  address := chunk.address

end Entry

/-- The first entries of a table, which are `size` bytes long each. -/
def entries (size : Nat) : (count : Nat) → (table : List Byte) → List Entry
  | 0, _ => []
  | count + 1, table => Entry.ofBytes (table.take size) :: entries size count (table.drop size)

/-- What the engine moves when it follows a table: the chunks of all entries up to and including
the first that carries the end mark. It stops short where an entry is not to be used for moving
data, and where the table has no end. -/
def walk : List Entry → Option (List Chunk)
  | [] => none
  | entry :: rest =>
    if entry.valid && entry.action == Descriptor.moveData then
      if entry.last then some [entry.chunk]
      else (walk rest).map (entry.chunk :: ·)
    else none

/-- How many bytes the engine moves when it follows a table. -/
def total (entries : List Entry) : Option Nat :=
  (walk entries).map fun chunks => (chunks.flatMap Chunk.addresses).length

namespace Entry

theorem ofDescriptor_put_last (on : Bool) (descriptor : Descriptor) (address : Nat) :
    ofDescriptor (Descriptor.last.put on descriptor) address =
      { ofDescriptor descriptor address with last := on } := by
  rw [ofDescriptor, ofDescriptor, Field.test_put _ (by decide) rfl,
    Field.test_put_of_disjoint _ _ (by decide) rfl, Field.test_put_of_disjoint _ _ (by decide) rfl,
    Field.get_put_of_disjoint _ _ (by decide), Field.get_put_of_disjoint _ _ (by decide),
    Field.get_put_of_disjoint _ _ (by decide)]

theorem ofDescriptor_withByteLength (bytes : Nat) (descriptor : Descriptor) (address : Nat) :
    ofDescriptor (Descriptor.withByteLength bytes descriptor) address =
      { ofDescriptor descriptor address with lengthUpper := 0, length := bytes % 0x10000 } := by
  have hlength : Descriptor.length.get (Descriptor.withByteLength bytes descriptor) =
      bytes % 0x10000 := by
    rw [Descriptor.withByteLength, Field.get_set _ (by decide), BitVec.toNat_ofNat]
    rfl
  have hupper : Descriptor.lengthUpper.get (Descriptor.withByteLength bytes descriptor) = 0 := by
    rw [Descriptor.withByteLength, Field.get_set_of_disjoint _ _ (by decide),
      Field.get_set_of_lt _ (by decide) (by decide)]
  rw [ofDescriptor, hlength, hupper, Descriptor.withByteLength, ofDescriptor]
  -- the other fields are outside both parts of the length
  rw [Field.test_set_of_disjoint Descriptor.valid Descriptor.length (by decide) rfl,
    Field.test_set_of_disjoint Descriptor.valid Descriptor.lengthUpper (by decide) rfl,
    Field.test_set_of_disjoint Descriptor.last Descriptor.length (by decide) rfl,
    Field.test_set_of_disjoint Descriptor.last Descriptor.lengthUpper (by decide) rfl,
    Field.test_set_of_disjoint Descriptor.interrupt Descriptor.length (by decide) rfl,
    Field.test_set_of_disjoint Descriptor.interrupt Descriptor.lengthUpper (by decide) rfl,
    Field.get_set_of_disjoint Descriptor.action Descriptor.length (by decide),
    Field.get_set_of_disjoint Descriptor.action Descriptor.lengthUpper (by decide)]

theorem ofDescriptor_set_address (target : Nat) (descriptor : Descriptor) (address : Nat) :
    ofDescriptor (Descriptor.address.set target descriptor) address =
      ofDescriptor descriptor address := by
  rw [ofDescriptor, ofDescriptor, Field.test_set_of_disjoint _ _ (by decide) rfl,
    Field.test_set_of_disjoint _ _ (by decide) rfl, Field.test_set_of_disjoint _ _ (by decide) rfl,
    Field.get_set_of_disjoint _ _ (by decide), Field.get_set_of_disjoint _ _ (by decide),
    Field.get_set_of_disjoint _ _ (by decide)]

theorem ofDescriptor_transfer (target : Word) (bytes address : Nat) :
    ofDescriptor (Descriptor.transfer target bytes) address =
      moving false { address, length := bytes } := by
  rw [Descriptor.transfer, ofDescriptor_withByteLength, ofDescriptor_set_address]
  rfl

/-- All that an entry has from its descriptor lies in the low word. -/
theorem ofDescriptor_truncate (descriptor : Descriptor) (address : Nat) :
    ofDescriptor (BitVec.ofNat 64 (descriptor.toNat % 2 ^ 32)) address =
      ofDescriptor descriptor address := by
  rw [ofDescriptor, ofDescriptor, Field.test_truncate _ (by decide),
    Field.test_truncate _ (by decide), Field.test_truncate _ (by decide),
    Field.get_truncate _ (by decide), Field.get_truncate _ (by decide),
    Field.get_truncate _ (by decide)]

/-- The word in front gives the attributes and the length, whatever address follows. -/
theorem ofBytes_append (descriptor : Descriptor) (run : List Byte) :
    ofBytes (LittleEndian.bytes 4 descriptor.toNat ++ run) =
      ofDescriptor descriptor (LittleEndian.value run) := by
  have hlen : (LittleEndian.bytes 4 descriptor.toNat).length = 4 := LittleEndian.length_bytes _ _
  have htake : (LittleEndian.bytes 4 descriptor.toNat ++ run).take 4 =
      LittleEndian.bytes 4 descriptor.toNat := List.take_left' hlen
  have hdrop : (LittleEndian.bytes 4 descriptor.toNat ++ run).drop 4 = run :=
    List.drop_left' hlen
  -- four bytes hold the low word only, in which all but the address lies
  have hvalue : LittleEndian.value (LittleEndian.bytes 4 descriptor.toNat) =
      descriptor.toNat % 2 ^ 32 := by
    rw [LittleEndian.value_bytes, BitVec.toNat_ofNat]
  rw [ofBytes, htake, hdrop, hvalue, ofDescriptor_truncate]

/-- The entry that a descriptor with an address of one word is. -/
def ofWord (descriptor : Descriptor) : Entry :=
  ofDescriptor descriptor (Descriptor.address.get descriptor)

theorem ofBytes_toBytes (descriptor : Descriptor) :
    ofBytes (Descriptor.toBytes descriptor) = ofWord descriptor := by
  have hhigh : descriptor.toNat / 256 ^ 4 < 256 ^ 4 := by
    have := descriptor.isLt
    omega
  -- the address is all that is above the low word
  have haddress : Descriptor.address.get descriptor = descriptor.toNat / 256 ^ 4 := by
    rw [Field.get, BitVec.extractLsb'_toNat, Nat.shiftRight_eq_div_pow]
    exact Nat.mod_eq_of_lt hhigh
  rw [Descriptor.toBytes, show Descriptor.size32 = 4 + 4 from rfl, LittleEndian.bytes_add,
    ofBytes_append, LittleEndian.value_bytes_of_lt hhigh, ofWord, haddress]

theorem ofWord_transfer (target : Word) (bytes : Nat) :
    ofWord (Descriptor.transfer target bytes) =
      moving false { address := target.toNat, length := bytes } := by
  have haddress : Descriptor.address.get (Descriptor.transfer target bytes) = target.toNat := by
    rw [Descriptor.transfer, Descriptor.withByteLength, Field.get_set_of_disjoint _ _ (by decide),
      Field.get_set_of_disjoint _ _ (by decide), Field.get_set_of_lt _ (by decide) target.isLt]
  rw [ofWord, haddress, ofDescriptor_transfer]

theorem ofWord_put_last {descriptor : Descriptor} {last : Bool} {chunk : Chunk}
    (h : ofWord descriptor = moving last chunk) (on : Bool) :
    ofWord (Descriptor.last.put on descriptor) = moving on chunk := by
  rw [ofWord, Field.get_put_of_disjoint _ _ (by decide), ofDescriptor_put_last]
  exact congrArg (fun entry : Entry => { entry with last := on }) h

theorem ofWord_withByteLength {descriptor : Descriptor} {last : Bool} {chunk : Chunk}
    (h : ofWord descriptor = moving last chunk) (bytes : Nat) :
    ofWord (Descriptor.withByteLength bytes descriptor) =
      moving last { chunk with length := bytes } := by
  have haddress : Descriptor.address.get (Descriptor.withByteLength bytes descriptor) =
      Descriptor.address.get descriptor := by
    rw [Descriptor.withByteLength, Field.get_set_of_disjoint _ _ (by decide),
      Field.get_set_of_disjoint _ _ (by decide)]
  rw [ofWord, haddress, ofDescriptor_withByteLength]
  exact congrArg (fun entry : Entry =>
    { entry with lengthUpper := 0, length := bytes % 0x10000 }) h

/-- The entry for a chunk has that chunk moved, if its length is one that an entry can express. -/
theorem chunk_moving {chunk : Chunk} (last : Bool) (hpos : 0 < chunk.length)
    (hmax : chunk.length ≤ Descriptor.maxLength) : (moving last chunk).chunk = chunk := by
  unfold Descriptor.maxLength at hmax
  -- the greatest length is the one that is expressed as zero
  have hlength : (if chunk.length % 0x10000 = 0 then 0x10000 else chunk.length % 0x10000) =
      chunk.length := by
    split <;> omega
  exact congrArg (Chunk.mk chunk.address) hlength

end Entry

theorem entries_flatMap {α : Type} {size : Nat} {encode : α → List Byte} (items : List α)
    (hsize : ∀ item ∈ items, (encode item).length = size) (rest : List Byte) :
    entries size items.length (items.flatMap encode ++ rest) =
      items.map fun item => Entry.ofBytes (encode item) := by
  induction items with
  | nil => rfl
  | cons item items ih =>
    have hitem := hsize item List.mem_cons_self
    have hitems := ih fun other hother => hsize other (List.mem_cons_of_mem _ hother)
    rw [List.length_cons, entries, List.flatMap_cons, List.append_assoc, List.take_left' hitem,
      List.drop_left' hitem, hitems, List.map_cons]

/-- The first entries of a table do not depend on how many are read after them. -/
theorem entries_add (size m n : Nat) (table : List Byte) :
    entries size (m + n) table = entries size m table ++ entries size n (table.drop (size * m)) := by
  -- induction on the entries in front, which are taken off the table one by one
  induction m generalizing table with
  | zero => simp [entries]
  | succ m ih =>
    rw [Nat.succ_add, entries, entries, ih, List.cons_append, List.drop_drop, Nat.mul_succ,
      Nat.add_comm size]

/-- The engine follows a table up to the entry that carries the end mark. -/
theorem walk_append_last {front : List Chunk} {final : Chunk} (rest : List Entry)
    (hlength : ∀ chunk ∈ front ++ [final],
      0 < chunk.length ∧ chunk.length ≤ Descriptor.maxLength) :
    walk (front.map (Entry.moving false) ++ Entry.moving true final :: rest) =
      some (front ++ [final]) := by
  induction front with
  | nil =>
    -- the engine stops here, whatever comes after the entry
    obtain ⟨hpos, hmax⟩ := hlength final (by simp)
    simp [walk, Entry.chunk_moving true hpos hmax]
    simp [Entry.moving]
  | cons chunk front ih =>
    obtain ⟨hpos, hmax⟩ := hlength chunk (by simp)
    have hrest := ih fun other hother => hlength other (List.mem_cons_of_mem _ hother)
    rw [List.map_cons, List.cons_append, walk, hrest, Entry.chunk_moving false hpos hmax]
    simp [Entry.moving]

end DmaEngine

end SdHost
