import SdHost.Dma.Descriptor

/-!
# Descriptor tables

A scatter/gather list names the runs of memory that make up a data buffer. The table for it has a
descriptor for each chunk of at most 64 KiB of each run, in order, and the last descriptor ends
the table. An entry holds its address in one word or in two.

The table is written entry by entry into memory that the caller provides, and a failure leaves
what was written before it.

## Modelled functions

* `DescriptorTable.build`: `build_descriptor_table`.
-/

namespace SdHost

/-- A physically contiguous run of bytes. -/
structure Element where
  /-- Bus address of the first byte. -/
  address : DoubleWord
  /-- Number of bytes. -/
  length : Word
  deriving DecidableEq, Repr

/-- Number of bytes in some runs together. -/
def Element.total : List Element → Nat
  | [] => 0
  | element :: rest => element.length.toNat + Element.total rest

/-- A part of a run that one descriptor can move. -/
structure Chunk where
  /-- Bus address of the first byte. -/
  address : Nat
  /-- Number of bytes. -/
  length : Nat
  deriving DecidableEq, Repr

/-- The chunks of a run, in order: all of them as long as a descriptor allows, but for the
last. -/
def Element.chunks (element : Element) : List Chunk :=
  (List.range ((element.length.toNat + (Descriptor.maxLength - 1)) / Descriptor.maxLength)).map
    fun i =>
      { address := element.address.toNat + Descriptor.maxLength * i
        length := min Descriptor.maxLength (element.length.toNat - Descriptor.maxLength * i) }

namespace DescriptorTable

/-- The most runs that one request may be made of. -/
def maxElements : Nat := 257

/-- What a finished table holds. -/
structure Info where
  /-- Number of descriptors. -/
  descriptors : Nat
  /-- Number of bytes they move together. -/
  totalLength : Nat
  deriving DecidableEq, Repr

/-- Bytes in an entry with an address of one word, or of two. -/
def entrySize (wide : Bool) : Nat :=
  if wide then Descriptor.size64 else Descriptor.size32

/-- The word with attributes and length that starts the entry of a chunk. -/
def attributes (chunk : Chunk) : List Byte :=
  LittleEndian.bytes 4 (Descriptor.transfer 0 chunk.length).toNat

/-- Write the entries of some chunks from `offset` on, and tell where the next entry goes.

An entry that does not fit is not begun. An address that needs two words where there is one is
noticed once the attributes are written. A chunk may not reach the end of the address space, for
the address after it has to be a number of 64 bits. -/
def writeChunks (wide : Bool) :
    List Chunk → (offset : Nat) → Memory → Except Fault (Except Error Nat × Memory)
  | [], offset, memory => .ok (.ok offset, memory)
  | chunk :: rest, offset, memory =>
    if memory.size < offset + entrySize wide then
      .ok (.error .insufficientResources, memory)
    else
      -- The attributes are written before the address is looked at.
      let memory := Memory.store memory offset (attributes chunk)
      if !wide && decide (0x100000000 ≤ chunk.address) then
        .ok (.error .notSupported, memory)
      else
        let memory :=
          Memory.store memory (offset + 4) (LittleEndian.bytes (entrySize wide - 4) chunk.address)
        -- The address of the next chunk is computed even after the last one.
        if 0x10000000000000000 ≤ chunk.address + chunk.length then
          .error .overflow
        else
          writeChunks wide rest (offset + entrySize wide) memory

/-- Write the entries of some elements from `offset` on, and tell where the next entry goes. -/
def writeElements (wide : Bool) :
    List Element → (offset : Nat) → Memory → Except Fault (Except Error Nat × Memory)
  | [], offset, memory => .ok (.ok offset, memory)
  | element :: rest, offset, memory =>
    if element.length = 0 then
      .error .emptyElement
    else
      match writeChunks wide element.chunks offset memory with
      | .error cause => .error cause
      | .ok (.error cause, memory) => .ok (.error cause, memory)
      | .ok (.ok offset, memory) => writeElements wide rest offset memory

/-- Mark the entry at `offset` as the end of the table. -/
def markLast (offset : Nat) (memory : Memory) : Memory :=
  let descriptor : Descriptor := BitVec.ofNat 64 (Memory.load memory offset 4)
  Memory.store memory offset (LittleEndian.bytes 4 (Descriptor.last.put true descriptor).toNat)

/-- Build the table of a scatter/gather list in the given memory. The memory comes back as the
builder left it, also if it failed. -/
def build (elements : List Element) (wide : Bool) (memory : Memory) :
    Except Fault (Except Error Info × Memory) :=
  if elements.isEmpty then
    .error .noElements
  else
    match writeElements wide elements 0 memory with
    | .error cause => .error cause
    | .ok (.error cause, memory) => .ok (.error cause, memory)
    | .ok (.ok stop, memory) =>
      let info : Info :=
        { descriptors := stop / entrySize wide
          totalLength := Element.total elements }
      -- The mark is put by reading back the attributes of the last entry.
      .ok (.ok info, markLast (stop - entrySize wide) memory)

end DescriptorTable

end SdHost
