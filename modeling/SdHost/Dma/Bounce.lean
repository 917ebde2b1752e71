import SdHost.Dma.Descriptor

/-!
# Bounce pages

Where the controller cannot reach a caller's buffer, data takes a detour through pages that it
can reach. The pages keep a descriptor each, set up once. A transfer of a given length is
prepared by moving the mark that ends the table and by shortening the descriptor that carries it.

## Modelled functions

* `BouncePages.new`, `BouncePages.prepare`, `BouncePages.tableAddress`: `new`, `prepare` and
  `table_address` of the bounce pages.
-/

namespace SdHost

/-- Size of a bounce page, and the length of the descriptor of a page that is used in full. -/
def pageSize : Nat := 4096

/-- Memory for bounced transfers, as an allocator hands it out. Addresses are those of the
processor's bus; the controller may see the same memory at an offset. -/
structure BounceBuffer where
  /-- The data pages, one after the other. -/
  data : Memory
  /-- Bus address of a data page. -/
  pageAddress : Nat → Word
  /-- Room for descriptors. -/
  descriptors : Array Descriptor
  /-- Bus address of the first descriptor. -/
  descriptorAddress : Word
  /-- Number that the allocator knows the memory by. -/
  handle : Nat

/-- A bounce buffer with a descriptor for every page. -/
structure BouncePages where
  /-- The memory in use. -/
  buffer : BounceBuffer
  /-- The most bytes that one transfer can move. -/
  capacity : Nat
  /-- Index of the descriptor that ends the table. -/
  endIndex : Nat
  /-- Offset between the processor's addresses and the controller's. -/
  busOffset : Word

namespace BouncePages

/-- Point one descriptor at each of the `count` pages from `page` on. Where an address cannot be
told in a word, the descriptors come back as far as they were written. -/
def describePages (pageAddress : Nat → Word) (busOffset : Word) :
    (count page : Nat) → Array Descriptor → Except (Array Descriptor) (Array Descriptor)
  | 0, _, descriptors => .ok descriptors
  | count + 1, page, descriptors =>
    match (pageAddress page).checkedAdd busOffset with
    | none => .error descriptors
    | some address =>
      describePages pageAddress busOffset count (page + 1)
        (descriptors.setIfInBounds page (Descriptor.transfer address pageSize))

/-- Take a buffer into use, with the end mark on the first descriptor.

The buffer is handed back if it has no whole page, fewer descriptors than pages, or an address
that the controller would have to know by more than a word. -/
def new (buffer : BounceBuffer) (busOffset : Word) : Except BounceBuffer BouncePages :=
  let pages := buffer.data.size / pageSize
  if pages = 0 ∨ buffer.descriptors.size < pages then
    .error buffer
  else
    match buffer.descriptorAddress.checkedAdd busOffset with
    | none => .error buffer
    | some _ =>
      match describePages buffer.pageAddress busOffset pages 0 buffer.descriptors with
      | .error descriptors => .error { buffer with descriptors }
      | .ok descriptors =>
        -- A table always has an end, even before the first transfer.
        .ok { buffer := { buffer with
                descriptors := descriptors.modify 0 (Descriptor.last.put true) }
              capacity := pages * pageSize
              endIndex := 0
              busOffset }

/-- Move the end mark so that the table covers exactly `length` bytes. -/
def prepare (pages : BouncePages) (length : Nat) : Except Fault BouncePages :=
  if 0 < length ∧ length ≤ pages.capacity then
    let endIndex := (length - 1) / pageSize
    let tail := length - endIndex * pageSize
    -- The descriptor that ended the table so far covers its whole page again.
    let restored := pages.buffer.descriptors.modify pages.endIndex fun descriptor =>
      Descriptor.withByteLength pageSize (Descriptor.last.put false descriptor)
    -- It may be the same descriptor that ends the table now.
    let moved := restored.modify endIndex fun descriptor =>
      Descriptor.withByteLength tail (Descriptor.last.put true descriptor)
    .ok { pages with buffer := { pages.buffer with descriptors := moved }, endIndex }
  else
    .error .badLength

/-- The address at which the controller finds the table. -/
def tableAddress (pages : BouncePages) : Word :=
  pages.buffer.descriptorAddress + pages.busOffset

/-- Put bytes at the start of the data pages. -/
def fill (pages : BouncePages) (source : Memory) : BouncePages :=
  { pages with
    buffer := { pages.buffer with data := Memory.store pages.buffer.data 0 source.toList } }

end BouncePages

end SdHost
