import SdHost.Proofs.Dma.Table

/-!
# Tables that are refused

A table can be refused for want of room or because a chunk begins too high for a narrow entry. The two can
happen at different chunks of different elements, and the first chunk in the order of the list decides.
What is in front of it was written, and what comes after it is as it was.

The module introduces:

* `DescriptorTable.refusal?`: why the entry of a chunk cannot be written, if it cannot;
* `DescriptorTable.FirstRefused`: the first chunk of a list whose entry cannot be written;
* `DescriptorTable.LeftBehind`: what the memory holds after that.

Main statement: `DescriptorTable.refused_at_first_chunk`.
-/

namespace SdHost.DescriptorTable

/-- Why the entry of a chunk cannot be written as the one with a given number, if it cannot. An entry has
to fit in the memory, and if it has one word for the address, the chunk has to begin below 4 GiB. -/
def refusal? (wide : Bool) (size number : Nat) (chunk : Chunk) : Option Error :=
  if size < entrySize wide * (number + 1) then some .insufficientResources
  else if wide = false ∧ 0x100000000 ≤ chunk.address then some .notSupported
  else none

/-- A chunk is the first of a list whose entry cannot be written, and this is why. -/
structure FirstRefused (wide : Bool) (size : Nat) (chunks front : List Chunk) (chunk : Chunk)
    (cause : Error) : Prop where
  /-- The chunk comes after those in front. -/
  chunks_eq : ∃ rest, chunks = front ++ chunk :: rest
  /-- The entries of those in front can be written. -/
  front_eq : ∀ (number : Nat) (h : number < front.length),
    refusal? wide size number front[number] = none
  /-- The entry of the chunk cannot. -/
  refusal_eq : refusal? wide size front.length chunk = some cause

/-- What the memory holds once the chunk after those in front was refused. -/
structure LeftBehind (wide : Bool) (memory : Memory) (front : List Chunk) (chunk : Chunk)
    (cause : Error) (table : Memory) : Prop where
  /-- No byte was added or taken away. -/
  size_eq : table.size = memory.size
  /-- The entries in front mean what they should, and none of them ends the table. -/
  entries_eq : DmaEngine.entries (entrySize wide) front.length table.toList =
    front.map (.moving false)
  /-- After them, nothing was written but the attributes of a chunk that begins too high. -/
  untouched : ∀ i, entrySize wide * front.length ≤ i →
    (cause = .notSupported → entrySize wide * front.length + 4 ≤ i) → table[i]? = memory[i]?
  /-- These attributes are those of the chunk. -/
  attributes_eq : cause = .notSupported →
    (table.toList.drop (entrySize wide * front.length)).take 4 = attributes chunk

variable {wide : Bool} {chunks front : List Chunk} {chunk : Chunk} {size number stop : Nat}
  {memory memory' : Memory}

theorem refusal?_eq_none_iff : refusal? wide size number chunk = none ↔
    entrySize wide * (number + 1) ≤ size ∧ (wide = false → chunk.address < 0x100000000) := by
  unfold refusal?
  split_ifs <;> grind

/-- All entries can be written if there is room for them and no chunk begins too high. -/
theorem forall_refusal?_eq_none_iff :
    (∀ (number : Nat) (h : number < chunks.length),
      refusal? wide size number chunks[number] = none) ↔
    (chunks ≠ [] → entrySize wide * chunks.length ≤ size) ∧
      (wide = false → ∀ chunk ∈ chunks, chunk.address < 0x100000000) := by
  simp only [refusal?_eq_none_iff, List.forall_mem_iff_getElem]
  constructor
  · intro h
    refine ⟨fun hne => ?_, fun hwide number hnumber => (h number hnumber).2 hwide⟩
    -- the last entry reaches as far as all of them
    have hpos := List.length_pos_iff.mpr hne
    have hlast := (h (chunks.length - 1) (by omega)).1
    rwa [Nat.sub_add_cancel hpos] at hlast
  · rintro ⟨hroom, hlow⟩ number hnumber
    have hne : chunks ≠ [] := List.length_pos_iff.mp (Nat.zero_lt_of_lt hnumber)
    refine ⟨?_, fun hwide => hlow hwide number hnumber⟩
    exact (Nat.mul_le_mul_left _ hnumber).trans (hroom hne)

/-- The entries of chunks that were passed can be written. -/
theorem Passed.refusal?_eq_none (h : Passed wide front 0 memory stop memory') (number : Nat)
    (hnumber : number < front.length) : refusal? wide memory.size number front[number] = none := by
  refine forall_refusal?_eq_none_iff.mpr ⟨fun hne => ?_, ?_⟩ number hnumber
  · have hroom := h.stop_le hne
    rwa [h.stop_eq, Nat.zero_add] at hroom
  · rintro rfl chunk hmem
    exact h.address_lt chunk hmem

/-- What the engine reads of chunks that were passed, whatever is written after them. -/
theorem Passed.entries_store (h : Passed wide front 0 memory stop memory') (run : List Byte)
    (hroom : stop + run.length ≤ memory.size) :
    DmaEngine.entries (entrySize wide) front.length (Memory.store memory' stop run).toList =
      front.map (.moving false) := by
  have hlength := length_flatMap_entryBytes wide front
  have hstop : stop = (front.flatMap (entryBytes wide)).length := by
    rw [h.stop_eq, hlength, Nat.zero_add]
  have hstored : Memory.store memory' stop run =
      Memory.store memory 0 (front.flatMap (entryBytes wide) ++ run) := by
    rw [Memory.store_append, h.memory_eq, hstop, Nat.zero_add]
  rw [hstored, Memory.toList_store_zero (by rw [List.length_append]; omega), List.append_assoc,
    DmaEngine.entries_flatMap front fun chunk _ => length_entryBytes wide chunk]
  exact List.map_congr_left fun chunk hmem => ofBytes_entryBytes (h.address_lt chunk hmem)

/-- If the entry of a chunk cannot be written, not all entries can. -/
theorem FirstRefused.not_forall {cause : Error} (h : FirstRefused wide size chunks front chunk cause) :
    ¬ ∀ (number : Nat) (h : number < chunks.length),
      refusal? wide size number chunks[number] = none := by
  obtain ⟨rest, rfl⟩ := h.chunks_eq
  intro hall
  have hchunk := hall front.length (by simp)
  rw [List.getElem_append_right (Nat.le_refl _)] at hchunk
  simp [h.refusal_eq] at hchunk

/-- Where there is no room, nothing is written after the entries in front. -/
theorem Passed.leftBehind_full (h : Passed wide front 0 memory stop memory') :
    LeftBehind wide memory front chunk .insufficientResources memory' where
  size_eq := h.size_eq
  entries_eq := h.entries_store [] h.stop_le_size
  untouched i hi _ := by
    have hlength := length_flatMap_entryBytes wide front
    rw [h.memory_eq, Memory.getElem?_store, if_neg]
    omega
  attributes_eq hcause := by cases hcause

/-- Where a chunk begins too high, its attributes are. -/
theorem Passed.leftBehind_high (h : Passed wide front 0 memory stop memory')
    (hroom : stop + entrySize wide ≤ memory.size) :
    LeftBehind wide memory front chunk .notSupported
      (Memory.store memory' stop (attributes chunk)) := by
  have hattributes := length_attributes chunk
  have hentry : 4 ≤ entrySize wide := by cases wide <;> decide
  have hstop : entrySize wide * front.length = stop := by rw [h.stop_eq, Nat.zero_add]
  have hsize : stop + (attributes chunk).length ≤ memory'.size := by
    rw [h.size_eq]
    omega
  refine
    { size_eq := by rw [Memory.size_store, h.size_eq]
      entries_eq := h.entries_store _ (by omega)
      untouched := fun i hi hafter => ?_
      attributes_eq := fun _ => ?_ }
  · have hlength := length_flatMap_entryBytes wide front
    have hi' := hafter rfl
    -- the byte is past the attributes, and past the entries before them
    rw [Memory.getElem?_store, if_neg (by omega), h.memory_eq, Memory.getElem?_store,
      if_neg (by omega)]
  · have htake : (memory'.toList.take stop).length = stop := by
      rw [List.length_take, Array.length_toList]
      omega
    rw [hstop, Memory.toList_store _ _ _ hsize, List.append_assoc, List.drop_left' htake,
      List.take_left' hattributes]

/-- **Tables that are refused.** Take any list of runs that are not empty and, if entries have wide
addresses, end below the end of the address space. The driver is not stopped. The table is built exactly
if there is room for the entries of all chunks, and no chunk begins too high for a narrow entry. Otherwise
the first chunk whose entry cannot be written tells why. What is in front of it was written without an end
mark, and of what comes after nothing was but the attributes of a chunk that begins too high. -/
theorem refused_at_first_chunk {elements : List Element} (hne : elements ≠ [])
    (hlengths : ∀ element ∈ elements, element.length ≠ 0) (wide : Bool)
    (hends : wide = true → ∀ element ∈ elements,
      element.address.toNat + element.length.toNat < 0x10000000000000000)
    (memory : Memory) :
    let chunks := elements.flatMap Element.chunks
    ∃ result table, build elements wide memory = .ok (result, table) ∧
      ((∃ info, result = .ok info) ↔
        entrySize wide *
            (elements.map fun element => (element.length.toNat + 0xFFFF) / 0x10000).sum ≤
          memory.size ∧
        (wide = false → ∀ chunk ∈ chunks, chunk.address < 0x100000000)) ∧
      ∀ cause, result = .error cause →
        ∃ front chunk, FirstRefused wide memory.size chunks front chunk cause ∧
          LeftBehind wide memory front chunk cause table := by
  intro chunks
  have hchunks : chunks ≠ [] := flatMap_chunks_ne_nil hne hlengths
  -- the entries of all chunks can be written exactly if there is room and no chunk begins too high
  have hall : (∀ (number : Nat) (h : number < chunks.length),
      refusal? wide memory.size number chunks[number] = none) ↔
        entrySize wide *
            (elements.map fun element => (element.length.toNat + 0xFFFF) / 0x10000).sum ≤
          memory.size ∧
        (wide = false → ∀ chunk ∈ chunks, chunk.address < 0x100000000) := by
    rw [forall_refusal?_eq_none_iff, ← length_flatMap_chunks elements]
    simp only [ne_eq, hchunks, not_false_eq_true, forall_const, chunks]
  have hcourse := course_writeChunks wide chunks 0 memory
  rw [build_eq wide hne hlengths, ← hall]
  generalize writeChunks wide chunks 0 memory = outcome at hcourse ⊢
  cases hcourse with
  | written hpassed =>
    refine ⟨_, _, rfl, iff_of_true ⟨_, rfl⟩ fun number hnumber => ?_, by rintro cause ⟨⟩⟩
    exact hpassed.refusal?_eq_none number hnumber
  | @full front rest chunk _ _ hsplit hfront hroom =>
    rw [hfront.stop_add] at hroom
    have hfirst : FirstRefused wide memory.size chunks front chunk .insufficientResources :=
      ⟨⟨rest, hsplit⟩, hfront.refusal?_eq_none, if_pos hroom⟩
    refine ⟨_, _, rfl, iff_of_false (by simp) hfirst.not_forall, ?_⟩
    rintro cause ⟨⟩
    exact ⟨front, chunk, hfirst, hfront.leftBehind_full⟩
  | @high front rest chunk _ _ hsplit hfront hroom hwide hhigh =>
    have hroom' := hroom
    rw [hfront.stop_add] at hroom'
    have hfirst : FirstRefused wide memory.size chunks front chunk .notSupported := by
      refine ⟨⟨rest, hsplit⟩, hfront.refusal?_eq_none, ?_⟩
      rw [refusal?, if_neg (Nat.not_lt.mpr hroom'), if_pos ⟨hwide, hhigh⟩]
    refine ⟨_, _, rfl, iff_of_false (by simp) hfirst.not_forall, ?_⟩
    rintro cause ⟨⟩
    exact ⟨front, chunk, hfirst, hfront.leftBehind_high hroom⟩
  | @past front rest chunk _ _ hsplit hfront hroom hlow hend =>
    -- no chunk of these elements gets that far
    have hchunk : chunk ∈ chunks := by simp [hsplit]
    obtain ⟨element, helement, hmem⟩ := List.mem_flatMap.mp hchunk
    have hlast := Element.end_le_of_mem_chunks hmem
    have hlength := (Element.length_of_mem_chunks hmem).2
    unfold Descriptor.maxLength at hlength
    cases wide with
    | true =>
      have helementEnd := hends rfl element helement
      omega
    | false =>
      have hstart := hlow rfl
      omega

namespace Refused

/-- A run of two chunks, and one that begins where narrow addresses end. -/
def elements : List Element :=
  [⟨0x1000, 0x18000⟩, ⟨0x100000000, 512⟩]

end Refused

/-- The second run is refused, in a table with room to spare. -/
theorem refused_at_first_chunk_second_element :
    Refused.elements ≠ [] ∧ (∀ element ∈ Refused.elements, element.length ≠ 0) ∧
      ∃ front chunk table,
        build Refused.elements false (Memory.zeroed 32) = .ok (.error .notSupported, table) ∧
        FirstRefused false 32 (Refused.elements.flatMap Element.chunks) front chunk .notSupported ∧
        LeftBehind false (Memory.zeroed 32) front chunk .notSupported table := by
  have hne : Refused.elements ≠ [] := by decide
  have hlengths : ∀ element ∈ Refused.elements, element.length ≠ 0 := by decide
  obtain ⟨table, hbuilt⟩ : ∃ table,
      build Refused.elements false (Memory.zeroed 32) = .ok (.error .notSupported, table) :=
    ⟨_, rfl⟩
  obtain ⟨result, table', hbuild, -, hrefused⟩ :=
    refused_at_first_chunk hne hlengths false (by simp) (Memory.zeroed 32)
  rw [hbuilt] at hbuild
  cases hbuild
  obtain ⟨front, chunk, hfirst, hleft⟩ := hrefused _ rfl
  exact ⟨hne, hlengths, front, chunk, table, hbuilt, hfirst, hleft⟩

end SdHost.DescriptorTable
