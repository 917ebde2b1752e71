import SdHost.Proofs.Dma.Table

/-!
# The arithmetic of the table builder

The builder keeps an address, an offset and two counts in machine words, and it writes to parts of the
memory that it cuts out before. A sum without room, a part that does not lie within the memory, or a
length that no descriptor can express would stop the driver. Here the loop over a run is written down with
each of these steps checked. It comes to what the chunks come to, and one of its sums is not safe: the
address after a run that ends with the address space has no room in a word.

The module introduces:

* `DescriptorTable.sum64`, `difference`, `storePart`: steps that tell when they would stop the driver;
* `DescriptorTable.buildInWords`: the builder with each step checked;
* `DescriptorTable.Tally.Sound`: the numbers that it keeps are in line with each other.

Main statement: `DescriptorTable.stops_iff_past_end`, where the builder stops the driver.
-/

namespace SdHost

/-- The chunks of a run of any length at any address. -/
def Chunk.cut (address length : Nat) : List Chunk :=
  (List.range ((length + (Descriptor.maxLength - 1)) / Descriptor.maxLength)).map fun i =>
    { address := address + Descriptor.maxLength * i
      length := min Descriptor.maxLength (length - Descriptor.maxLength * i) }

theorem Chunk.length_cut (address length : Nat) :
    (Chunk.cut address length).length =
      (length + (Descriptor.maxLength - 1)) / Descriptor.maxLength := by
  rw [Chunk.cut, List.length_map, List.length_range]

/-- There are as many chunks as are needed. -/
theorem Chunk.le_length_cut (address length : Nat) :
    length ≤ Descriptor.maxLength * (Chunk.cut address length).length := by
  rw [Chunk.length_cut]
  unfold Descriptor.maxLength
  omega

theorem Chunk.cut_zero (address : Nat) : Chunk.cut address 0 = [] :=
  List.length_eq_zero_iff.mp (Chunk.length_cut address 0)

/-- The first chunk is taken off a run, and the rest of the run is cut in the same way. -/
theorem Chunk.cut_of_pos (address : Nat) {length : Nat} (hpos : 0 < length) :
    Chunk.cut address length =
      ⟨address, min length Descriptor.maxLength⟩ ::
        Chunk.cut (address + min length Descriptor.maxLength)
          (length - min length Descriptor.maxLength) := by
  have hcount : (length + (Descriptor.maxLength - 1)) / Descriptor.maxLength =
      (length - min length Descriptor.maxLength + (Descriptor.maxLength - 1)) /
        Descriptor.maxLength + 1 := by
    unfold Descriptor.maxLength
    omega
  rw [Chunk.cut, hcount, List.range_succ_eq_map, List.map_cons, List.map_map, Chunk.cut]
  refine List.cons_eq_cons.mpr ⟨?_, List.map_congr_left fun i hi => ?_⟩
  · simp [Nat.min_comm]
  · -- there are chunks after the first only if it is as long as a chunk can be
    have hi' := List.mem_range.mp hi
    have hfull : min length Descriptor.maxLength = Descriptor.maxLength := by
      unfold Descriptor.maxLength at hi' ⊢
      omega
    simp only [Function.comp_apply, hfull, Nat.succ_eq_add_one, Nat.mul_succ, Chunk.mk.injEq]
    omega

/-- One of the chunks of a run ends where the run ends. -/
theorem Element.exists_mem_chunks_end {element : Element} (h : element.length ≠ 0) :
    ∃ chunk ∈ element.chunks,
      chunk.address + chunk.length = element.address.toNat + element.length.toNat := by
  have hpos : 0 < element.length.toNat := by
    rw [Nat.pos_iff_ne_zero]
    exact fun hzero => h (BitVec.eq_of_toNat_eq hzero)
  refine ⟨_, List.mem_map.mpr ⟨(element.length.toNat - 1) / Descriptor.maxLength, ?_, rfl⟩, ?_⟩
  · rw [List.mem_range]
    unfold Descriptor.maxLength
    omega
  · show element.address.toNat + Descriptor.maxLength * ((element.length.toNat - 1) / Descriptor.maxLength) +
      min Descriptor.maxLength (element.length.toNat -
        Descriptor.maxLength * ((element.length.toNat - 1) / Descriptor.maxLength)) = _
    unfold Descriptor.maxLength
    omega

namespace DescriptorTable

/-! ## Checked steps -/

/-- A sum, unless a word of 64 bits has no room for it. -/
def sum64 (a b : Nat) : Except Fault Nat :=
  if a + b < 0x10000000000000000 then .ok (a + b) else .error .overflow

/-- What is left of a number when another is taken away, unless it is less than that. -/
def difference (a b : Nat) : Except Fault { left : Nat // left + b = a } :=
  if h : b ≤ a then .ok ⟨a - b, Nat.sub_add_cancel h⟩ else .error .overflow

/-- Write to a part of the entry at `offset`, within which the part has to lie. -/
def storePart (wide : Bool) (memory : Memory) (offset part : Nat) (run : List Byte) :
    Except Fault Memory :=
  if part + run.length ≤ entrySize wide then .ok (Memory.store memory (offset + part) run)
  else .error .outOfBounds

/-- How far the builder got. -/
structure Tally where
  /-- The memory of the table. -/
  memory : Memory
  /-- Where the next entry goes. -/
  offset : Nat
  /-- Number of entries written. -/
  descriptors : Nat
  /-- Number of bytes that they move together. -/
  totalLength : Nat

/-- Write the entries of a run of which so many bytes remain, from an address on. -/
def writeRun (wide : Bool) (address remaining : Nat) (tally : Tally) :
    Except Fault (Except (Error × Memory) Tally) :=
  if hpos : 0 < remaining then do
    let left ← difference remaining (min remaining Descriptor.maxLength)
    let stop ← sum64 tally.offset (entrySize wide)
    if tally.memory.size < stop then
      return .error (.insufficientResources, tally.memory)
    let descriptor ← Descriptor.transfer? 0 (min remaining Descriptor.maxLength)
    let memory ← storePart wide tally.memory tally.offset 0
      (LittleEndian.bytes 4 descriptor.toNat)
    if !wide && decide (0x100000000 ≤ address) then
      return .error (.notSupported, memory)
    let memory ← storePart wide memory tally.offset 4
      (LittleEndian.bytes (entrySize wide - 4) address)
    let next ← sum64 address (min remaining Descriptor.maxLength)
    let descriptors ← sum64 tally.descriptors 1
    let totalLength ← sum64 tally.totalLength (min remaining Descriptor.maxLength)
    writeRun wide next left { memory, offset := stop, descriptors, totalLength }
  else
    return .ok tally
termination_by remaining
decreasing_by
  have hleft := left.property
  unfold Descriptor.maxLength at hleft
  omega

/-- Write the entries of some runs. -/
def writeRuns (wide : Bool) : List Element → Tally → Except Fault (Except (Error × Memory) Tally)
  | [], tally => return .ok tally
  | element :: rest, tally =>
    if element.length = 0 then
      .error .emptyElement
    else do
      match ← writeRun wide element.address.toNat element.length.toNat tally with
      | .error failure => return .error failure
      | .ok tally => writeRuns wide rest tally

/-- Build a table, with each step checked. -/
def buildInWords (elements : List Element) (wide : Bool) (memory : Memory) :
    Except Fault (Except Error Info × Memory) :=
  if elements.isEmpty then
    .error .noElements
  else do
    match ← writeRuns wide elements { memory, offset := 0, descriptors := 0, totalLength := 0 } with
    | .error (cause, memory) => return (.error cause, memory)
    | .ok tally =>
      let last ← difference tally.offset (entrySize wide)
      if tally.memory.size < last + 4 then
        throw .outOfBounds
      return (.ok { descriptors := tally.descriptors, totalLength := tally.totalLength },
        markLast last tally.memory)

theorem sum64_of_lt {a b : Nat} (h : a + b < 0x10000000000000000) : sum64 a b = .ok (a + b) :=
  if_pos h

theorem difference_of_le {a b : Nat} (h : b ≤ a) :
    difference a b = .ok ⟨a - b, Nat.sub_add_cancel h⟩ :=
  dif_pos h

theorem storePart_of_le {wide : Bool} {part : Nat} {run : List Byte}
    (h : part + run.length ≤ entrySize wide) (memory : Memory) (offset : Nat) :
    storePart wide memory offset part run = .ok (Memory.store memory (offset + part) run) :=
  if_pos h

/-! ## Sound numbers -/

namespace Tally

/-- The numbers that the builder keeps are in line with each other, and the memory is not so large that
the sum of all lengths could have no room. -/
structure Sound (wide : Bool) (tally : Tally) : Prop where
  /-- The next entry goes after the entries that were written. -/
  offset_eq : tally.offset = entrySize wide * tally.descriptors
  /-- These lie within the memory. -/
  offset_le : tally.offset ≤ tally.memory.size
  /-- Each of them moves as much as a descriptor can at most. -/
  totalLength_le : tally.totalLength ≤ Descriptor.maxLength * tally.descriptors
  /-- The memory is smaller than 2 PiB. -/
  size_lt : tally.memory.size < 0x8000000000000

variable {wide : Bool} {tally : Tally}

theorem sound_start {memory : Memory} (h : memory.size < 0x8000000000000) :
    Sound wide { memory, offset := 0, descriptors := 0, totalLength := 0 } where
  offset_eq := rfl
  offset_le := Nat.zero_le _
  totalLength_le := Nat.zero_le _
  size_lt := h

/-- So they are after more entries, if these lie within the memory too. -/
theorem Sound.after (h : tally.Sound wide) {memory : Memory} {count bytes : Nat}
    (hsize : memory.size = tally.memory.size)
    (hroom : tally.offset + entrySize wide * count ≤ tally.memory.size)
    (hbytes : bytes ≤ Descriptor.maxLength * count) :
    Sound wide
      { memory
        offset := tally.offset + entrySize wide * count
        descriptors := tally.descriptors + count
        totalLength := tally.totalLength + bytes } where
  offset_eq := by rw [h.offset_eq, Nat.mul_add]
  offset_le := hsize ▸ hroom
  totalLength_le := by
    rw [Nat.mul_add]
    exact Nat.add_le_add h.totalLength_le hbytes
  size_lt := hsize ▸ h.size_lt

theorem Sound.next (h : tally.Sound wide) {memory : Memory} {bytes : Nat}
    (hsize : memory.size = tally.memory.size)
    (hroom : tally.offset + entrySize wide ≤ tally.memory.size)
    (hbytes : bytes ≤ Descriptor.maxLength) :
    Sound wide
      { memory
        offset := tally.offset + entrySize wide
        descriptors := tally.descriptors + 1
        totalLength := tally.totalLength + bytes } := by
  rw [← Nat.mul_one (entrySize wide)] at hroom ⊢
  exact h.after hsize hroom ((Nat.mul_one _).symm ▸ hbytes)

/-- As long as they are in line, there are far fewer entries than a word can count. -/
theorem Sound.descriptors_lt (h : tally.Sound wide) (hroom : tally.offset + entrySize wide ≤
    tally.memory.size) : tally.descriptors + 1 < 0x1000000000000 := by
  have hentry : 8 ≤ entrySize wide := by cases wide <;> decide
  have hoffset : 8 * tally.descriptors ≤ tally.offset := by
    rw [h.offset_eq]
    exact Nat.mul_le_mul_right _ hentry
  have hsize := h.size_lt
  omega

/-- What the tally comes to after some chunks, given what came of writing them. -/
def after (tally : Tally) (count bytes : Nat) :
    Except Error Nat × Memory → Except (Error × Memory) Tally
  | (.ok stop, memory) =>
    .ok
      { memory
        offset := stop
        descriptors := tally.descriptors + count
        totalLength := tally.totalLength + bytes }
  | (.error cause, memory) => .error (cause, memory)

/-- What more entries add comes on top of what one entry added. -/
theorem after_next (memory : Memory) (offset count : Nat) {length remaining : Nat}
    (h : length ≤ remaining) (outcome : Except Error Nat × Memory) :
    after
        { memory, offset
          descriptors := tally.descriptors + 1
          totalLength := tally.totalLength + length } count (remaining - length) outcome =
      tally.after (count + 1) remaining outcome := by
  obtain ⟨cause | stop, memory⟩ := outcome
  · rfl
  · simp only [after, Nat.add_assoc, Nat.add_sub_cancel' h, Nat.add_comm 1]

end Tally

/-- With numbers that are in line, the loop over a run comes to what its chunks come to. -/
theorem writeRun_eq {wide : Bool} {tally : Tally} (h : tally.Sound wide) (address remaining : Nat) :
    writeRun wide address remaining tally =
      (writeChunks wide (Chunk.cut address remaining) tally.offset tally.memory).map
        (tally.after (Chunk.cut address remaining).length remaining) := by
  -- induction on the bytes that remain, of which each turn takes at least one away
  induction remaining using Nat.strong_induction_on generalizing address tally with
  | _ remaining ih =>
  rcases Nat.eq_zero_or_pos remaining with rfl | hpos
  · rw [writeRun, dif_neg (Nat.lt_irrefl 0), Chunk.cut_zero]
    rfl
  obtain ⟨length, hlength⟩ : ∃ length, length = min remaining Descriptor.maxLength := ⟨_, rfl⟩
  have hlengthPos : 0 < length := by
    unfold Descriptor.maxLength at hlength
    omega
  have hlengthMax : length ≤ Descriptor.maxLength := hlength ▸ Nat.min_le_right _ _
  have hlengthLe : length ≤ remaining := hlength ▸ Nat.min_le_left _ _
  have hentry : 4 ≤ entrySize wide ∧ entrySize wide ≤ 12 := by cases wide <;> decide
  have hoffset : tally.offset + entrySize wide < 0x10000000000000000 := by
    have hle := h.offset_le
    have hsize := h.size_lt
    omega
  have hdescriptor : Descriptor.transfer? 0 length = .ok (Descriptor.transfer 0 length) := by
    rw [Descriptor.transfer?, Descriptor.checkLength, if_pos ⟨hlengthPos, hlengthMax⟩]
    rfl
  have hattributes : 0 + (LittleEndian.bytes 4 (Descriptor.transfer 0 length).toNat).length ≤
      entrySize wide := by
    rw [LittleEndian.length_bytes]
    omega
  have haddress : 4 + (LittleEndian.bytes (entrySize wide - 4) address).length ≤ entrySize wide := by
    rw [LittleEndian.length_bytes]
    omega
  rw [writeRun, dif_pos hpos, Chunk.cut_of_pos address hpos, ← hlength, writeChunks,
    difference_of_le hlengthLe, sum64_of_lt hoffset, hdescriptor]
  simp only [bind, Except.bind, pure, Except.pure, storePart_of_le hattributes]
  -- the builder looks at room and address as it does for a chunk
  by_cases hfull : tally.memory.size < tally.offset + entrySize wide
  · rw [if_pos hfull, if_pos hfull]
    rfl
  rw [if_neg hfull, if_neg hfull]
  by_cases hhigh : (!wide && decide (0x100000000 ≤ address)) = true
  · rw [if_pos hhigh, if_pos hhigh]
    rfl
  rw [if_neg hhigh, if_neg hhigh, storePart_of_le haddress, Nat.add_zero]
  by_cases hend : 0x10000000000000000 ≤ address + length
  · rw [if_pos hend, sum64, if_neg (Nat.not_lt.mpr hend)]
    rfl
  -- the other two sums are safe
  have hroom : tally.offset + entrySize wide ≤ tally.memory.size := Nat.not_lt.mp hfull
  have hdescriptors := h.descriptors_lt hroom
  have htotal : tally.totalLength + length < 0x10000000000000000 := by
    have hle := h.totalLength_le
    unfold Descriptor.maxLength at hle hlengthMax
    omega
  rw [if_neg hend, sum64_of_lt (Nat.not_le.mp hend), sum64_of_lt (by omega), sum64_of_lt htotal]
  dsimp only
  rw [show LittleEndian.bytes 4 (Descriptor.transfer 0 length).toNat = attributes ⟨address, length⟩
    from rfl]
  have hsize : ((tally.memory.store tally.offset (attributes ⟨address, length⟩)).store
      (tally.offset + 4) (LittleEndian.bytes (entrySize wide - 4) address)).size =
        tally.memory.size := by
    rw [Memory.size_store, Memory.size_store]
  rw [ih (remaining - length) (by omega) (h.next hsize hroom hlengthMax) (address + length),
    List.length_cons]
  -- what the rest adds comes on top of the first entry
  exact congrArg (fun finish => Except.map finish _) (funext (Tally.after_next _ _ _ hlengthLe))

/-- The numbers are in line after chunks that were written. -/
theorem Tally.Sound.of_written {wide : Bool} {tally : Tally} (h : tally.Sound wide)
    {chunks : List Chunk} {bytes stop : Nat} {memory : Memory}
    (hwritten : Written wide chunks tally.offset tally.memory stop memory)
    (hbytes : bytes ≤ Descriptor.maxLength * chunks.length) :
    Sound wide
      { memory
        offset := stop
        descriptors := tally.descriptors + chunks.length
        totalLength := tally.totalLength + bytes } := by
  have hroom : tally.offset + entrySize wide * chunks.length ≤ tally.memory.size := by
    by_cases hnil : chunks = []
    · simpa [hnil] using h.offset_le
    · exact hwritten.stop_eq ▸ hwritten.stop_le hnil
  rw [hwritten.stop_eq]
  exact h.after (by rw [hwritten.memory_eq, Memory.size_store]) hroom hbytes

/-- The runs come to what their chunks come to, one run after the other. -/
theorem writeRuns_eq {wide : Bool} {tally : Tally} (h : tally.Sound wide) (elements : List Element) :
    writeRuns wide elements tally =
      (writeElements wide elements tally.offset tally.memory).map
        (tally.after (elements.flatMap Element.chunks).length (Element.total elements)) := by
  induction elements generalizing tally with
  | nil => rfl
  | cons element rest ih =>
    rw [writeRuns, writeElements]
    by_cases hlength : element.length = 0
    · rw [if_pos hlength, if_pos hlength]
      rfl
    have hchunks : Chunk.cut element.address.toNat element.length.toNat = element.chunks := rfl
    rw [if_neg hlength, if_neg hlength, writeRun_eq h, hchunks]
    rcases hwrite : writeChunks wide element.chunks tally.offset tally.memory with
      cause | ⟨cause | stop, memory⟩
    · rfl
    · rfl
    -- the rest starts from where the first run stops
    have hbytes : element.length.toNat ≤ Descriptor.maxLength * element.chunks.length :=
      Chunk.le_length_cut _ _
    have hrest := ih (h.of_written (writeChunks_written hwrite) hbytes)
    refine hrest.trans (congrArg (fun finish => Except.map finish _) (funext fun outcome => ?_))
    obtain ⟨cause | stop, memory⟩ := outcome
    · rfl
    · simp only [Tally.after, List.flatMap_cons, List.length_append, Element.total, Nat.add_assoc]

/-- In a memory of less than 2 PiB, the builder with each step checked is the builder. -/
theorem buildInWords_eq_build {memory : Memory} (hsize : memory.size < 0x8000000000000)
    (elements : List Element) (wide : Bool) :
    buildInWords elements wide memory = build elements wide memory := by
  rw [buildInWords, build]
  split
  · rfl
  next hne =>
  rw [writeRuns_eq (Tally.sound_start hsize)]
  rcases hwrite : writeElements wide elements 0 memory with cause | ⟨cause | stop, table⟩
  · rfl
  · rfl
  -- there is at least one entry, and the last one lies within the memory
  obtain ⟨hwritten, hlengths⟩ := writeElements_written hwrite
  have hchunks := flatMap_chunks_ne_nil (by simpa using hne) hlengths
  have hcount := List.length_pos_iff.mpr hchunks
  have hstop : stop = entrySize wide * (elements.flatMap Element.chunks).length := by
    rw [hwritten.stop_eq, Nat.zero_add]
  have hlast : entrySize wide ≤ stop := hstop ▸ Nat.le_mul_of_pos_right _ hcount
  have hentry : 4 ≤ entrySize wide := by cases wide <;> decide
  have hroom : ¬ table.size < stop - entrySize wide + 4 := by
    have hle := hwritten.stop_le hchunks
    rw [hwritten.memory_eq, Memory.size_store]
    omega
  have hdescriptors : stop / entrySize wide = (elements.flatMap Element.chunks).length := by
    rw [hstop, Nat.mul_div_cancel_left _ (by omega)]
  simp only [Except.map, Tally.after, bind, Except.bind, pure, Except.pure, difference_of_le hlast,
    if_neg hroom, hdescriptors, Nat.zero_add]

/-! ## Where the builder stops -/

section

variable {elements : List Element} {wide : Bool} {memory : Memory}

/-- A chunk of which the address after it is no number of 64 bits, and for the entry of which there is
room in the memory. -/
def PastEnd (wide : Bool) (size : Nat) (chunks : List Chunk) : Prop :=
  ∃ front chunk rest, chunks = front ++ chunk :: rest ∧
    entrySize wide * (front.length + 1) ≤ size ∧
    0x10000000000000000 ≤ chunk.address + chunk.length

/-- Chunks that were passed are not among those past the end, nor are chunks for which there is no room
after them. -/
theorem Passed.not_pastEnd {chunks front rest : List Chunk} {stop : Nat} {memory' : Memory}
    (h : Passed wide front 0 memory stop memory') (hchunks : chunks = front ++ rest)
    (hrest : rest ≠ [] → memory.size < stop + entrySize wide) :
    ¬ PastEnd wide memory.size chunks := by
  rintro ⟨before, chunk, after, hsplit, hroom, hend⟩
  -- the chunk is one of those in front, for there is no room after them
  have hlength : before.length < front.length := by
    by_contra hge
    have hne : rest ≠ [] := by
      rintro rfl
      have hlengths := congrArg List.length (hchunks.symm.trans hsplit)
      simp at hlengths
      omega
    have hfull := hrest hne
    rw [h.stop_add] at hfull
    have hle : entrySize wide * (front.length + 1) ≤ entrySize wide * (before.length + 1) :=
      Nat.mul_le_mul_left _ (by omega)
    exact absurd hroom (by omega)
  have hget : front[before.length]? = some chunk := by
    have hboth := congrArg (·[before.length]?) (hchunks.symm.trans hsplit)
    simpa [List.getElem?_append_left hlength] using hboth
  exact absurd (h.end_lt chunk (List.mem_of_getElem? hget)) (Nat.not_lt.mpr hend)

/-- The builder stops the driver exactly if entries have wide addresses and a chunk for which there is
room is past the end. What stops it is the sum. -/
theorem build_eq_error_iff (hne : elements ≠ []) (hlengths : ∀ element ∈ elements, element.length ≠ 0)
    (wide : Bool) (memory : Memory) (cause : Fault) :
    build elements wide memory = .error cause ↔
      cause = .overflow ∧ wide = true ∧
        PastEnd wide memory.size (elements.flatMap Element.chunks) := by
  have hcourse := course_writeChunks wide (elements.flatMap Element.chunks) 0 memory
  rw [build_eq wide hne hlengths]
  generalize writeChunks wide (elements.flatMap Element.chunks) 0 memory = outcome at hcourse ⊢
  cases hcourse with
  | written hpassed =>
    refine iff_of_false (by simp) fun h => ?_
    exact hpassed.not_pastEnd (List.append_nil _).symm (by simp) h.2.2
  | full hchunks hfront hroom =>
    refine iff_of_false (by simp) fun h => ?_
    exact hfront.not_pastEnd hchunks (fun _ => hroom) h.2.2
  | high _ _ _ hwide =>
    refine iff_of_false (by simp) fun h => ?_
    simp [hwide] at h
  | @past front rest chunk _ _ hchunks hfront hroom hlow hend =>
    rw [hfront.stop_add] at hroom
    have hmem : chunk ∈ elements.flatMap Element.chunks := by simp [hchunks]
    obtain ⟨element, -, hchunk⟩ := List.mem_flatMap.mp hmem
    have hlength := (Element.length_of_mem_chunks hchunk).2
    -- a narrow chunk begins too low to get that far
    have hwide : wide = true := by
      by_contra hnarrow
      have hstart := hlow (Bool.eq_false_of_not_eq_true hnarrow)
      unfold Descriptor.maxLength at hlength
      omega
    have hpast : PastEnd wide memory.size (elements.flatMap Element.chunks) :=
      ⟨front, chunk, rest, hchunks, hroom, hend⟩
    constructor
    · exact fun h => ⟨(Except.error.inj h).symm, hwide, hpast⟩
    · exact fun h => congrArg Except.error h.1.symm

/-- Where there is room for all entries, a chunk is past the end exactly if an element is. -/
theorem pastEnd_iff_of_room (hlengths : ∀ element ∈ elements, element.length ≠ 0)
    (hroom : entrySize wide *
      (elements.map fun element => (element.length.toNat + 0xFFFF) / 0x10000).sum ≤ memory.size) :
    PastEnd wide memory.size (elements.flatMap Element.chunks) ↔
      ∃ element ∈ elements,
        0x10000000000000000 ≤ element.address.toNat + element.length.toNat := by
  rw [← length_flatMap_chunks] at hroom
  constructor
  · rintro ⟨front, chunk, rest, hchunks, -, hend⟩
    have hmem : chunk ∈ elements.flatMap Element.chunks := by simp [hchunks]
    obtain ⟨element, helement, hchunk⟩ := List.mem_flatMap.mp hmem
    exact ⟨element, helement, hend.trans (Element.end_le_of_mem_chunks hchunk)⟩
  · rintro ⟨element, helement, hend⟩
    obtain ⟨chunk, hchunk, hlast⟩ := Element.exists_mem_chunks_end (hlengths element helement)
    obtain ⟨front, rest, hsplit⟩ :=
      List.append_of_mem (List.mem_flatMap.mpr ⟨element, helement, hchunk⟩)
    refine ⟨front, chunk, rest, hsplit, le_trans (Nat.mul_le_mul_left _ ?_) hroom, hlast ▸ hend⟩
    simp [hsplit]

/-- **Where the builder stops.** Take any list of runs that are not empty, anywhere in the address space
and past its end. The builder stops the driver exactly if entries have wide addresses, and there is a
chunk past the end with room for its entry: a chunk after which no address is a number of 64 bits. If
there is room for all entries, there is one exactly if the last byte of a run is the last of the address
space or lies beyond it. What stops the driver is always the sum of an address and a length.

Every other step is safe when the builder is carried out in machine words, in any memory of less than
2 PiB. -/
theorem stops_iff_past_end (hne : elements ≠ []) (hlengths : ∀ element ∈ elements, element.length ≠ 0)
    (wide : Bool) (memory : Memory) :
    ((∃ cause, build elements wide memory = .error cause) ↔
      wide = true ∧ PastEnd wide memory.size (elements.flatMap Element.chunks)) ∧
    (entrySize wide *
        (elements.map fun element => (element.length.toNat + 0xFFFF) / 0x10000).sum ≤ memory.size →
      (PastEnd wide memory.size (elements.flatMap Element.chunks) ↔
        ∃ element ∈ elements,
          0x10000000000000000 ≤ element.address.toNat + element.length.toNat)) ∧
    (∀ cause, build elements wide memory = .error cause → cause = .overflow) ∧
    (memory.size < 0x8000000000000 →
      buildInWords elements wide memory = build elements wide memory) := by
  have hstops := build_eq_error_iff hne hlengths wide memory
  refine ⟨⟨?_, ?_⟩, pastEnd_iff_of_room hlengths, fun cause h => ((hstops cause).mp h).1,
    fun hsize => buildInWords_eq_build hsize elements wide⟩
  · rintro ⟨cause, h⟩
    exact ((hstops cause).mp h).2
  · exact fun h => ⟨.overflow, (hstops .overflow).mpr ⟨rfl, h⟩⟩

end

namespace AtTheEnd

/-- A run that ends one byte before the last of the address space, and one at its start. -/
def elements : List Element :=
  [⟨0xFFFFFFFFFFFFFE00, 511⟩, ⟨0, 0x10001⟩]

end AtTheEnd

/-- The table of these runs is built, in machine words and in numbers. -/
theorem stops_iff_past_end_one_byte_before :
    AtTheEnd.elements ≠ [] ∧ (∀ element ∈ AtTheEnd.elements, element.length ≠ 0) ∧
      (∃ result, build AtTheEnd.elements true (Memory.zeroed 36) = .ok result) ∧
      buildInWords AtTheEnd.elements true (Memory.zeroed 36) =
        build AtTheEnd.elements true (Memory.zeroed 36) := by
  have hne : AtTheEnd.elements ≠ [] := by decide
  have hlengths : ∀ element ∈ AtTheEnd.elements, element.length ≠ 0 := by decide
  obtain ⟨hstops, hpast, -, hwords⟩ :=
    stops_iff_past_end hne hlengths true (Memory.zeroed 36)
  have hnone : ¬ ∃ element ∈ AtTheEnd.elements,
      0x10000000000000000 ≤ element.address.toNat + element.length.toNat := by decide
  refine ⟨hne, hlengths, ?_, hwords (by decide)⟩
  rcases hbuild : build AtTheEnd.elements true (Memory.zeroed 36) with cause | result
  · exact absurd ((hpast (by decide)).mp (hstops.mp ⟨cause, hbuild⟩).2) hnone
  · exact ⟨result, rfl⟩

/-- A run that ends with the address space stops the driver, although there is room for its entry and each
of its bytes has an address of 64 bits. -/
theorem stopped_at_last_address :
    build [⟨0xFFFFFFFFFFFFFE00, 512⟩] true (Memory.zeroed 12) = .error .overflow ∧
      (∀ address ∈ Element.addresses ⟨0xFFFFFFFFFFFFFE00, 512⟩, address < 0x10000000000000000) ∧
      ¬ ∃ result, build [⟨0xFFFFFFFFFFFFFE00, 512⟩] true (Memory.zeroed 12) = .ok result := by
  have hstop : build [⟨0xFFFFFFFFFFFFFE00, 512⟩] true (Memory.zeroed 12) = .error .overflow := rfl
  refine ⟨hstop, ?_, ?_⟩
  · intro address haddress
    obtain ⟨i, hi, rfl⟩ := List.mem_map.mp haddress
    have hlt : i < 512 := List.mem_range.mp hi
    show 0xFFFFFFFFFFFFFE00 + i < 0x10000000000000000
    omega
  · rintro ⟨result, h⟩
    rw [hstop] at h
    cases h

end DescriptorTable

end SdHost
