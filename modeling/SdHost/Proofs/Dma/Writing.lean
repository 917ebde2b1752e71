import SdHost.Proofs.Dma.Engine

/-!
# How tables are written

The entries of a table are written chunk by chunk, until there is no room for an entry, until a chunk
begins too high for it, or until the address after a chunk is no number of 64 bits. Which of these comes
first is a matter of the order of the chunks, and what was written up to there stays.

The module introduces:

* `DescriptorTable.entryBytes`: the entry of a chunk;
* `DescriptorTable.Written`: the entries of some chunks were written, and nothing else was;
* `DescriptorTable.Passed`: they were, and the address after each chunk is a number of 64 bits;
* `DescriptorTable.Course`: the ways in which writing can go, with what each leaves behind.

`DescriptorTable.course_writeChunks` takes the writing of chunks apart, and
`DescriptorTable.writeElements_eq_writeChunks` brings that of elements down to it.
-/

namespace SdHost

/-- The chunks of a run that is not empty are not empty, and one descriptor can move each. -/
theorem Element.length_of_mem_chunks {element : Element} {chunk : Chunk}
    (h : chunk ∈ element.chunks) : 0 < chunk.length ∧ chunk.length ≤ Descriptor.maxLength := by
  obtain ⟨i, hi, rfl⟩ := List.mem_map.mp h
  have hi' := List.mem_range.mp hi
  show 0 < min Descriptor.maxLength (element.length.toNat - Descriptor.maxLength * i) ∧
    min Descriptor.maxLength (element.length.toNat - Descriptor.maxLength * i) ≤ _
  unfold Descriptor.maxLength at hi' ⊢
  omega

theorem Element.length_chunks (element : Element) :
    element.chunks.length = (element.length.toNat + 0xFFFF) / 0x10000 := by
  rw [Element.chunks, List.length_map, List.length_range]
  rfl

/-- A chunk ends with its run or before. -/
theorem Element.end_le_of_mem_chunks {element : Element} {chunk : Chunk}
    (h : chunk ∈ element.chunks) :
    chunk.address + chunk.length ≤ element.address.toNat + element.length.toNat := by
  obtain ⟨i, hi, rfl⟩ := List.mem_map.mp h
  have hi' := List.mem_range.mp hi
  show element.address.toNat + Descriptor.maxLength * i +
      min Descriptor.maxLength (element.length.toNat - Descriptor.maxLength * i) ≤ _
  unfold Descriptor.maxLength at hi' ⊢
  omega

theorem Element.chunks_ne_nil {element : Element} (h : element.length ≠ 0) :
    element.chunks ≠ [] := by
  have hpos : 0 < element.length.toNat := by
    rw [Nat.pos_iff_ne_zero]
    exact fun hzero => h (BitVec.eq_of_toNat_eq hzero)
  rw [← List.length_pos_iff, Element.length_chunks]
  omega

namespace DescriptorTable

theorem length_flatMap_chunks (elements : List Element) :
    (elements.flatMap Element.chunks).length =
      (elements.map fun element => (element.length.toNat + 0xFFFF) / 0x10000).sum := by
  simp only [List.length_flatMap, Element.length_chunks]

/-- A list of elements has chunks, if there is an element and none is empty. -/
theorem flatMap_chunks_ne_nil {elements : List Element} (hne : elements ≠ [])
    (hlengths : ∀ element ∈ elements, element.length ≠ 0) :
    elements.flatMap Element.chunks ≠ [] := by
  obtain ⟨element, rest, rfl⟩ := List.exists_cons_of_ne_nil hne
  have helement := Element.chunks_ne_nil (hlengths element List.mem_cons_self)
  simpa using fun hnil => absurd hnil helement

/-- Chunks can be written part by part. -/
theorem writeChunks_append (wide : Bool) (first second : List Chunk) (offset : Nat)
    (memory : Memory) :
    writeChunks wide (first ++ second) offset memory =
      match writeChunks wide first offset memory with
      | .error cause => .error cause
      | .ok (.error cause, memory) => .ok (.error cause, memory)
      | .ok (.ok middle, memory) => writeChunks wide second middle memory := by
  induction first generalizing offset memory with
  | nil => rfl
  | cons chunk rest ih =>
    rw [List.cons_append, writeChunks, writeChunks]
    -- the first chunk is looked at in the same way on both sides
    by_cases hfull : memory.size < offset + entrySize wide
    · rw [if_pos hfull, if_pos hfull]
    rw [if_neg hfull, if_neg hfull]
    by_cases hhigh : (!wide && decide (0x100000000 ≤ chunk.address)) = true
    · rw [if_pos hhigh, if_pos hhigh]
    rw [if_neg hhigh, if_neg hhigh]
    by_cases hend : 0x10000000000000000 ≤ chunk.address + chunk.length
    · rw [if_pos hend, if_pos hend]
    rw [if_neg hend, if_neg hend]
    exact ih _ _

/-- Elements are written as the list of their chunks. -/
theorem writeElements_eq_writeChunks (wide : Bool) {elements : List Element}
    (hlengths : ∀ element ∈ elements, element.length ≠ 0) (offset : Nat) (memory : Memory) :
    writeElements wide elements offset memory =
      writeChunks wide (elements.flatMap Element.chunks) offset memory := by
  induction elements generalizing offset memory with
  | nil => rfl
  | cons element rest ih =>
    obtain ⟨hlength, hrest⟩ := List.forall_mem_cons.mp hlengths
    rw [writeElements, if_neg hlength, List.flatMap_cons, writeChunks_append]
    rcases writeChunks wide element.chunks offset memory with cause | ⟨cause | middle, between⟩
    · rfl
    · rfl
    · exact ih hrest middle between

/-- So is a table as a whole, if no element is empty. -/
theorem build_eq (wide : Bool) {elements : List Element} (hne : elements ≠ [])
    (hlengths : ∀ element ∈ elements, element.length ≠ 0) (memory : Memory) :
    build elements wide memory =
      match writeChunks wide (elements.flatMap Element.chunks) 0 memory with
      | .error cause => .error cause
      | .ok (.error cause, memory) => .ok (.error cause, memory)
      | .ok (.ok stop, memory) =>
        .ok (.ok { descriptors := stop / entrySize wide, totalLength := Element.total elements },
          markLast (stop - entrySize wide) memory) := by
  have hfull : ¬ elements.isEmpty = true := by simpa using hne
  have hwrite := writeElements_eq_writeChunks wide hlengths 0 memory
  generalize writeChunks wide (elements.flatMap Element.chunks) 0 memory = outcome at hwrite ⊢
  obtain cause | ⟨cause | stop, _⟩ := outcome
  all_goals simp only [build, if_neg hfull, hwrite]

/-! ## What is written -/

/-- The entry of a chunk as it is first written, without the end mark. -/
def entryBytes (wide : Bool) (chunk : Chunk) : List Byte :=
  attributes chunk ++ LittleEndian.bytes (entrySize wide - 4) chunk.address

theorem length_attributes (chunk : Chunk) : (attributes chunk).length = 4 :=
  LittleEndian.length_bytes _ _

theorem length_entryBytes (wide : Bool) (chunk : Chunk) :
    (entryBytes wide chunk).length = entrySize wide := by
  rw [entryBytes, List.length_append, length_attributes, LittleEndian.length_bytes]
  cases wide <;> rfl

theorem length_flatMap_entryBytes (wide : Bool) (chunks : List Chunk) :
    (chunks.flatMap (entryBytes wide)).length = entrySize wide * chunks.length := by
  induction chunks with
  | nil => rfl
  | cons chunk rest ih =>
    rw [List.flatMap_cons, List.length_append, ih, length_entryBytes, List.length_cons,
      Nat.mul_succ, Nat.add_comm]

/-- The entries of some chunks were written from `offset` on, up to `stop`, and nothing else
was. -/
structure Written (wide : Bool) (chunks : List Chunk) (offset : Nat) (memory : Memory)
    (stop : Nat) (memory' : Memory) : Prop where
  /-- The next entry comes after as many entries as there are chunks. -/
  stop_eq : stop = offset + entrySize wide * chunks.length
  /-- All entries fit, if there are any. -/
  stop_le : chunks ≠ [] → stop ≤ memory.size
  /-- What the memory holds now. -/
  memory_eq : memory' = Memory.store memory offset (chunks.flatMap (entryBytes wide))
  /-- Each address fits in the part of the entry that is for it. -/
  address_lt : ∀ chunk ∈ chunks, chunk.address < 256 ^ (entrySize wide - 4)

/-- Entries for the first chunks and then for the others are entries for all of them. -/
theorem Written.append {wide : Bool} {first second : List Chunk} {offset middle stop : Nat}
    {memory memory' memory'' : Memory} (h : Written wide first offset memory middle memory')
    (h' : Written wide second middle memory' stop memory'') :
    Written wide (first ++ second) offset memory stop memory'' where
  stop_eq := by
    rw [h'.stop_eq, h.stop_eq, List.length_append, Nat.mul_add, Nat.add_assoc]
  stop_le hne := by
    have hsize : memory'.size = memory.size := by rw [h.memory_eq, Memory.size_store]
    -- if there is nothing to come after the first chunks, it is they that have to fit
    rcases second.eq_nil_or_concat with rfl | ⟨front, last, rfl⟩
    · have hstop := h'.stop_eq
      rw [List.length_nil, Nat.mul_zero, Nat.add_zero] at hstop
      rw [hstop]
      exact h.stop_le (by simpa using hne)
    · exact hsize ▸ h'.stop_le (by simp)
  memory_eq := by
    rw [h'.memory_eq, h.memory_eq, h.stop_eq, List.flatMap_append, Memory.store_append,
      length_flatMap_entryBytes]
  address_lt chunk hmem := by
    rcases List.mem_append.mp hmem with hfirst | hsecond
    · exact h.address_lt chunk hfirst
    · exact h'.address_lt chunk hsecond

theorem written_single {wide : Bool} {chunk : Chunk} {offset : Nat} {memory : Memory}
    (hroom : offset + entrySize wide ≤ memory.size)
    (haddress : chunk.address < 256 ^ (entrySize wide - 4)) :
    Written wide [chunk] offset memory (offset + entrySize wide)
      (Memory.store memory offset (entryBytes wide chunk)) where
  stop_eq := by rw [List.length_singleton, Nat.mul_one]
  stop_le _ := hroom
  memory_eq := by rw [List.flatMap_cons, List.flatMap_nil, List.append_nil]
  address_lt := List.forall_mem_singleton.mpr haddress

/-! ## The ways in which writing can go -/

/-- The entries of some chunks were written, and the address after each is a number of 64 bits. -/
structure Passed (wide : Bool) (chunks : List Chunk) (offset : Nat) (memory : Memory) (stop : Nat)
    (memory' : Memory) : Prop extends Written wide chunks offset memory stop memory' where
  /-- No chunk reaches the end of the address space. -/
  end_lt : ∀ chunk ∈ chunks, chunk.address + chunk.length < 0x10000000000000000

variable {wide : Bool} {chunks front rest : List Chunk} {chunk : Chunk} {offset stop : Nat}
  {memory memory' : Memory}

theorem passed_nil (wide : Bool) (offset : Nat) (memory : Memory) :
    Passed wide [] offset memory offset memory where
  stop_eq := by simp
  stop_le := by simp
  memory_eq := rfl
  address_lt := by simp
  end_lt := by simp

theorem Passed.size_eq (h : Passed wide chunks offset memory stop memory') :
    memory'.size = memory.size := by
  rw [h.memory_eq, Memory.size_store]

/-- The next entry would end where one entry more than these ends. -/
theorem Passed.stop_add (h : Passed wide chunks 0 memory stop memory') :
    stop + entrySize wide = entrySize wide * (chunks.length + 1) := by
  rw [h.stop_eq, Nat.zero_add, Nat.mul_add_one]

/-- What was written from the start of the memory on lies within it. -/
theorem Passed.stop_le_size (h : Passed wide chunks 0 memory stop memory') : stop ≤ memory.size := by
  by_cases hnil : chunks = []
  · have hstop := h.stop_eq
    rw [hnil] at hstop
    simp [hstop]
  · exact h.stop_le hnil

/-- One more entry in front. -/
theorem Passed.cons (hroom : offset + entrySize wide ≤ memory.size)
    (haddress : chunk.address < 256 ^ (entrySize wide - 4))
    (hend : chunk.address + chunk.length < 0x10000000000000000)
    (h : Passed wide chunks (offset + entrySize wide)
      (Memory.store memory offset (entryBytes wide chunk)) stop memory') :
    Passed wide (chunk :: chunks) offset memory stop memory' where
  toWritten := (written_single hroom haddress).append h.toWritten
  end_lt := List.forall_mem_cons.mpr ⟨hend, h.end_lt⟩

/-- The ways in which writing the entries of some chunks can go. Where it is cut short, the chunks
before the one at fault were passed. -/
inductive Course (wide : Bool) (chunks : List Chunk) (offset : Nat) (memory : Memory) :
    Except Fault (Except Error Nat × Memory) → Prop
  /-- All entries are written. -/
  | written {stop : Nat} {memory' : Memory} (h : Passed wide chunks offset memory stop memory') :
      Course wide chunks offset memory (.ok (.ok stop, memory'))
  /-- There is no room for an entry, and it is not begun. -/
  | full {front rest : List Chunk} {chunk : Chunk} {stop : Nat} {memory' : Memory}
      (hchunks : chunks = front ++ chunk :: rest)
      (hfront : Passed wide front offset memory stop memory')
      (hroom : memory.size < stop + entrySize wide) :
      Course wide chunks offset memory (.ok (.error .insufficientResources, memory'))
  /-- A chunk begins too high, which is noticed once its attributes are written. -/
  | high {front rest : List Chunk} {chunk : Chunk} {stop : Nat} {memory' : Memory}
      (hchunks : chunks = front ++ chunk :: rest)
      (hfront : Passed wide front offset memory stop memory')
      (hroom : stop + entrySize wide ≤ memory.size) (hwide : wide = false)
      (hhigh : 0x100000000 ≤ chunk.address) :
      Course wide chunks offset memory
        (.ok (.error .notSupported, Memory.store memory' stop (attributes chunk)))
  /-- The address after a chunk is no number of 64 bits. -/
  | past {front rest : List Chunk} {chunk : Chunk} {stop : Nat} {memory' : Memory}
      (hchunks : chunks = front ++ chunk :: rest)
      (hfront : Passed wide front offset memory stop memory')
      (hroom : stop + entrySize wide ≤ memory.size)
      (hlow : wide = false → chunk.address < 0x100000000)
      (hend : 0x10000000000000000 ≤ chunk.address + chunk.length) :
      Course wide chunks offset memory (.error .overflow)

/-- An entry in front does not change the course of the others. -/
theorem Course.cons {outcome : Except Fault (Except Error Nat × Memory)}
    (hroom : offset + entrySize wide ≤ memory.size)
    (haddress : chunk.address < 256 ^ (entrySize wide - 4))
    (hend : chunk.address + chunk.length < 0x10000000000000000)
    (h : Course wide chunks (offset + entrySize wide)
      (Memory.store memory offset (entryBytes wide chunk)) outcome) :
    Course wide (chunk :: chunks) offset memory outcome := by
  have hsize := Memory.size_store memory offset (entryBytes wide chunk)
  cases h with
  | written h => exact .written (h.cons hroom haddress hend)
  | full hchunks hfront hlater =>
    exact .full (congrArg _ hchunks) (hfront.cons hroom haddress hend) (hsize ▸ hlater)
  | high hchunks hfront hlater hwide hhigh =>
    exact .high (congrArg _ hchunks) (hfront.cons hroom haddress hend) (hsize ▸ hlater) hwide hhigh
  | past hchunks hfront hlater hlow hpast =>
    exact .past (congrArg _ hchunks) (hfront.cons hroom haddress hend) (hsize ▸ hlater) hlow hpast

theorem course_writeChunks (wide : Bool) (chunks : List Chunk) (offset : Nat) (memory : Memory) :
    Course wide chunks offset memory (writeChunks wide chunks offset memory) := by
  induction chunks generalizing offset memory with
  | nil => exact .written (passed_nil wide offset memory)
  | cons chunk rest ih =>
    have hfront := passed_nil wide offset memory
    rw [writeChunks]
    -- the three looks at the first chunk, in the order in which they are taken
    by_cases hfull : memory.size < offset + entrySize wide
    · rw [if_pos hfull]
      exact .full rfl hfront hfull
    have hroom : offset + entrySize wide ≤ memory.size := Nat.not_lt.mp hfull
    rw [if_neg hfull]
    by_cases hhigh : (!wide && decide (0x100000000 ≤ chunk.address)) = true
    · rw [if_pos hhigh]
      obtain ⟨hwide, hstart⟩ := Bool.and_eq_true _ _ ▸ hhigh
      exact .high rfl hfront hroom (by simpa using hwide) (by simpa using hstart)
    have hlow : wide = false → chunk.address < 0x100000000 := by
      rintro rfl
      simpa using hhigh
    rw [if_neg hhigh]
    by_cases hend : 0x10000000000000000 ≤ chunk.address + chunk.length
    · rw [if_pos hend]
      exact .past rfl hfront hroom hlow hend
    -- the entry of the first chunk is written, in two parts
    have hentry : Memory.store (Memory.store memory offset (attributes chunk)) (offset + 4)
        (LittleEndian.bytes (entrySize wide - 4) chunk.address) =
        Memory.store memory offset (entryBytes wide chunk) := by
      rw [entryBytes, Memory.store_append, length_attributes]
    have haddress : chunk.address < 256 ^ (entrySize wide - 4) := by
      cases wide with
      | true =>
        show chunk.address < 256 ^ 8
        omega
      | false => exact hlow rfl
    rw [if_neg hend, hentry]
    exact (ih _ _).cons hroom haddress (Nat.not_le.mp hend)

theorem writeChunks_written
    (h : writeChunks wide chunks offset memory = .ok (.ok stop, memory')) :
    Written wide chunks offset memory stop memory' := by
  have hcourse := course_writeChunks wide chunks offset memory
  rw [h] at hcourse
  cases hcourse with
  | written hpassed => exact hpassed.toWritten

theorem size_writeChunks {result : Except Error Nat}
    (h : writeChunks wide chunks offset memory = .ok (result, memory')) :
    memory'.size = memory.size := by
  have hcourse := course_writeChunks wide chunks offset memory
  rw [h] at hcourse
  cases hcourse with
  | written hpassed => exact hpassed.size_eq
  | full _ hfront => exact hfront.size_eq
  | high _ hfront => rw [Memory.size_store, hfront.size_eq]

end DescriptorTable

end SdHost
