import SdHost.Proofs.Dma.Writing

/-!
# What descriptor tables mean

A table that was built has an engine move exactly the bytes of the scatter/gather list, element by
element and in order. The argument has three parts:

* `DescriptorTable.writeElements_written`: what is written is one entry for each chunk, one after
  the other, and nothing else;
* `DescriptorTable.toList_markLast`: marking the end replaces the first word of the last entry;
* `DescriptorTable.entries_layout`: decoding gives the chunks back, the last with the end mark.

`DescriptorTable.build_meaning` states what follows from them for the engine.
-/

namespace SdHost

theorem Element.total_eq_sum (elements : List Element) :
    Element.total elements = (elements.map fun element => element.length.toNat).sum := by
  induction elements with
  | nil => rfl
  | cons element rest ih => rw [Element.total, ih, List.map_cons, List.sum_cons]

namespace DescriptorTable

/-- The descriptor that marks the entry of a chunk as the last, in its low word. -/
def endDescriptor (chunk : Chunk) : Descriptor :=
  Descriptor.last.put true (BitVec.ofNat 64 (LittleEndian.value (attributes chunk)))

/-- The entry of a chunk with the end mark. -/
def endBytes (wide : Bool) (chunk : Chunk) : List Byte :=
  LittleEndian.bytes 4 (endDescriptor chunk).toNat ++
    LittleEndian.bytes (entrySize wide - 4) chunk.address

theorem length_endBytes (wide : Bool) (chunk : Chunk) :
    (endBytes wide chunk).length = entrySize wide := by
  rw [endBytes, List.length_append, LittleEndian.length_bytes, LittleEndian.length_bytes]
  cases wide <;> rfl

theorem ofBytes_entryBytes {wide : Bool} {chunk : Chunk}
    (haddress : chunk.address < 256 ^ (entrySize wide - 4)) :
    DmaEngine.Entry.ofBytes (entryBytes wide chunk) = .moving false chunk := by
  rw [entryBytes, attributes, DmaEngine.Entry.ofBytes_append,
    LittleEndian.value_bytes_of_lt haddress, DmaEngine.Entry.ofDescriptor_transfer]

theorem ofBytes_endBytes {wide : Bool} {chunk : Chunk}
    (haddress : chunk.address < 256 ^ (entrySize wide - 4)) :
    DmaEngine.Entry.ofBytes (endBytes wide chunk) = .moving true chunk := by
  have hattributes : LittleEndian.value (attributes chunk) =
      (Descriptor.transfer 0 chunk.length).toNat % 2 ^ 32 := by
    rw [attributes, LittleEndian.value_bytes, BitVec.toNat_ofNat]
  rw [endBytes, DmaEngine.Entry.ofBytes_append, LittleEndian.value_bytes_of_lt haddress,
    endDescriptor, hattributes, DmaEngine.Entry.ofDescriptor_put_last,
    DmaEngine.Entry.ofDescriptor_truncate, DmaEngine.Entry.ofDescriptor_transfer]
  rfl

/-- Writing elements writes an entry for each of their chunks. No element was empty. -/
theorem writeElements_written {wide : Bool} {elements : List Element} {offset stop : Nat}
    {memory memory' : Memory}
    (h : writeElements wide elements offset memory = .ok (.ok stop, memory')) :
    Written wide (elements.flatMap Element.chunks) offset memory stop memory' ∧
      ∀ element ∈ elements, element.length ≠ 0 := by
  induction elements generalizing offset memory with
  | nil =>
    cases h
    exact ⟨⟨by simp, by simp, rfl, by simp⟩, by simp⟩
  | cons element rest ih =>
    rw [writeElements] at h
    split at h
    · cases h
    next hlength =>
    split at h
    · cases h
    · cases h
    next middle between hchunks =>
    -- the rest is written from where the chunks of the first element stop
    obtain ⟨hrest, hlengths⟩ := ih h
    refine ⟨(writeChunks_written hchunks).append hrest, ?_⟩
    exact List.forall_mem_cons.mpr ⟨hlength, hlengths⟩

/-- Marking the end replaces the first word of the last entry. -/
theorem toList_markLast {wide : Bool} {memory : Memory} {front rest : List Byte} {final : Chunk}
    (h : memory.toList = front ++ (entryBytes wide final ++ rest)) :
    (markLast front.length memory).toList = front ++ (endBytes wide final ++ rest) := by
  have hattributes : (attributes final).length = 4 := length_attributes final
  -- what is read back is the word that was written, which lacks the mark only
  have hload : Memory.load memory front.length 4 = LittleEndian.value (attributes final) := by
    rw [Memory.load, Memory.toList_extract, h, List.drop_left, entryBytes, List.append_assoc,
      List.take_left' hattributes]
  have hsize : memory.size = front.length + (entrySize wide + rest.length) := by
    rw [← Array.length_toList, h, List.length_append, List.length_append, length_entryBytes]
  have hroom : 4 ≤ entrySize wide := by cases wide <;> decide
  have hword : (LittleEndian.bytes 4 (endDescriptor final).toNat).length = 4 :=
    LittleEndian.length_bytes _ _
  have htail : (front ++ (entryBytes wide final ++ rest)).drop (front.length + 4) =
      LittleEndian.bytes (entrySize wide - 4) final.address ++ rest := by
    rw [← List.drop_drop, List.drop_left, entryBytes, List.append_assoc,
      List.drop_left' hattributes]
  rw [markLast, hload, ← endDescriptor, Memory.toList_store _ _ _ (by omega), hword, h, htail,
    List.take_left, endBytes, List.append_assoc, List.append_assoc]

theorem size_writeElements {wide : Bool} {elements : List Element} {offset : Nat}
    {memory memory' : Memory} {result : Except Error Nat}
    (h : writeElements wide elements offset memory = .ok (result, memory')) :
    memory'.size = memory.size := by
  induction elements generalizing offset memory with
  | nil =>
    cases h
    rfl
  | cons element rest ih =>
    simp only [writeElements] at h
    split at h
    · cases h
    split at h
    · cases h
    next hchunks =>
      cases h
      exact size_writeChunks hchunks
    next hchunks => rw [ih h, size_writeChunks hchunks]

/-- Building a table changes the bytes of the memory, whether it succeeds or fails, and never how many
there are. -/
theorem size_build {elements : List Element} {wide : Bool} {memory table : Memory}
    {result : Except Error Info} (h : build elements wide memory = .ok (result, table)) :
    table.size = memory.size := by
  rw [build] at h
  split at h
  · cases h
  split at h
  · cases h
  next hwrite =>
    cases h
    exact size_writeElements hwrite
  next hwrite =>
    cases h
    rw [markLast, Memory.size_store, size_writeElements hwrite]

/-- A table that was built has an entry for each chunk of the elements, of which the last carries
the end mark. What comes after the entries is as it was. -/
theorem build_layout {elements : List Element} {wide : Bool} {memory table : Memory} {info : Info}
    (h : build elements wide memory = .ok (.ok info, table)) :
    ∃ front final, elements.flatMap Element.chunks = front ++ [final] ∧
      info = { descriptors := front.length + 1, totalLength := Element.total elements } ∧
      (∀ chunk ∈ front ++ [final], chunk.address < 256 ^ (entrySize wide - 4)) ∧
      entrySize wide * (front.length + 1) ≤ memory.size ∧
      table.toList = front.flatMap (entryBytes wide) ++ (endBytes wide final ++
        memory.toList.drop (entrySize wide * (front.length + 1))) := by
  rw [build] at h
  split at h
  · cases h
  next hne =>
  split at h
  · cases h
  · cases h
  next stop written hwrite =>
  cases h
  obtain ⟨hwritten, hlengths⟩ := writeElements_written hwrite
  -- as there is an element and none is empty, there is a last chunk
  have hchunks := flatMap_chunks_ne_nil (by simpa using hne) hlengths
  obtain ⟨front, final, hfront⟩ := (List.eq_nil_or_concat' _).resolve_left hchunks
  -- what was written lies within the memory
  have hroom := hwritten.stop_le hchunks
  obtain ⟨hstop, -, hstore, haddress⟩ := hfront ▸ hwritten
  rw [List.length_append, List.length_singleton, Nat.zero_add] at hstop
  have hlength : ((front ++ [final]).flatMap (entryBytes wide)).length = stop := by
    rw [length_flatMap_entryBytes, List.length_append, List.length_singleton, hstop]
  -- the memory before the end is marked
  have hmemory : written.toList = front.flatMap (entryBytes wide) ++
      (entryBytes wide final ++ memory.toList.drop stop) := by
    rw [hstore, Memory.toList_store_zero (by omega), hlength, List.flatMap_append,
      List.flatMap_singleton, List.append_assoc]
  have hoffset : stop - entrySize wide = (front.flatMap (entryBytes wide)).length := by
    rw [length_flatMap_entryBytes, hstop, Nat.mul_succ, Nat.add_sub_cancel]
  have hdescriptors : stop / entrySize wide = front.length + 1 := by
    rw [hstop, Nat.mul_div_cancel_left _ (by cases wide <;> decide)]
  refine ⟨front, final, hfront, ?_, haddress, ?_, ?_⟩
  · rw [hdescriptors]
  · rw [← hstop]
    exact hroom
  · rw [hoffset, toList_markLast hmemory, hstop]

/-- Decoding a table gives its chunks back, and the last of them ends it. -/
theorem entries_layout {wide : Bool} {front : List Chunk} {final : Chunk}
    (haddress : ∀ chunk ∈ front ++ [final], chunk.address < 256 ^ (entrySize wide - 4))
    (rest : List Byte) :
    DmaEngine.entries (entrySize wide) (front.length + 1)
        (front.flatMap (entryBytes wide) ++ (endBytes wide final ++ rest)) =
      front.map (.moving false) ++ [.moving true final] := by
  have hfront : front.map (fun chunk => DmaEngine.Entry.ofBytes (entryBytes wide chunk)) =
      front.map (.moving false) := by
    refine List.map_congr_left fun chunk hchunk => ?_
    exact ofBytes_entryBytes (haddress chunk (List.mem_append_left _ hchunk))
  have hlength := length_flatMap_entryBytes wide front
  rw [DmaEngine.entries_add, DmaEngine.entries_flatMap _ (fun chunk _ => length_entryBytes wide chunk),
    hfront, List.drop_left' hlength, DmaEngine.entries, DmaEngine.entries,
    List.take_left' (length_endBytes wide final), ofBytes_endBytes (haddress final (by simp))]

theorem length_flatMap_addresses (elements : List Element) :
    (elements.flatMap Element.addresses).length = Element.total elements := by
  induction elements with
  | nil => rfl
  | cons element rest ih =>
    rw [List.flatMap_cons, List.length_append, ih, Element.total, Element.addresses,
      List.length_map, List.length_range]

/-- The engine that follows a table moves as many bytes as the elements have, and as many as the
builder reports. -/
theorem total_build {elements : List Element} {wide : Bool} {memory table : Memory} {info : Info}
    (h : build elements wide memory = .ok (.ok info, table)) :
    DmaEngine.total (DmaEngine.entries (entrySize wide) info.descriptors table.toList) =
      some (Element.total elements) ∧ info.totalLength = Element.total elements := by
  obtain ⟨front, final, hchunks, rfl, haddress, -, htable⟩ := build_layout h
  have hlength : ∀ chunk ∈ front ++ [final],
      0 < chunk.length ∧ chunk.length ≤ Descriptor.maxLength := by
    intro chunk hmem
    rw [← hchunks] at hmem
    obtain ⟨element, -, hchunk⟩ := List.mem_flatMap.mp hmem
    exact Element.length_of_mem_chunks hchunk
  refine ⟨?_, rfl⟩
  -- the chunks that the engine moves are those of the elements
  rw [htable, entries_layout haddress, DmaEngine.total, DmaEngine.walk_append_last [] hlength,
    Option.map_some, ← hchunks, List.flatMap_assoc]
  simp only [Element.flatMap_addresses_chunks, length_flatMap_addresses]

private theorem map_chunk_moving {front : List Chunk} {final : Chunk}
    (hlength : ∀ chunk ∈ front ++ [final],
      0 < chunk.length ∧ chunk.length ≤ Descriptor.maxLength) :
    (front.map (DmaEngine.Entry.moving false) ++ [DmaEngine.Entry.moving true final]).map
      DmaEngine.Entry.chunk = front ++ [final] := by
  have hfront : (front.map (DmaEngine.Entry.moving false)).map DmaEngine.Entry.chunk = front := by
    rw [List.map_map]
    refine (List.map_congr_left fun chunk hchunk => ?_).trans (List.map_id front)
    obtain ⟨hpos, hmax⟩ := hlength chunk (List.mem_append_left _ hchunk)
    exact DmaEngine.Entry.chunk_moving false hpos hmax
  obtain ⟨hpos, hmax⟩ := hlength final (by simp)
  rw [List.map_append, hfront, List.map_singleton, DmaEngine.Entry.chunk_moving true hpos hmax]

private theorem exists_moving_of_mem {front : List Chunk} {final : Chunk} {entry : DmaEngine.Entry}
    (h : entry ∈ front.map (DmaEngine.Entry.moving false) ++ [.moving true final]) :
    ∃ last, ∃ chunk ∈ front ++ [final], entry = .moving last chunk := by
  rcases List.mem_append.mp h with hfront | hfinal
  · obtain ⟨chunk, hchunk, rfl⟩ := List.mem_map.mp hfront
    exact ⟨false, chunk, List.mem_append_left _ hchunk, rfl⟩
  · exact ⟨true, final, by simp, List.mem_singleton.mp hfinal⟩

/-- The chunks of the elements, chunk by chunk or element by element. -/
theorem exists_runs (elements : List Element) (entries : List DmaEngine.Entry)
    (h : entries.map DmaEngine.Entry.chunk = elements.flatMap Element.chunks) :
    ∃ runs : List (List DmaEngine.Entry), entries = runs.flatten ∧
      List.Forall₂ (fun run element =>
        run.flatMap (fun entry => entry.chunk.addresses) = Element.addresses element)
        runs elements := by
  induction elements generalizing entries with
  | nil =>
    refine ⟨[], ?_, List.Forall₂.nil⟩
    exact List.map_eq_nil_iff.mp h
  | cons element rest ih =>
    rw [List.flatMap_cons] at h
    -- the run of the first element is as long as its list of chunks
    obtain ⟨run, others, rfl, hrun, hothers⟩ := List.map_eq_append_iff.mp h
    obtain ⟨runs, rfl, hruns⟩ := ih others hothers
    refine ⟨run :: runs, rfl, List.Forall₂.cons ?_ hruns⟩
    rw [← Element.flatMap_addresses_chunks, ← hrun, List.flatMap_map]

/-- A descriptor table means the scatter/gather list that it was built for.

Decoding as many entries as the builder reports, from the start of the table, gives runs that
cover the bytes of each element in turn. Each run is one that a descriptor can move, the whole of
it stored as zero where it is 64 KiB long; every entry is valid and moves data, and the last one
alone ends the table. The builder reports as many entries as the elements begin runs of 64 KiB,
and their length together, and it leaves the memory after the table as it was. -/
theorem build_meaning {elements : List Element} {wide : Bool} {memory table : Memory}
    {info : Info} (h : build elements wide memory = .ok (.ok info, table)) :
    let entries := DmaEngine.entries (entrySize wide) info.descriptors table.toList
    (∃ runs : List (List DmaEngine.Entry), entries = runs.flatten ∧
      List.Forall₂ (fun run element =>
        run.flatMap (fun entry => entry.chunk.addresses) = Element.addresses element)
        runs elements) ∧
    (∀ entry ∈ entries, entry.valid = true ∧ entry.action = Descriptor.moveData ∧
      1 ≤ entry.chunk.length ∧ entry.chunk.length ≤ 0x10000 ∧
      entry.length = entry.chunk.length % 0x10000 ∧ entry.lengthUpper = 0) ∧
    entries.map DmaEngine.Entry.last = List.replicate (info.descriptors - 1) false ++ [true] ∧
    DmaEngine.walk entries = some (elements.flatMap Element.chunks) ∧
    info.descriptors =
      (elements.map fun element => (element.length.toNat + 0xFFFF) / 0x10000).sum ∧
    info.totalLength = (elements.map fun element => element.length.toNat).sum ∧
    table.size = memory.size ∧
    table.toList.drop (entrySize wide * info.descriptors) =
      memory.toList.drop (entrySize wide * info.descriptors) := by
  intro entries
  obtain ⟨front, final, hchunks, hinfo, haddress, hroom, htable⟩ := build_layout h
  have hdescriptors : info.descriptors = front.length + 1 := congrArg Info.descriptors hinfo
  have hentries : entries = front.map (.moving false) ++ [.moving true final] := by
    rw [← entries_layout haddress, ← htable, ← hdescriptors]
  have hlength : ∀ chunk ∈ front ++ [final],
      0 < chunk.length ∧ chunk.length ≤ Descriptor.maxLength := by
    intro chunk hmem
    rw [← hchunks] at hmem
    obtain ⟨element, -, hchunk⟩ := List.mem_flatMap.mp hmem
    exact Element.length_of_mem_chunks hchunk
  -- up to here the table was written, and no further
  have hprefix : (front.flatMap (entryBytes wide) ++ endBytes wide final).length =
      entrySize wide * (front.length + 1) := by
    rw [List.length_append, length_flatMap_entryBytes, length_endBytes, Nat.mul_succ]
  rw [← List.append_assoc] at htable
  refine ⟨?_, ?_, ?_, ?_, ?_, ?_, ?_, ?_⟩
  · -- the runs of the elements
    apply exists_runs
    rw [hchunks, hentries, map_chunk_moving hlength]
  · -- each entry by itself
    intro entry hentry
    rw [hentries] at hentry
    obtain ⟨last, chunk, hchunk, rfl⟩ := exists_moving_of_mem hentry
    obtain ⟨hpos, hmax⟩ := hlength chunk hchunk
    rw [DmaEngine.Entry.chunk_moving last hpos hmax]
    exact ⟨rfl, rfl, hpos, hmax, rfl, rfl⟩
  · -- the end marks
    rw [hentries, hdescriptors, List.map_append, List.map_map, Nat.add_sub_cancel,
      ← List.map_const']
    rfl
  · rw [hentries, hchunks, DmaEngine.walk_append_last [] hlength]
  · -- as many entries as chunks
    have hsum : (elements.flatMap Element.chunks).length = front.length + 1 := by
      rw [hchunks, List.length_append, List.length_singleton]
    rw [hdescriptors, ← hsum, List.length_flatMap]
    simp only [Element.length_chunks]
  · rw [hinfo, Element.total_eq_sum]
  · -- the table is written in place, and the memory after it is left alone
    have hsize : table.toList.length = memory.toList.length := by
      rw [htable, List.length_append, hprefix, List.length_drop]
      exact Nat.add_sub_cancel' hroom
    exact hsize
  · rw [hdescriptors, htable, List.drop_left' hprefix]

/-- Two elements, of which the first is longer than one descriptor can move, in a table with room
to spare. -/
theorem build_meaning_two_elements :
    ∃ info table,
      build [⟨0x12340000, 0x18000⟩, ⟨0x100000000, 512⟩] true (Memory.zeroed 48) =
        .ok (.ok info, table) ∧
      info.descriptors = 3 := by
  obtain ⟨info, table, h⟩ : ∃ info table,
      build [⟨0x12340000, 0x18000⟩, ⟨0x100000000, 512⟩] true (Memory.zeroed 48) =
        .ok (.ok info, table) := ⟨_, _, rfl⟩
  obtain ⟨-, -, -, -, hdescriptors, -⟩ := build_meaning h
  exact ⟨info, table, h, hdescriptors⟩

end DescriptorTable

end SdHost
