import SdHost.Proofs.Dma.Table

/-!
# How far narrow tables reach

A narrow entry has one word for the address of its chunk, so that the chunk has to begin below
4 GiB. Where a chunk begins is all that the builder looks at: a run whose last chunk begins below
the limit may end above it. Such a run *straddles* the limit.

* `Element.forall_mem_chunks_lt_iff`: all chunks of a run begin below a limit exactly if the last one
  does;
* `DescriptorTable.build_narrow`: why a list is refused.

`DescriptorTable.reach_of_narrow_build` puts them together: a list that passes the limit is refused
exactly if one of its elements does so without straddling it.
-/

namespace SdHost

namespace Element

/-- Where the last chunk of a run begins. -/
def lastStart (element : Element) : Nat :=
  element.address.toNat + Descriptor.maxLength * ((element.length.toNat - 1) / Descriptor.maxLength)

/-- A byte of the run lies at the limit or above. -/
def Passes (limit : Nat) (element : Element) : Prop :=
  ∃ address ∈ element.addresses, limit ≤ address

/-- The run passes the limit, but all its chunks begin below it. -/
def Straddles (limit : Nat) (element : Element) : Prop :=
  element.lastStart < limit ∧ element.Passes limit

variable {element : Element}

theorem length_pos (hlength : element.length ≠ 0) : 0 < element.length.toNat := by
  rw [Nat.pos_iff_ne_zero]
  exact fun hzero => hlength (BitVec.eq_of_toNat_eq hzero)

theorem mem_addresses_iff {address : Nat} : address ∈ element.addresses ↔
    element.address.toNat ≤ address ∧ address < element.address.toNat + element.length.toNat := by
  simp only [addresses, List.mem_map, List.mem_range]
  constructor
  · rintro ⟨i, hi, rfl⟩
    omega
  · rintro ⟨hle, hlt⟩
    exact ⟨address - element.address.toNat, by omega, by omega⟩

/-- A run passes the limit with its last byte, or not at all. -/
theorem passes_iff (hlength : element.length ≠ 0) (limit : Nat) :
    element.Passes limit ↔ limit < element.address.toNat + element.length.toNat := by
  have hpos := length_pos hlength
  simp only [Passes, mem_addresses_iff]
  constructor
  · rintro ⟨address, ⟨-, hlt⟩, hle⟩
    omega
  · intro hlt
    exact ⟨element.address.toNat + element.length.toNat - 1, by omega, by omega⟩

/-- All chunks of a run begin below a limit exactly if the last one does. -/
theorem forall_mem_chunks_lt_iff (hlength : element.length ≠ 0) (limit : Nat) :
    (∀ chunk ∈ element.chunks, chunk.address < limit) ↔ element.lastStart < limit := by
  have hpos := length_pos hlength
  simp only [chunks, List.forall_mem_map, List.mem_range, lastStart, Descriptor.maxLength]
  constructor
  · intro h
    exact h _ (by omega)
  · intro hlast i hi
    omega

/-- A run that begins all its chunks below a limit ends less than a chunk above it. -/
theorem lt_of_lastStart_lt {limit address : Nat} (hlast : element.lastStart < limit)
    (haddress : address ∈ element.addresses) : address < limit + 0xFFFF := by
  rw [mem_addresses_iff] at haddress
  simp only [lastStart, Descriptor.maxLength] at hlast
  omega

/-- A run that is not past the limit, or past it only by its last chunk, begins its chunks below. -/
theorem lastStart_lt_iff (hlength : element.length ≠ 0) (limit : Nat) :
    element.lastStart < limit ↔ (element.Passes limit → element.Straddles limit) := by
  have hpos := length_pos hlength
  constructor
  · exact fun hlast hpasses => ⟨hlast, hpasses⟩
  · intro h
    by_cases hpasses : element.Passes limit
    · exact (h hpasses).1
    · rw [passes_iff hlength] at hpasses
      simp only [lastStart, Descriptor.maxLength]
      omega

end Element

namespace DescriptorTable

/-- The first address that has no room in a narrow entry. -/
def narrowLimit : Nat := 0x100000000

/-- A table of narrow entries is built, and then every chunk begins below the limit, unless there is
no room for it or a chunk begins too high. Nothing else stops the driver: the address after a narrow chunk
is a number of 64 bits. -/
theorem build_narrow {elements : List Element} (hne : elements ≠ [])
    (hlengths : ∀ element ∈ elements, element.length ≠ 0) (memory : Memory) :
    (∃ info table, build elements false memory = .ok (.ok info, table) ∧
      ∀ chunk ∈ elements.flatMap Element.chunks, chunk.address < narrowLimit) ∨
    (∃ table, build elements false memory = .ok (.error .insufficientResources, table) ∧
      memory.size < entrySize false * (elements.flatMap Element.chunks).length) ∨
    (∃ table, build elements false memory = .ok (.error .notSupported, table) ∧
      ∃ chunk ∈ elements.flatMap Element.chunks, narrowLimit ≤ chunk.address) := by
  have hcourse := course_writeChunks false (elements.flatMap Element.chunks) 0 memory
  rw [build_eq false hne hlengths]
  generalize writeChunks false (elements.flatMap Element.chunks) 0 memory = outcome at hcourse ⊢
  cases hcourse with
  | written hpassed => exact .inl ⟨_, _, rfl, hpassed.address_lt⟩
  | @full front rest chunk _ _ hchunks hfront hroom =>
    refine .inr (.inl ⟨_, rfl, ?_⟩)
    rw [hfront.stop_eq] at hroom
    rw [hchunks, List.length_append, List.length_cons, Nat.mul_add, Nat.mul_succ]
    omega
  | @high front rest chunk _ _ hchunks hfront hroom hwide hhigh =>
    exact .inr (.inr ⟨_, rfl, chunk, by simp [hchunks], hhigh⟩)
  | @past front rest chunk _ _ hchunks hfront hroom hlow hend =>
    have hchunk : chunk ∈ elements.flatMap Element.chunks := by simp [hchunks]
    obtain ⟨element, -, hmem⟩ := List.mem_flatMap.mp hchunk
    have hstart := hlow rfl
    have hlength := (Element.length_of_mem_chunks hmem).2
    unfold Descriptor.maxLength at hlength
    omega

/-- The chunks of a list begin below a limit exactly if each run that passes it straddles it. -/
theorem forall_mem_chunks_lt_iff {elements : List Element}
    (hlengths : ∀ element ∈ elements, element.length ≠ 0) (limit : Nat) :
    (∀ chunk ∈ elements.flatMap Element.chunks, chunk.address < limit) ↔
      ∀ element ∈ elements, element.Passes limit → element.Straddles limit := by
  rw [List.forall_mem_flatMap]
  refine forall₂_congr fun element hmem => ?_
  have hlength := hlengths element hmem
  rw [Element.forall_mem_chunks_lt_iff hlength, Element.lastStart_lt_iff hlength]

/-- The bytes of a list lie below a limit exactly if no run passes it. -/
theorem forall_mem_addresses_lt_iff (elements : List Element) (limit : Nat) :
    (∀ address ∈ elements.flatMap Element.addresses, address < limit) ↔
      ∀ element ∈ elements, ¬ element.Passes limit := by
  rw [List.forall_mem_flatMap]
  simp [Element.Passes]

/-- **How far narrow tables reach.** Every list of runs that are not empty is built into a table of
narrow entries or refused, and never stops the driver. Where it is built, all its bytes lie below
4 GiB exactly if no run straddles that limit, and in any case less than a chunk above.

Where there is room for the table, the list is refused exactly if one of its runs passes the limit
without straddling it, and built otherwise. -/
theorem reach_of_narrow_build {elements : List Element} (hne : elements ≠ [])
    (hlengths : ∀ element ∈ elements, element.length ≠ 0) (memory : Memory) :
    ∃ result table, build elements false memory = .ok (result, table) ∧
      (∀ info, result = .ok info →
        (∀ address ∈ elements.flatMap Element.addresses, address < narrowLimit + 0xFFFF) ∧
        ((∀ address ∈ elements.flatMap Element.addresses, address < narrowLimit) ↔
          ∀ element ∈ elements, ¬ element.Straddles narrowLimit)) ∧
      (entrySize false *
          (elements.map fun element => (element.length.toNat + 0xFFFF) / 0x10000).sum ≤ memory.size →
        (result = .error .notSupported ↔
          ∃ element ∈ elements, element.Passes narrowLimit ∧ ¬ element.Straddles narrowLimit) ∧
        ((∃ info, result = .ok info) ↔
          ∀ element ∈ elements, element.Passes narrowLimit → element.Straddles narrowLimit)) := by
  have hstarts := forall_mem_chunks_lt_iff hlengths narrowLimit
  have hcount := length_flatMap_chunks elements
  rcases build_narrow hne hlengths memory with
    ⟨info, table, hbuild, hlow⟩ | ⟨table, hbuild, hsize⟩ | ⟨table, hbuild, chunk, hmem, hhigh⟩
  · have hstraddles := hstarts.mp hlow
    refine ⟨_, table, hbuild, fun _ _ => ⟨?_, ?_⟩, fun _ => ⟨?_, ?_⟩⟩
    · rw [List.forall_mem_flatMap]
      intro element hmem address haddress
      have hlast := (Element.lastStart_lt_iff (hlengths element hmem) _).mpr (hstraddles element hmem)
      exact Element.lt_of_lastStart_lt hlast haddress
    · -- a run that passes the limit is the same here as one that straddles it
      rw [forall_mem_addresses_lt_iff]
      refine forall₂_congr fun element hmem => not_congr ⟨hstraddles element hmem, And.right⟩
    · refine iff_of_false (by simp) ?_
      rintro ⟨element, hmem, hpasses, hnot⟩
      exact hnot (hstraddles element hmem hpasses)
    · exact iff_of_true ⟨info, rfl⟩ hstraddles
  · rw [hcount] at hsize
    exact ⟨_, table, hbuild, by simp, fun hroom => absurd hroom (Nat.not_le.mpr hsize)⟩
  · have hnot : ¬ ∀ element ∈ elements, element.Passes narrowLimit → element.Straddles narrowLimit :=
      fun h => absurd (hstarts.mpr h chunk hmem) (by omega)
    refine ⟨_, table, hbuild, by simp, fun _ => ⟨iff_of_true rfl ?_, iff_of_false (by simp) hnot⟩⟩
    push Not at hnot
    exact hnot

namespace Reaching

/-- Two runs, of which the second needs two entries and ends where narrow addresses end. -/
def elements : List Element :=
  [⟨0x1000, 512⟩, ⟨0xFFFE8000, 0x18000⟩]

end Reaching

/-- A list up to 4 GiB, in a table with room to spare, is built, and no byte is past the limit. -/
theorem reach_of_narrow_build_two_elements :
    ∃ info table,
      build Reaching.elements false (Memory.zeroed 32) = .ok (.ok info, table) ∧
      ∀ address ∈ Reaching.elements.flatMap Element.addresses, address < 0x100000000 := by
  have hlengths : ∀ element ∈ Reaching.elements, element.length ≠ 0 := by decide
  have hpasses : ∀ element ∈ Reaching.elements, ¬ element.Passes narrowLimit := by
    intro element hmem
    rw [Element.passes_iff (hlengths element hmem)]
    revert element
    decide
  obtain ⟨result, table, hbuild, hreach, hroom⟩ :=
    reach_of_narrow_build (by decide) hlengths (Memory.zeroed 32)
  obtain ⟨info, rfl⟩ := (hroom (by decide)).2.mpr fun element hmem h => absurd h (hpasses element hmem)
  refine ⟨info, table, hbuild, (hreach info rfl).2.mpr ?_⟩
  exact fun element hmem h => hpasses element hmem h.2

/-- A run of two bytes, of which the second lies at 4 GiB, is built into a narrow table. -/
theorem built_across_limit :
    ∃ table, build [⟨0xFFFFFFFF, 2⟩] false (Memory.zeroed 8) =
        .ok (.ok { descriptors := 1, totalLength := 2 }, table) ∧
      0x100000000 ∈ Element.addresses ⟨0xFFFFFFFF, 2⟩ :=
  ⟨_, rfl, by decide⟩

end DescriptorTable

end SdHost
