import SdHost.Dma.Bounce
import SdHost.Proofs.Dma.Engine

/-!
# What bounce pages stand for

At any time the descriptors of bounce pages are a table for the first bytes of the pages, as many as
the last transfer had. Preparing a transfer of another length makes them a table for that length,
whatever the length was before.

The module introduces:

* `BounceBuffer.Usable`: the buffers that can be taken into use;
* `BouncePages.busAddress`: where the controller finds a byte of the pages;
* `BouncePages.Covers length`: the descriptors are a table for the first `length` bytes.

Main statements:

* `BouncePages.covers_new`: fresh pages are a table for their first page;
* `BouncePages.exists_new_iff`: a buffer is taken into use just if it can be;
* `BouncePages.Covers.prepare`: what preparing a transfer makes of the table;
* `BouncePages.Covers.walk`: the engine visits the bytes that are covered, in order and once each.
-/

namespace SdHost

open DmaEngine (Entry)

/-- A buffer that can be taken into use: it has a whole page and a descriptor for every page, and the
controller can be told where its descriptors and its pages are, at an offset to the addresses of the
processor. -/
structure BounceBuffer.Usable (buffer : BounceBuffer) (busOffset : Word) : Prop where
  /-- There is a whole page. -/
  pages_pos : 0 < buffer.data.size / pageSize
  /-- There are enough descriptors. -/
  pages_le : buffer.data.size / pageSize ≤ buffer.descriptors.size
  /-- The address of the descriptors can be told in a word. -/
  descriptorAddress_lt : buffer.descriptorAddress.toNat + busOffset.toNat < 2 ^ 32
  /-- So can the addresses of all pages. -/
  pageAddress_lt : ∀ page < buffer.data.size / pageSize,
    (buffer.pageAddress page).toNat + busOffset.toNat < 2 ^ 32

namespace BouncePages

/-- Bus address of a byte of the data pages. -/
def busAddress (pages : BouncePages) (i : Nat) : Nat :=
  (pages.buffer.pageAddress (i / pageSize)).toNat + pages.busOffset.toNat + i % pageSize

/-- The first `count` bytes of a page, as the controller finds them. -/
def pageStart (pages : BouncePages) (page count : Nat) : Chunk where
  address := (pages.buffer.pageAddress page).toNat + pages.busOffset.toNat
  length := count

/-- The descriptors are a table for the first `length` bytes of the data pages. -/
structure Covers (pages : BouncePages) (length : Nat) : Prop where
  /-- There is something to cover. -/
  length_pos : 0 < length
  /-- The pages have room for it. -/
  length_le : length ≤ pages.capacity
  /-- The pages are whole ones. -/
  capacity_eq : pages.capacity = pages.buffer.data.size / pageSize * pageSize
  /-- There is a descriptor for each of them. -/
  size_le : pages.buffer.data.size / pageSize ≤ pages.buffer.descriptors.size
  /-- The descriptor of the page with the last byte ends the table. -/
  endIndex_eq : pages.endIndex = (length - 1) / pageSize
  /-- The controller can be told where each page is. -/
  pageAddress_lt : ∀ page < pages.buffer.data.size / pageSize,
    (pages.buffer.pageAddress page).toNat + pages.busOffset.toNat < 2 ^ 32
  /-- It can be told where the table is. -/
  descriptorAddress_lt : pages.buffer.descriptorAddress.toNat + pages.busOffset.toNat < 2 ^ 32
  /-- The descriptors before the last cover their whole pages, those after it would, and the last
  covers what is left. -/
  entry_eq : ∀ page < pages.buffer.data.size / pageSize, ∃ descriptor,
    pages.buffer.descriptors[page]? = some descriptor ∧
      Entry.ofWord descriptor = .moving (decide (page = pages.endIndex))
        (pages.pageStart page
          (if page = pages.endIndex then length - pages.endIndex * pageSize else pageSize))

/-! ## Fresh pages -/

theorem toNat_of_checkedAdd {a b sum : Word} (h : a.checkedAdd b = some sum) :
    a.toNat + b.toNat < 2 ^ 32 ∧ sum.toNat = a.toNat + b.toNat := by
  rw [Word.checkedAdd] at h
  split at h
  next hlt =>
    cases h
    exact ⟨hlt, by rw [BitVec.toNat_add, Nat.mod_eq_of_lt hlt]⟩
  next => cases h

/-- Describing pages replaces their descriptors and leaves the others alone. -/
theorem describePages_ok {pageAddress : Nat → Word} {busOffset : Word} {count page : Nat}
    {descriptors descriptors' : Array Descriptor}
    (h : describePages pageAddress busOffset count page descriptors = .ok descriptors')
    (hroom : page + count ≤ descriptors.size) :
    descriptors'.size = descriptors.size ∧
      (∀ i < page, descriptors'[i]? = descriptors[i]?) ∧
      ∀ i, page ≤ i → i < page + count → ∃ descriptor, descriptors'[i]? = some descriptor ∧
        (pageAddress i).toNat + busOffset.toNat < 2 ^ 32 ∧
        Entry.ofWord descriptor = .moving false
          { address := (pageAddress i).toNat + busOffset.toNat, length := pageSize } := by
  induction count generalizing page descriptors with
  | zero =>
    cases h
    exact ⟨rfl, fun _ _ => rfl, fun i hle hlt => by omega⟩
  | succ count ih =>
    rw [describePages] at h
    split at h
    · cases h
    next address haddress =>
    obtain ⟨hlt, hnat⟩ := toNat_of_checkedAdd haddress
    -- the pages after this one are described by the rest of the run, which leaves this one alone
    obtain ⟨hsize, hbefore, hafter⟩ := ih h (by rw [Array.size_setIfInBounds]; omega)
    rw [Array.size_setIfInBounds] at hsize
    refine ⟨hsize, fun i hi => ?_, fun i hle hi => ?_⟩
    · rw [hbefore i (by omega), Array.getElem?_setIfInBounds_ne (by omega)]
    · rcases Nat.eq_or_lt_of_le hle with rfl | hgt
      · -- this is the page that was just described
        refine ⟨Descriptor.transfer address pageSize, ?_, hlt, ?_⟩
        · rw [hbefore page (by omega), Array.getElem?_setIfInBounds_self_of_lt (by omega)]
        · rw [Entry.ofWord_transfer, hnat]
      -- the others come later in the run
      · exact hafter i hgt (by omega)

/-- Fresh pages are a table for their first page. -/
theorem covers_new {buffer : BounceBuffer} {busOffset : Word} {pages : BouncePages}
    (h : new buffer busOffset = .ok pages) :
    pages.Covers pageSize ∧ pages.busOffset = busOffset ∧
      pages.capacity = buffer.data.size / pageSize * pageSize ∧
      pages.buffer.data = buffer.data := by
  rw [new] at h
  split at h
  · cases h
  next hroom =>
  split at h
  · cases h
  next table htable =>
  split at h
  · cases h
  next descriptors hdescribe =>
  cases h
  -- nothing was refused, so that there is a page and there are as many descriptors as pages
  obtain ⟨hpages, hcount⟩ := not_or.mp hroom
  obtain ⟨hsize, -, hentries⟩ := describePages_ok hdescribe
    (by rw [Nat.zero_add]; exact Nat.le_of_not_lt hcount)
  have hall : ∀ page < buffer.data.size / pageSize, page < 0 + buffer.data.size / pageSize :=
    fun page hpage => (Nat.zero_add _).symm ▸ hpage
  refine ⟨?_, rfl, rfl, rfl⟩
  exact {
    length_pos := by decide
    length_le := Nat.le_mul_of_pos_left _ (Nat.pos_of_ne_zero hpages)
    capacity_eq := rfl
    size_le := by
      show _ ≤ (descriptors.modify 0 _).size
      rw [Array.size_modify, hsize]
      exact Nat.le_of_not_lt hcount
    endIndex_eq := rfl
    pageAddress_lt := fun page hpage => by
      obtain ⟨_, _, hlt, _⟩ := hentries page (Nat.zero_le _) (hall page hpage)
      exact hlt
    descriptorAddress_lt := (toNat_of_checkedAdd htable).1
    entry_eq := fun page hpage => by
      obtain ⟨descriptor, hat, -, hentry⟩ := hentries page (Nat.zero_le _) (hall page hpage)
      rcases Nat.eq_zero_or_pos page with rfl | hpos
      · -- the first page carries the mark
        refine ⟨Descriptor.last.put true descriptor, ?_, ?_⟩
        · show (descriptors.modify 0 _)[0]? = _
          rw [Array.getElem?_modify, if_pos rfl, hat, Option.map_some]
        · rw [Entry.ofWord_put_last hentry true, if_pos rfl, Nat.zero_mul, Nat.sub_zero,
            decide_eq_true rfl, pageStart]
      · have hne : page ≠ 0 := hpos.ne'
        refine ⟨descriptor, ?_, ?_⟩
        · show (descriptors.modify 0 _)[page]? = _
          rw [Array.getElem?_modify, if_neg hpos.ne, hat]
        · rw [hentry, if_neg hne, decide_eq_false hne, pageStart] }

theorem checkedAdd_of_lt {a b : Word} (h : a.toNat + b.toNat < 2 ^ 32) :
    a.checkedAdd b = some (a + b) :=
  if_pos h

theorem exists_describePages {pageAddress : Nat → Word} {busOffset : Word} {count page : Nat}
    (h : ∀ i, page ≤ i → i < page + count →
      (pageAddress i).toNat + busOffset.toNat < 2 ^ 32) (descriptors : Array Descriptor) :
    ∃ descriptors', describePages pageAddress busOffset count page descriptors =
      .ok descriptors' := by
  induction count generalizing page descriptors with
  | zero => exact ⟨descriptors, rfl⟩
  | succ count ih =>
    rw [describePages, checkedAdd_of_lt (h page (Nat.le_refl _) (by omega))]
    exact ih (fun i hle hlt => h i (by omega) (by omega)) _

/-- The buffers that can be taken into use are those that are. -/
theorem exists_new_iff {buffer : BounceBuffer} {busOffset : Word} :
    (∃ pages, new buffer busOffset = .ok pages) ↔ buffer.Usable busOffset := by
  constructor
  · rintro ⟨pages, hnew⟩
    have hcovers := (covers_new hnew).1
    rw [new] at hnew
    split at hnew
    · cases hnew
    next hroom =>
    split at hnew
    · cases hnew
    split at hnew
    · cases hnew
    cases hnew
    obtain ⟨hpages, hcount⟩ := not_or.mp hroom
    exact ⟨Nat.pos_of_ne_zero hpages, Nat.le_of_not_lt hcount, hcovers.descriptorAddress_lt,
      hcovers.pageAddress_lt⟩
  · intro h
    have hroom : ¬ (buffer.data.size / pageSize = 0 ∨
        buffer.descriptors.size < buffer.data.size / pageSize) :=
      not_or.mpr ⟨h.pages_pos.ne', Nat.not_lt.mpr h.pages_le⟩
    have haddress : ∀ i, 0 ≤ i → i < 0 + buffer.data.size / pageSize →
        (buffer.pageAddress i).toNat + busOffset.toNat < 2 ^ 32 :=
      fun i _ hi => h.pageAddress_lt i (by rwa [Nat.zero_add] at hi)
    obtain ⟨descriptors, hdescribe⟩ := exists_describePages haddress buffer.descriptors
    simp only [new, if_neg hroom, checkedAdd_of_lt h.descriptorAddress_lt, hdescribe]
    exact ⟨_, rfl⟩

/-! ## Preparing a transfer -/

namespace Covers

variable {pages : BouncePages} {length : Nat}

/-- Once the descriptor that ended the table is restored, each descriptor is for its whole page, and
none ends the table. -/
theorem restored (h : pages.Covers length) {page : Nat}
    (hpage : page < pages.buffer.data.size / pageSize) :
    ∃ descriptor,
      (pages.buffer.descriptors.modify pages.endIndex fun descriptor =>
        Descriptor.withByteLength pageSize (Descriptor.last.put false descriptor))[page]? =
          some descriptor ∧
      Entry.ofWord descriptor = .moving false (pages.pageStart page pageSize) := by
  obtain ⟨descriptor, hat, hentry⟩ := h.entry_eq page hpage
  rw [Array.getElem?_modify, hat]
  by_cases hend : page = pages.endIndex
  · rw [if_pos hend.symm, Option.map_some]
    -- whatever its length was, it is a whole page again
    refine ⟨_, rfl, ?_⟩
    exact Entry.ofWord_withByteLength (Entry.ofWord_put_last hentry false) pageSize
  · rw [if_neg (Ne.symm hend)]
    refine ⟨descriptor, rfl, ?_⟩
    rw [hentry, if_neg hend, decide_eq_false hend]

/-- Preparing a transfer of any length that the pages have room for makes a table for it, whatever
the length was before, and changes nothing but the descriptors. -/
theorem prepare {before : Nat} (h : pages.Covers before) (hpos : 0 < length)
    (hle : length ≤ pages.capacity) :
    ∃ descriptors,
      pages.prepare length = .ok { pages with
        buffer := { pages.buffer with descriptors }
        endIndex := (length - 1) / pageSize } ∧
      Covers { pages with
        buffer := { pages.buffer with descriptors }
        endIndex := (length - 1) / pageSize } length := by
  have hprepare : pages.prepare length = .ok { pages with
      buffer := { pages.buffer with
        descriptors := (pages.buffer.descriptors.modify pages.endIndex fun descriptor =>
          Descriptor.withByteLength pageSize (Descriptor.last.put false descriptor)).modify
            ((length - 1) / pageSize) fun descriptor =>
              Descriptor.withByteLength (length - (length - 1) / pageSize * pageSize)
                (Descriptor.last.put true descriptor) }
      endIndex := (length - 1) / pageSize } := if_pos ⟨hpos, hle⟩
  refine ⟨_, hprepare, ?_⟩
  exact {
    length_pos := hpos
    length_le := hle
    capacity_eq := h.capacity_eq
    size_le := by
      show _ ≤ ((pages.buffer.descriptors.modify _ _).modify _ _).size
      rw [Array.size_modify, Array.size_modify]
      exact h.size_le
    endIndex_eq := rfl
    pageAddress_lt := h.pageAddress_lt
    descriptorAddress_lt := h.descriptorAddress_lt
    entry_eq := fun page hpage => by
      -- by now no descriptor ends the table, so that the old mark cannot stay behind
      obtain ⟨descriptor, hat, hentry⟩ := h.restored hpage
      show ∃ _, ((pages.buffer.descriptors.modify _ _).modify _ _)[page]? = some _ ∧ _
      rw [Array.getElem?_modify, hat]
      by_cases hend : page = (length - 1) / pageSize
      · -- the mark goes here, whether it was here before or not
        rw [if_pos hend.symm, Option.map_some]
        refine ⟨_, rfl, ?_⟩
        rw [if_pos hend, decide_eq_true hend]
        exact Entry.ofWord_withByteLength (Entry.ofWord_put_last hentry true) _
      · rw [if_neg (Ne.symm hend)]
        refine ⟨descriptor, rfl, ?_⟩
        rw [hentry, if_neg hend, decide_eq_false hend]
        rfl }

theorem of_prepare {before : Nat} {pages' : BouncePages} (h : pages.Covers before)
    (hprepare : pages.prepare length = .ok pages') :
    pages'.Covers length ∧ pages'.buffer.data = pages.buffer.data ∧
      pages'.busOffset = pages.busOffset := by
  by_cases hroom : 0 < length ∧ length ≤ pages.capacity
  · obtain ⟨descriptors, hok, hcovers⟩ := h.prepare hroom.1 hroom.2
    rw [hok] at hprepare
    cases hprepare
    exact ⟨hcovers, rfl, rfl⟩
  · rw [BouncePages.prepare, if_neg hroom] at hprepare
    cases hprepare

theorem store_data (h : pages.Covers length) {data : Memory}
    (hsize : data.size = pages.buffer.data.size) :
    Covers { pages with buffer := { pages.buffer with data } } length where
  length_pos := h.length_pos
  length_le := h.length_le
  capacity_eq := hsize ▸ h.capacity_eq
  size_le := hsize ▸ h.size_le
  endIndex_eq := h.endIndex_eq
  pageAddress_lt := hsize ▸ h.pageAddress_lt
  descriptorAddress_lt := h.descriptorAddress_lt
  entry_eq := hsize ▸ h.entry_eq

theorem length_le_size (h : pages.Covers length) : length ≤ pages.buffer.data.size := by
  have hle := h.length_le
  rw [h.capacity_eq] at hle
  exact hle.trans (Nat.div_mul_le_self _ _)

/-! ## What the engine visits -/

theorem endIndex_lt (h : pages.Covers length) :
    pages.endIndex < pages.buffer.data.size / pageSize := by
  have hle := h.length_le
  rw [h.capacity_eq] at hle
  rw [h.endIndex_eq]
  have hpos := h.length_pos
  exact Nat.div_lt_of_lt_mul (by rw [Nat.mul_comm]; omega)

theorem addresses_pageStart (pages : BouncePages) {count : Nat} (hcount : count ≤ pageSize)
    (page : Nat) :
    (pages.pageStart page count).addresses =
      (List.range count).map fun i => pages.busAddress (pageSize * page + i) := by
  refine List.map_congr_left fun i hi => ?_
  have hlt : i < pageSize := (List.mem_range.mp hi).trans_le hcount
  show _ = (pages.buffer.pageAddress ((pageSize * page + i) / pageSize)).toNat +
    pages.busOffset.toNat + (pageSize * page + i) % pageSize
  rw [Nat.mul_add_div (by decide), Nat.mul_add_mod, Nat.div_eq_of_lt hlt, Nat.mod_eq_of_lt hlt,
    Nat.add_zero]
  rfl

/-- The last page that is covered is covered up to the last byte, and those before it as a whole. -/
theorem tail_le (h : pages.Covers length) :
    0 < length - pages.endIndex * pageSize ∧ length - pages.endIndex * pageSize ≤ pageSize := by
  have hpos := h.length_pos
  have hend := h.endIndex_eq
  unfold pageSize at *
  omega

/-- Whole pages up to the last, and the start of the last, are all bytes that are covered. -/
theorem flatMap_pageStart (h : pages.Covers length) :
    ((List.range pages.endIndex).map (fun page => pages.pageStart page pageSize) ++
      [pages.pageStart pages.endIndex (length - pages.endIndex * pageSize)]).flatMap
        Chunk.addresses = (List.range length).map pages.busAddress := by
  have hpos := h.length_pos
  have hend := h.endIndex_eq
  have hpieces : (length + (pageSize - 1)) / pageSize = pages.endIndex + 1 := by
    unfold pageSize at *
    omega
  have htail : min pageSize (length - pageSize * pages.endIndex) =
      length - pages.endIndex * pageSize := by
    unfold pageSize at *
    omega
  have hwhole : ∀ page < pages.endIndex,
      min pageSize (length - pageSize * page) = pageSize := by
    intro page hlt
    unfold pageSize at *
    omega
  have hfront : (List.range pages.endIndex).flatMap
      (fun page => (pages.pageStart page pageSize).addresses) =
      (List.range pages.endIndex).flatMap fun page =>
        (List.range (min pageSize (length - pageSize * page))).map fun i =>
          pages.busAddress (pageSize * page + i) := by
    refine List.flatMap_congr fun page hmem => ?_
    rw [hwhole page (List.mem_range.mp hmem), addresses_pageStart pages (Nat.le_refl _)]
  -- the bytes split into pages, of which all but the last are whole
  rw [List.map_range_eq_flatMap_pieces pageSize (by decide) length, hpieces, List.range_succ,
    List.flatMap_append, List.flatMap_append, List.flatMap_singleton, List.flatMap_singleton,
    List.flatMap_map, htail, addresses_pageStart pages h.tail_le.2, hfront]

theorem entries_eq (h : pages.Covers length) :
    ∃ rest, pages.buffer.descriptors.toList.map Entry.ofWord =
      ((List.range pages.endIndex).map fun page => pages.pageStart page pageSize).map
        (.moving false) ++
      Entry.moving true
        (pages.pageStart pages.endIndex (length - pages.endIndex * pageSize)) :: rest := by
  have hlt := h.endIndex_lt
  refine ⟨(pages.buffer.descriptors.toList.drop (pages.endIndex + 1)).map Entry.ofWord, ?_⟩
  apply List.ext_getElem?
  intro i
  rw [List.getElem?_map, Array.getElem?_toList]
  rcases Nat.lt_trichotomy i pages.endIndex with hi | rfl | hi
  · -- before the end mark
    obtain ⟨descriptor, hat, hentry⟩ := h.entry_eq i (by omega)
    rw [List.getElem?_append_left (by simpa using hi), List.getElem?_map, List.getElem?_map,
      List.getElem?_range hi, hat, Option.map_some, hentry, if_neg hi.ne, decide_eq_false hi.ne]
    rfl
  · obtain ⟨descriptor, hat, hentry⟩ := h.entry_eq pages.endIndex hlt
    rw [List.getElem?_append_right (by simp), hat, Option.map_some, hentry, if_pos rfl,
      decide_eq_true rfl]
    simp
  · -- whatever comes after it
    obtain ⟨k, rfl⟩ : ∃ k, i = pages.endIndex + 1 + k := ⟨i - (pages.endIndex + 1), by omega⟩
    have hskip : pages.endIndex + 1 + k - pages.endIndex = k + 1 := by omega
    rw [List.getElem?_append_right (by simp; omega), List.length_map, List.length_map,
      List.length_range, hskip, List.getElem?_cons_succ, List.getElem?_map, List.getElem?_drop,
      Array.getElem?_toList]

/-- The engine that follows the table visits the bytes that are covered, in order and once each. -/
theorem walk (h : pages.Covers length) :
    (DmaEngine.walk (DmaEngine.entries Descriptor.size32 pages.buffer.descriptors.size
      (pages.buffer.descriptors.toList.flatMap Descriptor.toBytes))).map
        (fun chunks => chunks.flatMap Chunk.addresses) =
      some ((List.range length).map pages.busAddress) := by
  have hsize : ∀ descriptor ∈ pages.buffer.descriptors.toList,
      (Descriptor.toBytes descriptor).length = Descriptor.size32 :=
    fun descriptor _ => LittleEndian.length_bytes _ _
  have hentries := DmaEngine.entries_flatMap pages.buffer.descriptors.toList hsize []
  obtain ⟨rest, hrest⟩ := h.entries_eq
  simp only [List.append_nil, Entry.ofBytes_toBytes, hrest] at hentries
  -- no entry is empty, nor too long for its field
  have hlengths : ∀ chunk ∈ (List.range pages.endIndex).map
      (fun page => pages.pageStart page pageSize) ++
      [pages.pageStart pages.endIndex (length - pages.endIndex * pageSize)],
      0 < chunk.length ∧ chunk.length ≤ Descriptor.maxLength := by
    intro chunk hmem
    rcases List.mem_append.mp hmem with hfront | hfinal
    · obtain ⟨page, -, rfl⟩ := List.mem_map.mp hfront
      show 0 < pageSize ∧ pageSize ≤ Descriptor.maxLength
      decide
    · rw [List.mem_singleton.mp hfinal]
      obtain ⟨hpos, hle⟩ := h.tail_le
      exact ⟨hpos, hle.trans (by decide)⟩
  rw [← Array.length_toList, hentries, DmaEngine.walk_append_last rest hlengths, Option.map_some,
    h.flatMap_pageStart]

/-- So the engine moves as many bytes as are covered. -/
theorem total (h : pages.Covers length) :
    DmaEngine.total (DmaEngine.entries Descriptor.size32 pages.buffer.descriptors.size
      (pages.buffer.descriptors.toList.flatMap Descriptor.toBytes)) = some length := by
  have hcount := congrArg (Option.map List.length) h.walk
  rwa [Option.map_map, Option.map_some, List.length_map, List.length_range] at hcount

theorem toNat_tableAddress (h : pages.Covers length) :
    pages.tableAddress.toNat =
      pages.buffer.descriptorAddress.toNat + pages.busOffset.toNat := by
  rw [tableAddress, BitVec.toNat_add, Nat.mod_eq_of_lt h.descriptorAddress_lt]

end Covers

end BouncePages

end SdHost
