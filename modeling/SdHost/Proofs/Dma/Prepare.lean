import SdHost.Proofs.Dma.Bounce

/-!
# Bounce pages over many transfers

The pages are prepared for one transfer after another, of whatever lengths. Only the descriptor that
ended the table before and the one that ends it now are touched, and still all descriptors are right
each time: the others were right already.

The module introduces:

* `Descriptor.Moves`: what the fields of a descriptor say;
* `BouncePages.prepareAll`: prepare one transfer after another;
* `BouncePages.Prepared`: the pages of a buffer, as a transfer finds them.

`BouncePages.descriptors_of_prepareAll` says what each descriptor of the buffer is after any number of
transfers.
-/

namespace SdHost

open DmaEngine (Entry)

/-- The descriptor has a run of bytes moved, and it ends the table or not. -/
structure Descriptor.Moves (descriptor : Descriptor) (last : Bool) (address bytes : Nat) :
    Prop where
  valid : Descriptor.valid.test descriptor = true
  action_eq : Descriptor.action.get descriptor = Descriptor.moveData
  last_eq : Descriptor.last.test descriptor = last
  address_eq : Descriptor.address.get descriptor = address
  byteLength_eq : Descriptor.byteLength descriptor = bytes

/-- What the engine makes of a descriptor is what its fields say. -/
theorem Descriptor.moves_of_entry {descriptor : Descriptor} {last : Bool} {chunk : Chunk}
    (h : Entry.ofWord descriptor = .moving last chunk) (hpos : 0 < chunk.length)
    (hmax : chunk.length ≤ Descriptor.maxLength) :
    descriptor.Moves last chunk.address chunk.length where
  valid := congrArg Entry.valid h
  action_eq := congrArg Entry.action h
  last_eq := congrArg Entry.last h
  address_eq := congrArg Entry.address h
  byteLength_eq := by
    have hlength : Descriptor.length.get descriptor = chunk.length % 0x10000 :=
      congrArg Entry.length h
    unfold Descriptor.maxLength at hmax
    rw [Descriptor.byteLength, hlength]
    -- the longest run is the one whose length field is zero
    rcases Nat.lt_or_ge chunk.length 0x10000 with hlt | hge
    · obtain ⟨n, hn⟩ := Nat.exists_eq_succ_of_ne_zero hpos.ne'
      rw [Nat.mod_eq_of_lt hlt, hn]
    · rw [Nat.le_antisymm hmax hge]
      rfl

namespace BouncePages

/-- Prepare transfers of the given lengths, one after the other. -/
def prepareAll (pages : BouncePages) (lengths : List Nat) : Except Fault BouncePages :=
  lengths.foldlM prepare pages

/-! ## Descriptors that have no page -/

theorem describePages_beyond {pageAddress : Nat → Word} {busOffset : Word} {count page : Nat}
    {descriptors descriptors' : Array Descriptor}
    (h : describePages pageAddress busOffset count page descriptors = .ok descriptors') {i : Nat}
    (hi : page + count ≤ i) : descriptors'[i]? = descriptors[i]? := by
  induction count generalizing page descriptors with
  | zero =>
    cases h
    rfl
  | succ count ih =>
    rw [describePages] at h
    split at h
    · cases h
    · rw [ih h (by omega), Array.getElem?_setIfInBounds_ne (by omega)]

theorem new_beyond {buffer : BounceBuffer} {busOffset : Word} {pages : BouncePages}
    (h : new buffer busOffset = .ok pages) {i : Nat} (hi : buffer.data.size / pageSize ≤ i) :
    pages.buffer.descriptors[i]? = buffer.descriptors[i]? := by
  rw [new] at h
  split at h
  · cases h
  next hroom =>
  split at h
  · cases h
  split at h
  · cases h
  next descriptors hdescribe =>
  cases h
  -- there is a page, so that the first descriptor is not among those
  have hne : 0 ≠ i := ((Nat.pos_of_ne_zero (not_or.mp hroom).1).trans_le hi).ne
  show (descriptors.modify 0 _)[i]? = _
  rw [Array.getElem?_modify, if_neg hne, describePages_beyond hdescribe (by omega)]

theorem prepare_beyond {pages pages' : BouncePages} {length count : Nat}
    (h : pages.prepare length = .ok pages') (hbefore : pages.endIndex < count)
    (hafter : pages'.endIndex < count) {i : Nat} (hi : count ≤ i) :
    pages'.buffer.descriptors[i]? = pages.buffer.descriptors[i]? := by
  rw [prepare] at h
  split at h
  · cases h
    -- both descriptors that were touched are those of a page
    have hold : pages.endIndex ≠ i := (hbefore.trans_le hi).ne
    have hnew : (length - 1) / pageSize ≠ i := (Nat.lt_of_lt_of_le hafter hi).ne
    show ((pages.buffer.descriptors.modify _ _).modify _ _)[i]? = _
    rw [Array.getElem?_modify, if_neg hnew, Array.getElem?_modify, if_neg hold]
  · cases h

/-! ## One transfer after another -/

/-- The pages are those of a buffer, and they are prepared for a transfer of `length` bytes. Nothing of
the buffer was changed but the descriptors of its pages. -/
structure Prepared (buffer : BounceBuffer) (busOffset : Word) (length : Nat)
    (pages : BouncePages) : Prop where
  covers : pages.Covers length
  buffer_eq : pages.buffer = { buffer with descriptors := pages.buffer.descriptors }
  busOffset_eq : pages.busOffset = busOffset
  beyond : ∀ i, buffer.data.size / pageSize ≤ i →
    pages.buffer.descriptors[i]? = buffer.descriptors[i]?

/-- Fresh pages are prepared for one page. -/
theorem prepared_new {buffer : BounceBuffer} {busOffset : Word} {pages : BouncePages}
    (h : new buffer busOffset = .ok pages) : Prepared buffer busOffset pageSize pages := by
  obtain ⟨hcovers, hoffset, -, -⟩ := covers_new h
  refine ⟨hcovers, ?_, hoffset, fun i hi => new_beyond h hi⟩
  rw [new] at h
  split at h
  · cases h
  split at h
  · cases h
  split at h
  · cases h
  · cases h
    rfl

namespace Prepared

variable {buffer : BounceBuffer} {busOffset : Word} {length before : Nat} {pages : BouncePages}

theorem data_eq (h : Prepared buffer busOffset length pages) :
    pages.buffer.data = buffer.data := by
  rw [h.buffer_eq]

theorem capacity_eq (h : Prepared buffer busOffset length pages) :
    pages.capacity = buffer.data.size / pageSize * pageSize := by
  rw [h.covers.capacity_eq, h.data_eq]

theorem endIndex_lt (h : Prepared buffer busOffset length pages) :
    pages.endIndex < buffer.data.size / pageSize := by
  rw [← h.data_eq]
  exact h.covers.endIndex_lt

/-- A transfer that the pages have room for is prepared, whatever the one before it was. -/
theorem prepare (h : Prepared buffer busOffset before pages) (hpos : 1 ≤ length)
    (hle : length ≤ pages.capacity) :
    ∃ pages', pages.prepare length = .ok pages' ∧ Prepared buffer busOffset length pages' := by
  obtain ⟨descriptors, hprepare, hcovers⟩ := h.covers.prepare hpos hle
  refine ⟨_, hprepare, hcovers, ?_, h.busOffset_eq, fun i hi => ?_⟩
  · rw [h.buffer_eq]
  · have hend := hcovers.endIndex_lt
    rw [show _ = buffer.data.size from congrArg Array.size h.data_eq] at hend
    rw [prepare_beyond hprepare h.endIndex_lt hend hi, h.beyond i hi]

/-- So is any list of transfers, and the last of them is the one that counts. -/
theorem prepareAll (h : Prepared buffer busOffset before pages) {lengths : List Nat}
    (hlengths : ∀ length ∈ lengths, 1 ≤ length ∧ length ≤ pages.capacity) :
    ∃ pages', pages.prepareAll lengths = .ok pages' ∧
      Prepared buffer busOffset (lengths.getLast?.getD before) pages' := by
  induction lengths generalizing pages before with
  | nil => exact ⟨pages, rfl, h⟩
  | cons length lengths ih =>
    obtain ⟨⟨hpos, hle⟩, hrest⟩ := List.forall_mem_cons.mp hlengths
    obtain ⟨next, hprepare, hnext⟩ := h.prepare hpos hle
    -- the pages have as much room as before
    rw [h.capacity_eq, ← hnext.capacity_eq] at hrest
    obtain ⟨pages', hall, hlast⟩ := ih hnext hrest
    refine ⟨pages', ?_, ?_⟩
    · rw [BouncePages.prepareAll, List.foldlM_cons, hprepare]
      exact hall
    · rwa [List.getLast?_cons, Option.getD_some]

/-- The descriptor of a page has the page moved, and the last one what is left for it. -/
theorem moves (h : Prepared buffer busOffset length pages) {page : Nat}
    (hpage : page < buffer.data.size / pageSize) :
    ∃ descriptor, pages.buffer.descriptors[page]? = some descriptor ∧
      descriptor.Moves (decide (page = pages.endIndex))
        ((buffer.pageAddress page).toNat + busOffset.toNat)
        (if page = pages.endIndex then length - pageSize * pages.endIndex else pageSize) := by
  obtain ⟨descriptor, hat, hentry⟩ := h.covers.entry_eq page (by rwa [h.data_eq])
  obtain ⟨htail, htail'⟩ := h.covers.tail_le
  have haddress : pages.buffer.pageAddress = buffer.pageAddress := by rw [h.buffer_eq]
  have hpageSize : pageSize ≤ Descriptor.maxLength := by decide
  refine ⟨descriptor, hat, ?_⟩
  rw [Nat.mul_comm pageSize, ← haddress, ← h.busOffset_eq]
  refine Descriptor.moves_of_entry hentry ?_ ?_ <;> dsimp only [pageStart] <;> split
  · exact htail
  · decide
  · exact htail'.trans hpageSize
  · exact hpageSize

/-- Together the descriptors up to the end mark have as many bytes moved as the transfer has. -/
theorem sum_byteLength (h : Prepared buffer busOffset length pages) :
    ∑ page ∈ Finset.range (pages.endIndex + 1),
      (pages.buffer.descriptors[page]?.map Descriptor.byteLength).getD 0 = length := by
  have hbytes : ∀ page ≤ pages.endIndex,
      (pages.buffer.descriptors[page]?.map Descriptor.byteLength).getD 0 =
        if page = pages.endIndex then length - pageSize * pages.endIndex else pageSize := by
    intro page hle
    obtain ⟨descriptor, hat, hmoves⟩ := h.moves (hle.trans_lt h.endIndex_lt)
    rw [hat, Option.map_some, Option.getD_some, hmoves.byteLength_eq]
  have hwhole : ∑ page ∈ Finset.range pages.endIndex,
      (pages.buffer.descriptors[page]?.map Descriptor.byteLength).getD 0 =
        pageSize * pages.endIndex := by
    rw [Finset.sum_congr rfl fun page hpage => ?_, Finset.sum_const, Finset.card_range,
      smul_eq_mul, Nat.mul_comm]
    have hlt := Finset.mem_range.mp hpage
    rw [hbytes page hlt.le, if_neg hlt.ne]
  have htail := h.covers.tail_le.1
  rw [Finset.sum_range_succ, hwhole, hbytes _ le_rfl, if_pos rfl, Nat.mul_comm pageSize]
  omega

end Prepared

/-- **What the descriptors are after any transfers.** Take fresh bounce pages, and transfers of any
lengths that they have room for, prepared one after the other. Each of them is prepared. Afterwards the
descriptor of every page has that page moved, at the address that the controller knows it by, which
is a word. Just one of them ends the table, and it is for what is left of the last transfer; all
others are for their whole pages. Descriptors without a page are those that the buffer came with. -/
theorem descriptors_of_prepareAll {buffer : BounceBuffer} {busOffset : Word} {fresh : BouncePages}
    (hnew : new buffer busOffset = .ok fresh) {lengths : List Nat}
    (hlengths : ∀ length ∈ lengths, 1 ≤ length ∧ length ≤ fresh.capacity) :
    ∃ pages, fresh.prepareAll lengths = .ok pages ∧ pages.capacity = fresh.capacity ∧
      pages.endIndex = (lengths.getLast?.getD pageSize - 1) / pageSize ∧
      pages.endIndex < pages.capacity / pageSize ∧
      (∀ page < pages.capacity / pageSize, ∃ descriptor,
        pages.buffer.descriptors[page]? = some descriptor ∧
        Descriptor.valid.test descriptor = true ∧
        Descriptor.action.get descriptor = Descriptor.moveData ∧
        Descriptor.address.get descriptor =
          (buffer.pageAddress page).toNat + busOffset.toNat ∧
        (Descriptor.last.test descriptor = true ↔ page = pages.endIndex) ∧
        Descriptor.byteLength descriptor =
          if page = pages.endIndex then
            lengths.getLast?.getD pageSize - pageSize * pages.endIndex
          else pageSize) ∧
      (∀ i, pages.capacity / pageSize ≤ i →
        pages.buffer.descriptors[i]? = buffer.descriptors[i]?) ∧
      ∑ page ∈ Finset.range (pages.endIndex + 1),
        (pages.buffer.descriptors[page]?.map Descriptor.byteLength).getD 0 =
          lengths.getLast?.getD pageSize := by
  have hfresh := prepared_new hnew
  obtain ⟨pages, hall, hpages⟩ := hfresh.prepareAll hlengths
  have hcount : pages.capacity / pageSize = buffer.data.size / pageSize := by
    rw [hpages.capacity_eq, Nat.mul_div_cancel _ (by decide)]
  refine ⟨pages, hall, ?_, hpages.covers.endIndex_eq, ?_, ?_, ?_, hpages.sum_byteLength⟩
  · rw [hpages.capacity_eq, hfresh.capacity_eq]
  all_goals rw [hcount]
  · exact hpages.endIndex_lt
  · intro page hpage
    obtain ⟨descriptor, hat, hmoves⟩ := hpages.moves hpage
    refine ⟨descriptor, hat, hmoves.valid, hmoves.action_eq, hmoves.address_eq, ?_,
      hmoves.byteLength_eq⟩
    rw [hmoves.last_eq, decide_eq_true_eq]
  · exact hpages.beyond

namespace TwoPages

/-- A buffer of two pages, with a descriptor to spare. -/
def buffer : BounceBuffer where
  data := Memory.zeroed (2 * pageSize)
  pageAddress page := 0x08000000 + BitVec.ofNat 32 (pageSize * page)
  descriptors := #[0, 0, 0]
  descriptorAddress := 0x09000000
  handle := 0

/-- Its pages, taken into use. -/
def fresh : BouncePages where
  buffer := { buffer with
    descriptors := #[Descriptor.last.put true (Descriptor.transfer 0xC8000000 pageSize),
      Descriptor.transfer 0xC8001000 pageSize, 0] }
  capacity := 2 * pageSize
  endIndex := 0
  busOffset := 0xC0000000

theorem new_fresh : new buffer 0xC0000000 = .ok fresh := by
  have hsize : buffer.data.size = 2 * pageSize := Array.size_replicate
  have htwo : 2 * pageSize / pageSize = 2 := Nat.mul_div_cancel 2 (by decide)
  simp only [new, hsize, htwo]
  rfl

end TwoPages

/-- A transfer that reaches into the second page, and then one of three bytes. -/
theorem descriptors_of_prepareAll_two_pages :
    new TwoPages.buffer 0xC0000000 = .ok TwoPages.fresh ∧
      (∀ length ∈ [5000, 3], 1 ≤ length ∧ length ≤ TwoPages.fresh.capacity) ∧
      ∃ pages first second, TwoPages.fresh.prepareAll [5000, 3] = .ok pages ∧
        pages.buffer.descriptors[0]? = some first ∧
        Descriptor.last.test first = true ∧ Descriptor.byteLength first = 3 ∧
        pages.buffer.descriptors[1]? = some second ∧
        Descriptor.last.test second = false ∧ Descriptor.byteLength second = pageSize ∧
        pages.buffer.descriptors[2]? = some 0 := by
  have hlengths : ∀ length ∈ [5000, 3], 1 ≤ length ∧ length ≤ TwoPages.fresh.capacity := by
    decide
  obtain ⟨pages, hall, hcapacity, hend, -, hpages, hbeyond, -⟩ :=
    descriptors_of_prepareAll TwoPages.new_fresh hlengths
  have hcount : pages.capacity / pageSize = 2 := by
    rw [hcapacity]
    rfl
  have hfirst : pages.endIndex = 0 := hend
  rw [hcount, hfirst] at hpages
  rw [hcount] at hbeyond
  obtain ⟨first, hfirst, -, -, -, hlast, hthree⟩ := hpages 0 (by decide)
  obtain ⟨second, hsecond, -, -, -, hnot, hwhole⟩ := hpages 1 (by decide)
  refine ⟨TwoPages.new_fresh, hlengths, pages, first, second, hall, hfirst, hlast.mpr rfl, hthree,
    hsecond, ?_, hwhole, hbeyond 2 le_rfl⟩
  simpa using hnot

end BouncePages

end SdHost
