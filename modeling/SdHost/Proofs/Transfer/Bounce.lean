import SdHost.Proofs.Dma.Bounce
import SdHost.Proofs.Transfer.Invariant
import SdHost.Proofs.Transfer.Steps

/-!
# Data phases through the bounce pages

Where the controller cannot reach the buffer of a request, the data goes through pages that it can
reach. Whatever went through them before, they are set up for exactly the data phase at hand.

The module introduces:

* `Slot.PagesCover`: the pages of a slot are a table, whoever used them last;
* `Slot.Repaged`: what a step may change about the pages of a slot;
* `Slot.BounceReady`: the pages of a slot of the BCM2711 controller are in order;
* `Transfer.PagesReady`: the pages are set up for the data phase of a command;
* `Transfer.PioPhase`: how a data phase that the processor should move can come to be set up.

Main statements:

* `Transfer.ensures_setUpPio`: what setting up such a data phase does to the slot and the registers;
* `Transfer.bounceReady_step`: no step of a request brings the pages of the slot out of order.
-/

namespace SdHost

/-- The bounce pages of the slot, if it has any, are a table for some of their bytes. -/
def Slot.PagesCover (slot : Slot) : Prop :=
  ∀ pages, slot.bounce = some pages → ∃ length, pages.Covers length

/-- The slot differs from an earlier one in its bounce pages only, and in what goes through them. -/
def Slot.SameButPages (slot slot' : Slot) : Prop :=
  slot' = { slot with bounce := slot'.bounce, bounceInProgress := slot'.bounceInProgress }

theorem Slot.SameButPages.trans {slot slot' slot'' : Slot} (h : slot.SameButPages slot')
    (h' : slot'.SameButPages slot'') : slot.SameButPages slot'' := by
  rw [SameButPages] at h h' ⊢
  rw [h', h]

/-- Such a slot has pages that are a table, at the addresses of the earlier ones or at those that new
pages get. -/
structure Slot.Repaged (slot slot' : Slot) : Prop where
  /-- Nothing else was changed. -/
  slot_eq : slot.SameButPages slot'
  /-- The pages are a table. -/
  covers : slot'.PagesCover
  /-- The pages were set up with an offset that was there before. -/
  busOffset_eq : ∀ pages, slot'.bounce = some pages → pages.busOffset = slot.busOffset ∨
    ∃ before, slot.bounce = some before ∧ pages.busOffset = before.busOffset

namespace Slot.Repaged

variable {slot slot' slot'' : Slot}

/-- What goes through the pages does not matter to them. -/
theorem of_progress (h : slot.PagesCover) (progress : Option Direction) :
    slot.Repaged { slot with bounceInProgress := progress } :=
  ⟨rfl, h, fun pages hpages => .inr ⟨pages, hpages, rfl⟩⟩

theorem refl (h : slot.PagesCover) : slot.Repaged slot :=
  of_progress h slot.bounceInProgress

/-- Pages that were set up with the offset of the slot take the place of those that are there. -/
theorem of_new {pages : BouncePages} {length : Nat} (hcovers : pages.Covers length)
    (hoffset : pages.busOffset = slot.busOffset) :
    slot.Repaged { slot with bounce := some pages } := by
  refine ⟨rfl, ?_, ?_⟩
  · rintro _ ⟨⟩
    exact ⟨length, hcovers⟩
  · rintro _ ⟨⟩
    exact .inl hoffset

/-- Pages that were made from those that are there take their place. -/
theorem of_prepared {pages pages' : BouncePages} {length : Nat} {progress : Option Direction}
    (hpages : slot.bounce = some pages) (hcovers : pages'.Covers length)
    (hoffset : pages'.busOffset = pages.busOffset) :
    slot.Repaged { slot with bounce := some pages', bounceInProgress := progress } := by
  refine ⟨rfl, ?_, ?_⟩
  · rintro _ ⟨⟩
    exact ⟨length, hcovers⟩
  · rintro _ ⟨⟩
    exact .inr ⟨pages, hpages, hoffset⟩

theorem trans (h : slot.Repaged slot') (h' : slot'.Repaged slot'') : slot.Repaged slot'' := by
  refine ⟨h.slot_eq.trans h'.slot_eq, h'.covers, fun pages hpages => ?_⟩
  have hslot : slot'.busOffset = slot.busOffset := by rw [h.slot_eq]
  rcases h'.busOffset_eq pages hpages with hoffset | ⟨before, hbefore, hoffset⟩
  · exact .inl (hoffset.trans hslot)
  · -- the pages before were those of the slot, or new ones themselves
    rw [hoffset]
    exact h.busOffset_eq before hbefore

end Slot.Repaged

/-- A slot of the BCM2711 controller whose bounce pages, if it has any, are a table for some of their
bytes, at the addresses that the controller knows them by. -/
structure Slot.BounceReady (revision : Word) (slot : Slot) : Prop where
  /-- The controller needs bounce pages. -/
  controller_eq : slot.controller = .brcme88c revision
  /-- The offset between the addresses is that of the controller. -/
  busOffset_eq : slot.busOffset = (Controller.brcme88c revision).busOffset
  /-- The pages are a table, and they were set up with that offset. -/
  covers : ∀ pages, slot.bounce = some pages →
    pages.busOffset = slot.busOffset ∧ ∃ length, pages.Covers length

/-- Only the controller, the offset and the pages matter. -/
theorem Slot.BounceReady.congr {revision : Word} {slot slot' : Slot}
    (h : slot.BounceReady revision) (hcontroller : slot'.controller = slot.controller)
    (hoffset : slot'.busOffset = slot.busOffset) (hbounce : slot'.bounce = slot.bounce) :
    slot'.BounceReady revision := by
  refine ⟨hcontroller.trans h.controller_eq, hoffset.trans h.busOffset_eq, ?_⟩
  rw [hbounce, hoffset]
  exact h.covers

theorem Slot.BounceReady.pagesCover {revision : Word} {slot : Slot}
    (h : slot.BounceReady revision) : slot.PagesCover :=
  fun pages hpages => (h.covers pages hpages).2

/-- Whatever a step changes about the pages, they stay in order. -/
theorem Slot.BounceReady.repaged {revision : Word} {slot slot' : Slot}
    (h : slot.BounceReady revision) (h' : slot.Repaged slot') : slot'.BounceReady revision := by
  have hcontroller : slot'.controller = slot.controller := by rw [h'.slot_eq]
  have hslot : slot'.busOffset = slot.busOffset := by rw [h'.slot_eq]
  refine ⟨hcontroller.trans h.controller_eq, hslot.trans h.busOffset_eq, fun pages hpages => ?_⟩
  refine ⟨?_, h'.covers pages hpages⟩
  rw [hslot]
  rcases h'.busOffset_eq pages hpages with hoffset | ⟨before, hbefore, hoffset⟩
  · exact hoffset
  · exact hoffset.trans (h.covers before hbefore).1

open SdHost.Task (Maintains)

namespace Transfer

variable {Allowed : Event → Prop}

/-! ## Getting pages -/

/-- Pages that were allocated are fresh ones. The registers are not touched. -/
theorem ensures_allocateBounce (slot : Slot) (length : Nat) :
    (slot.allocateBounce length).run.Ensures Allowed fun events outcome =>
      (∀ event ∈ events, event.isAccess = false) ∧
      ∀ slot', outcome = .ok (.ok slot') → ∃ pages, slot' = { slot with bounce := some pages } ∧
        pages.busOffset = slot.busOffset ∧ pages.Covers pageSize := by
  rw [Slot.run_allocateBounce]
  cases Slot.wholePages length with
  | error cause =>
    refine ⟨by simp, ?_⟩
    rintro _ ⟨⟩
  | ok size =>
    intro reply _
    obtain _ | buffer := reply
    · refine ⟨by simp [Event.isAccess], ?_⟩
      rintro _ ⟨⟩
    · dsimp only
      cases hnew : BouncePages.new buffer slot.busOffset with
      | error refused =>
        intro _ _
        refine ⟨by simp [Event.isAccess], ?_⟩
        rintro _ ⟨⟩
      | ok pages =>
        obtain ⟨hcovers, hoffset, -, -⟩ := BouncePages.covers_new hnew
        -- the pages that were there before, if any, are given back first
        obtain _ | before := slot.bounce
        · refine ⟨by simp [Event.isAccess], ?_⟩
          rintro _ ⟨⟩
          exact ⟨pages, rfl, hoffset, hcovers⟩
        · intro _ _
          refine ⟨by simp [Event.isAccess], ?_⟩
          rintro _ ⟨⟩
          exact ⟨pages, rfl, hoffset, hcovers⟩

/-- Reserving pages changes nothing but the pages. -/
theorem ensures_reservePages {t : Transfer} (h : t.slot.PagesCover) (length : Nat) :
    ((reservePages length).start t).Ensures Allowed fun events outcome =>
      (∀ event ∈ events, event.isAccess = false) ∧
      ∀ result t', outcome = .ok (result, t') →
        t.slot.Repaged t'.slot ∧ t'.request = t.request := by
  -- wherever no pages are asked for, the slot is left as it is
  have hsame : ∀ reserved : Bool, ∀ result t',
      (Except.ok (Except.ok reserved, t) : Except Fault (Except Error Bool × Transfer)) =
        .ok (result, t') →
      t.slot.Repaged t'.slot ∧ t'.request = t.request := by
    rintro _ _ _ ⟨⟩
    exact ⟨.refl h, rfl⟩
  rw [start_reservePages]
  split
  · exact ⟨by simp, hsame _⟩
  split
  · exact ⟨by simp, hsame _⟩
  rw [Program.ensures_bind]
  refine (ensures_allocateBounce t.slot length).mono ?_
  rintro events (cause | cause | slot) ⟨hevents, hslot⟩
  · exact ⟨hevents, by rintro _ _ ⟨⟩⟩
  · simp only [Program.ensures_done, List.append_nil]
    exact ⟨hevents, hsame _⟩
  · simp only [Program.ensures_done, List.append_nil]
    obtain ⟨pages, rfl, hoffset, hcovers⟩ := hslot _ rfl
    refine ⟨hevents, ?_⟩
    rintro _ _ ⟨⟩
    exact ⟨.of_new hcovers hoffset, rfl⟩

/-! ## Setting up a data phase through the pages -/

/-- What the controller is pointed at when a data phase goes through bounce pages: a table for as many
bytes as the data phase has. If the data is to be written, it is in the pages. -/
structure PagesReady (pages : BouncePages) (command : Command) (direction : Direction) : Prop where
  /-- The pages are a table for the data. -/
  covers : pages.Covers command.length
  /-- The pages hold what is to be written. -/
  source_eq : direction = .write → ∃ buffer, command.data = .write buffer ∧
    command.length ≤ buffer.size ∧
    pages.buffer.data.toList.take command.length = buffer.toList.take command.length

/-- What is copied into the pages is the start of the buffer. -/
theorem pagesReady_fill {pages : BouncePages} {command : Command} {source : Memory}
    (h : pages.Covers command.length)
    (hsource : (command.writeBuffer?.bind fun buffer =>
      Memory.slice? buffer 0 command.length) = some source) :
    PagesReady (pages.fill source) command .write := by
  obtain ⟨buffer, hbuffer, hslice⟩ := Option.bind_eq_some_iff.mp hsource
  obtain ⟨hroom, hextract⟩ := Memory.slice?_eq_some_iff.mp hslice
  rw [Nat.zero_add] at hroom hextract
  have hdata : command.data = .write buffer := by
    rw [Command.writeBuffer?] at hbuffer
    split at hbuffer
    · cases hbuffer
      assumption
    · cases hbuffer
  have hbytes : source.toList = buffer.toList.take command.length := by
    rw [← hextract, Array.toList_extract, List.extract_eq_take_drop, List.drop_zero, Nat.sub_zero]
  have hlength : source.toList.length = command.length := by
    rw [hbytes]
    exact List.length_take_of_le hroom
  refine ⟨h.store_data (Memory.size_store _ _ _), fun _ => ⟨buffer, hdata, hroom, ?_⟩⟩
  show (Memory.store pages.buffer.data 0 source.toList).toList.take command.length = _
  -- what is stored covers as many bytes as are asked for
  rw [Memory.toList_store_zero (by rw [hlength]; exact h.length_le_size),
    List.take_left' hlength, hbytes]

/-- Setting up a data phase through the pages points the controller at a table for it, as the only
access to the registers. If there is nothing to be written, the pages are prepared all the same. -/
theorem ensures_setUpBounce {pages : BouncePages} {before : Nat} (h : pages.Covers before)
    (command : Command) (direction : Direction) (t : Transfer) :
    ((setUpBounce pages command direction).start t).Ensures Allowed fun events outcome =>
      match outcome with
      | .ok (.ok phase, t') => ∃ pages' : BouncePages, pages'.busOffset = pages.busOffset ∧
          PagesReady pages' command direction ∧ t' = t.bouncing pages' direction ∧
          phase = { dma := true, events := transferComplete } ∧
          events = [⟨.write .word RegisterMap.admaAddress.offset pages'.tableAddress, ()⟩]
      | .ok (.error _, t') => events = [] ∧ ∃ pages' : BouncePages,
          pages'.busOffset = pages.busOffset ∧ pages'.Covers command.length ∧
          t' = { t with slot.bounce := some pages' }
      | .error _ => events = [] := by
  cases hprepare : pages.prepare command.length with
  | error cause =>
    simp only [setUpBounce, hprepare, Task.start_bind, Task.start_ofExcept_error,
      Program.fault_bind, Program.ensures_fault]
  | ok pages' =>
    -- the length was one that the pages have room for
    obtain ⟨hcovers, hdata, hoffset⟩ := h.of_prepare hprepare
    cases direction with
    | read =>
      rw [start_setUpBounce_read hprepare]
      intro _ _
      exact ⟨pages', hoffset, ⟨hcovers, by rintro ⟨⟩⟩, rfl, rfl, rfl⟩
    | write =>
      cases hsource : (command.writeBuffer?.bind fun buffer =>
          Memory.slice? buffer 0 command.length) with
      | none =>
        rw [start_setUpBounce_refused hprepare hsource]
        exact ⟨rfl, pages', hoffset, hcovers, rfl⟩
      | some source =>
        rw [start_setUpBounce_write hprepare hsource]
        intro _ _
        exact ⟨pages'.fill source, hoffset, pagesReady_fill hcovers hsource, rfl, rfl, rfl⟩

/-- The ways in which the data phase of a command can be set up if the processor is to move the data,
each with the accesses to the registers that it takes. -/
inductive PioPhase (command : Command) (direction : Direction) (slot : Slot) :
    DataPhase → List Event → Prop
  /-- Nothing is set up for data that goes through the data window. -/
  | window : PioPhase command direction slot { dma := false, events := bufferReady direction } []
  /-- For data that goes through bounce pages, the controller is pointed at their table. -/
  | bounce {pages : BouncePages} (hpages : slot.bounce = some pages)
      (hprogress : slot.bounceInProgress = some direction)
      (hready : PagesReady pages command direction) (hroom : command.length ≤ command.data.size) :
      PioPhase command direction slot { dma := true, events := transferComplete }
        [⟨.write .word RegisterMap.admaAddress.offset pages.tableAddress, ()⟩]

/-- A data phase that the processor should move is set up in one of the ways above, or else nothing is
done to the registers. The buffer has room for it, and the pages are a table afterwards. -/
theorem ensures_setUpPio {t : Transfer} (h : t.slot.PagesCover) (command : Command)
    (direction : Direction) :
    ((setUpPio command direction).start t).Ensures Allowed fun events outcome =>
      match outcome with
      | .ok (.ok phase, t') => t.slot.Repaged t'.slot ∧ t'.request = t.request ∧
          command.length ≤ command.data.size ∧
          PioPhase command direction t'.slot phase (events.filter Event.isAccess)
      | .ok (.error _, t') => t.slot.Repaged t'.slot ∧ events.filter Event.isAccess = []
      | .error _ => events.filter Event.isAccess = [] := by
  rcases Nat.lt_or_ge command.data.size command.length with hshort | hroom
  · rw [start_setUpPio_of_lt hshort]
    exact ⟨.refl h, rfl⟩
  rw [start_setUpPio hroom, Program.ensures_bind]
  -- reserving pages makes no access, so that all accesses are those that come after it
  refine (ensures_reservePages h command.length).mono ?_
  rintro events (cause | ⟨cause | reserved, t'⟩) ⟨hevents, hreserved⟩
  · exact filter_isAccess_eq_nil hevents
  · simp only [Program.ensures_done, List.append_nil]
    exact ⟨(hreserved _ _ rfl).1, filter_isAccess_eq_nil hevents⟩
  obtain ⟨hrepaged, hrequest⟩ := hreserved _ _ rfl
  simp only [List.filter_append, filter_isAccess_eq_nil hevents, List.nil_append]
  cases reserved with
  | false => exact ⟨hrepaged, hrequest, hroom, .window⟩
  | true =>
    cases hbounce : t'.slot.bounce with
    | none => exact ⟨hrepaged, hrequest, hroom, .window⟩
    | some pages =>
      obtain ⟨before, hcovers⟩ := hrepaged.covers pages hbounce
      refine (ensures_setUpBounce hcovers command direction t').mono ?_
      rintro later (cause | ⟨cause | phase, t''⟩) hset
      · rw [hset]
        rfl
      · obtain ⟨rfl, pages', hoffset, hcovers', rfl⟩ := hset
        exact ⟨hrepaged.trans (.of_prepared hbounce hcovers' hoffset), rfl⟩
      · obtain ⟨pages', hoffset, hpages, rfl, rfl, rfl⟩ := hset
        refine ⟨hrepaged.trans (.of_prepared hbounce hpages.covers hoffset), hrequest, hroom, ?_⟩
        exact .bounce rfl rfl hpages hroom

/-! ## The pages stay in order -/

section Steps

/-! A property of slots that says at least that the pages are a table, and that depends on them and on
what goes through them in no other way. -/

variable {Inv : Slot → Prop} (hcover : ∀ slot, Inv slot → slot.PagesCover)
  (hrepaged : ∀ slot slot', Inv slot → slot.Repaged slot' → Inv slot')

include hcover hrepaged

theorem maintains_setUpPio_slot (command : Command) (direction : Direction) :
    Maintains (fun _ => True) (fun t => Inv t.slot) (setUpPio command direction) := by
  intro t ht
  refine (ensures_setUpPio (hcover _ ht) command direction).mono ?_
  intro events outcome h
  refine ⟨fun _ _ => trivial, ?_⟩
  rintro (cause | phase) t' rfl
  · exact hrepaged _ _ ht h.1
  · exact hrepaged _ _ ht h.1

/-- A step of a request keeps such a property, whether it succeeds or fails. -/
theorem maintains_step_slot : Maintains (fun _ => True) (fun t => Inv t.slot) step :=
  maintains_step (fun _ _ => trivial) (fun _ _ h => h) (maintains_setUpPio_slot hcover hrepaged)
    (fun _ progress h => hrepaged _ _ h (.of_progress (hcover _ h) progress)) fun _ _ => trivial

end Steps

/-- No step of a request brings the pages out of order, whether it succeeds or fails. -/
theorem bounceReady_step {revision : Word} :
    Maintains (fun _ => True) (fun t => t.slot.BounceReady revision) step :=
  maintains_step_slot (fun _ h => h.pagesCover) fun _ _ h h' => h.repaged h'

end Transfer

end SdHost
