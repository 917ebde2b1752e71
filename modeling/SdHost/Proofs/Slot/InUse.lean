import SdHost.Proofs.Slot.BringUp

/-!
# Slots of any controller

The slots that come about once a slot was created, with any controller: by bringing it up, by requests
that are issued one step at a time, by bus operations and by giving its bounce pages back, whatever
comes of them, and by the controller storing data in the bounce pages.

* `Slot.InUse`: these slots, on some host;
* `Slot.pagesCover_of_inUse`: their bounce pages are a table.
-/

namespace SdHost

open SdHost.Task (Maintains)

namespace Slot

variable {σ : Type} {host : Host σ}

/-- The slots of any controller, from when they are created. The surroundings can be in any state
whenever something is asked of them. -/
inductive InUse (host : Host σ) : Slot → Prop
  /-- The slot was created, and nothing was allocated yet. -/
  | created {slot : Slot} (hbounce : slot.bounce = none) : InUse host slot
  /-- The slot was brought up, or that failed. -/
  | broughtUp {slot slot' : Slot} {length : Nat} {crashDump : Bool} {result : Except Error Unit}
      {state after : σ} (hslot : InUse host slot)
      (hrun : ((bringUp length crashDump).start slot).run host state =
        (.ok (result, slot'), after)) : InUse host slot'
  /-- A step of a request was carried out. It may have failed. -/
  | issued {slot slot' : Slot} {request request' : Request} {result : Except Error Progress}
      {state after : σ} (hslot : InUse host slot)
      (hrun : (slot.issueRequest request).run host state = (.ok (result, slot', request'), after)) :
      InUse host slot'
  /-- A bus operation was carried out. It may have failed. -/
  | operated {slot slot' : Slot} {operation : BusOperation} {result : Except Error Unit}
      {state after : σ} (hslot : InUse host slot)
      (hrun : ((performBusOperation operation).start slot).run host state =
        (.ok (result, slot'), after)) : InUse host slot'
  /-- The bounce pages were given back. -/
  | cleanedUp {slot slot' : Slot} {state after : σ} (hslot : InUse host slot)
      (hrun : slot.cleanup.run host state = (.ok slot', after)) : InUse host slot'
  /-- The controller stored something in the bounce pages. -/
  | stored {slot : Slot} {pages : BouncePages} (hslot : InUse host slot)
      (hbounce : slot.bounce = some pages) (data : Memory)
      (hsize : data.size = pages.buffer.data.size) :
      InUse host { slot with bounce := some { pages with buffer := { pages.buffer with data } } }

/-- However bringing a slot up ends, its pages are a table if they were before. -/
theorem maintains_bringUp_pagesCover (length : Nat) (crashDump : Bool) :
    Maintains (fun _ => True) PagesCover (bringUp length crashDump) := by
  intro slot hslot
  rw [start_bringUp]
  split
  · refine ⟨by simp, ?_⟩
    rintro _ _ ⟨⟩
    exact hslot
  rw [Program.ensures_bind]
  refine (ensures_providePages (slot.readied crashDump)).mono ?_
  rintro events (cause | cause | provided) ⟨-, hprovided⟩
  · exact ⟨fun _ _ => trivial, by rintro _ _ ⟨⟩⟩
  · refine ⟨fun _ _ => trivial, ?_⟩
    rintro _ _ ⟨⟩
    exact hslot
  · -- nothing after that touches the pages
    have hsettle : Maintains (fun _ => True) PagesCover settle :=
      maintains_settle (fun _ _ h => h) fun _ _ h => h
    refine (hsettle provided ((hprovided _ rfl).2 hslot)).mono ?_
    exact fun later outcome hkept => ⟨fun _ _ => trivial, hkept.2⟩

theorem bounce_of_cleanup {slot slot' : Slot} {state after : σ}
    (hrun : slot.cleanup.run host state = (.ok slot', after)) : slot'.bounce = none := by
  have hcleanup : slot.cleanup.Ensures (fun _ => True) fun _ outcome =>
      ∀ slot', outcome = .ok slot' → slot'.bounce = none := by
    rw [cleanup]
    cases slot.bounce with
    | none =>
      rintro _ ⟨⟩
      rfl
    | some pages =>
      rintro _ _ _ ⟨⟩
      rfl
  exact hcleanup.of_run hrun slot' rfl

/-- The bounce pages of a slot in use are a table. -/
theorem pagesCover_of_inUse {slot : Slot} (h : slot.InUse host) : slot.PagesCover := by
  -- induction on what happened to the slot, which makes pages, keeps them or gives them up
  induction h with
  | created hbounce =>
    intro pages hpages
    cases hbounce.symm.trans hpages
  | broughtUp _ hrun ih => exact (maintains_bringUp_pagesCover _ _).of_run ih hrun
  | issued _ hrun ih =>
    have hstep : Maintains (fun _ => True) (fun t => t.slot.PagesCover) Transfer.step :=
      Transfer.maintains_step_slot (fun _ h => h) fun _ _ _ h => h.covers
    exact hstep.of_run ih (run_step_of_issueRequest hrun)
  | @operated _ _ operation _ _ _ _ hrun ih =>
    have hkept : Maintains (fun _ => True) PagesCover (performBusOperation operation) :=
      maintains_performBusOperation (fun _ _ h => h) operation
    exact hkept.of_run ih hrun
  | cleanedUp _ hrun _ =>
    intro pages hpages
    cases (bounce_of_cleanup hrun).symm.trans hpages
  | stored _ hbounce data hsize ih =>
    -- the descriptors do not depend on the data
    rintro _ ⟨⟩
    obtain ⟨length, hcovers⟩ := ih _ hbounce
    exact ⟨length, hcovers.store_data hsize⟩

end Slot

end SdHost
