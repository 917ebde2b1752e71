import SdHost.Proofs.Slot.BringUp

/-!
# Slots in use

The slots that come about once a slot was brought up: by requests that are issued one step at a
time, whatever comes of them, by bus operations, and by the controller storing data in the bounce
pages.

* `Slot.Reachable`: the slots in use with the BCM2711 controller, on some host;
* `Slot.bounceReady_of_reachable`: their bounce pages are in order.
-/

namespace SdHost

open SdHost.Task (Maintains)

namespace Slot

variable {σ : Type} {revision : Word}

/-- The slots in use with the BCM2711 controller. The surroundings can be in any state whenever
something is asked of them. -/
inductive Reachable (host : Host σ) (revision : Word) : Slot → Prop
  /-- The slot was brought up, whatever it was before. -/
  | broughtUp {slot slot' : Slot} {length : Nat} {crashDump : Bool} {state after : σ}
      (hcontroller : slot.controller = .brcme88c revision)
      (hrun : ((bringUp length crashDump).start slot).run host state =
        (.ok (.ok (), slot'), after)) : Reachable host revision slot'
  /-- A step of a request was carried out. It may have failed. -/
  | issued {slot slot' : Slot} {request request' : Request} {result : Except Error Progress}
      {state after : σ} (hslot : Reachable host revision slot)
      (hrun : (slot.issueRequest request).run host state = (.ok (result, slot', request'), after)) :
      Reachable host revision slot'
  /-- A bus operation was carried out. It may have failed. -/
  | operated {slot slot' : Slot} {operation : BusOperation} {result : Except Error Unit}
      {state after : σ} (hslot : Reachable host revision slot)
      (hrun : ((performBusOperation operation).start slot).run host state =
        (.ok (result, slot'), after)) : Reachable host revision slot'
  /-- The controller stored something in the bounce pages. -/
  | stored {slot : Slot} {pages : BouncePages} (hslot : Reachable host revision slot)
      (hbounce : slot.bounce = some pages) (data : Memory)
      (hsize : data.size = pages.buffer.data.size) :
      Reachable host revision
        { slot with bounce := some { pages with buffer := { pages.buffer with data } } }

/-! ## Their bounce pages -/

/-- A bus operation changes nothing that the bounce pages depend on, whether it succeeds or
fails. -/
theorem bounceReady_performBusOperation (operation : BusOperation) :
    Maintains (fun _ => True) (BounceReady revision) (performBusOperation operation) :=
  maintains_performBusOperation (fun _ _ h => h.congr rfl rfl rfl) operation

theorem bounceReady_settle : Maintains (fun _ => True) (BounceReady revision) settle :=
  maintains_settle (fun _ _ h => h.congr rfl rfl rfl) fun _ _ h => h.congr rfl rfl rfl

/-- Once a slot is brought up, its bounce pages are in order. -/
theorem ensures_bringUp_bounceReady {slot : Slot}
    (hcontroller : slot.controller = .brcme88c revision) (length : Nat) (crashDump : Bool) :
    ((bringUp length crashDump).start slot).Ensures (fun _ => True) fun _ outcome =>
      ∀ slot', outcome = .ok (.ok (), slot') → slot'.BounceReady revision := by
  -- the controller needs pages, so that the slot is not brought up without them
  have hbounce : (slot.readied crashDump).controller.usesBounce = true := by
    show slot.controller.usesBounce = true
    rw [hcontroller]
    rfl
  rw [start_bringUp]
  split
  · rintro _ ⟨⟩
  rw [providePages, if_pos hbounce, Program.ensures_bind]
  refine (Transfer.ensures_allocateBounce _ _).mono ?_
  rintro events (cause | cause | allocated) ⟨-, hslot⟩
  · rintro _ ⟨⟩
  · rintro _ ⟨⟩
  obtain ⟨pages, rfl, hoffset, hcovers⟩ := hslot _ rfl
  have hready : BounceReady revision { slot.readied crashDump with bounce := some pages } := by
    refine ⟨hcontroller, congrArg Controller.busOffset hcontroller, ?_⟩
    rintro _ ⟨⟩
    exact ⟨hoffset, pageSize, hcovers⟩
  -- nothing after that touches them
  refine (bounceReady_settle _ hready).mono ?_
  rintro later outcome ⟨-, hkept⟩ slot' houtcome
  exact hkept _ slot' houtcome

/-- The bounce pages of a slot in use are in order. -/
theorem bounceReady_of_reachable {host : Host σ} {slot : Slot}
    (hreach : slot.Reachable host revision) : slot.BounceReady revision := by
  -- induction on what happened to the slot: bringing it up makes the pages, and the rest keeps them
  induction hreach with
  | broughtUp hcontroller hrun => exact (ensures_bringUp_bounceReady hcontroller _ _).of_run hrun _ rfl
  | issued _ hrun ih =>
    -- a step works on the slot and the request together
    have hstep := run_step_of_issueRequest hrun
    exact Transfer.bounceReady_step.of_run ih hstep
  | operated _ hrun ih => exact (bounceReady_performBusOperation _).of_run ih hrun
  | stored _ hbounce data hsize ih =>
    -- the descriptors do not depend on the data
    refine ⟨ih.controller_eq, ih.busOffset_eq, ?_⟩
    rintro _ ⟨⟩
    obtain ⟨hoffset, length, hcovers⟩ := ih.covers _ hbounce
    exact ⟨hoffset, length, hcovers.store_data hsize⟩

end Slot

end SdHost
