import SdHost.Proofs.Slot.BringUp
import SdHost.Proofs.Transfer.Bounced

/-!
# Slots that could not be brought up

Bringing a slot up fails if its registers are too few, or if its controller needs bounce pages and there
are none to be had. The first is found out before anything is done. Before pages are asked for, the slot
has taken note of what it is to be brought up for, and this note stays if there are none.

The module introduces `Slot.PagesRefused`: what it looks like when pages were asked for in vain.
`slot_of_failed_bringUp` says what is left of a slot that could not be brought up.
-/

namespace SdHost

open SdHost.Task (FailsOnly)

/-- The regulator has nothing to do with memory. -/
theorem Event.isMessage_of_allocates {event : Event} (h : event.allocates = true) :
    event.isMessage = false := by
  obtain ⟨query, reply⟩ := event
  cases query <;> first | rfl | cases h

/-- An attempt that is made in place of one that failed fails as it does by itself. -/
theorem Task.FailsOnly.tryCatch {σ α : Type} {Cause : Error → Prop} {task : Task σ α}
    {handler : Error → Task σ α} (h : ∀ cause, FailsOnly Cause (handler cause)) :
    FailsOnly Cause (tryCatch task handler) := by
  intro state
  rw [start_tryCatch, Program.ensures_bind]
  -- nothing needs to be known of the first attempt
  refine Program.Ensures.mono (Program.Asks.of_forall (fun _ => trivial) (task.start state)) ?_
  rintro events (fault | ⟨cause | value, state'⟩) -
  · rintro _ _ ⟨⟩
  · exact h cause state'
  · rintro _ _ ⟨⟩

namespace Slot

/-- Pages were asked for in vain. There were none, or they were of no use and went back at once. -/
inductive PagesRefused (busOffset : Word) : List Event → Prop
  /-- The allocator had none. -/
  | unavailable (size : Nat) : PagesRefused busOffset [⟨.allocate size, none⟩]
  /-- The allocator had some that cannot be taken into use. -/
  | unusable (size : Nat) {buffer refused : BounceBuffer}
      (hnew : BouncePages.new buffer busOffset = .error refused) :
      PagesRefused busOffset [⟨.allocate size, some buffer⟩, ⟨.release refused, ()⟩]

theorem PagesRefused.allocates {busOffset : Word} {events : List Event}
    (h : PagesRefused busOffset events) : ∀ event ∈ events, event.allocates = true := by
  cases h with
  | unavailable size => exact List.forall_mem_singleton.mpr rfl
  | unusable size hnew =>
    exact List.forall_mem_cons.mpr ⟨rfl, List.forall_mem_singleton.mpr rfl⟩

/-- Allocating pages fails in one way only. -/
theorem ensures_allocateBounce_refused (slot : Slot) (length : Nat) :
    (slot.allocateBounce length).run.Ensures (fun _ => True) fun events outcome =>
      ∀ cause, outcome = .ok (.error cause) →
        cause = .insufficientResources ∧ PagesRefused slot.busOffset events := by
  rw [run_allocateBounce]
  cases wholePages length with
  | error fault => rintro _ ⟨⟩
  | ok size =>
    rintro (_ | buffer) _
    · rintro _ ⟨⟩
      exact ⟨rfl, .unavailable size⟩
    dsimp only
    cases hnew : BouncePages.new buffer slot.busOffset with
    | error refused =>
      rintro _ _ _ ⟨⟩
      exact ⟨rfl, .unusable size hnew⟩
    | ok pages =>
      rcases slot.bounce with _ | before
      · rintro _ ⟨⟩
      · rintro _ _ _ ⟨⟩

theorem ensures_providePages_refused (slot : Slot) :
    slot.providePages.run.Ensures (fun _ => True) fun events outcome =>
      ∀ cause, outcome = .ok (.error cause) →
        cause = .insufficientResources ∧ slot.controller.usesBounce = true ∧
          PagesRefused slot.busOffset events := by
  rw [providePages]
  split
  next hbounce =>
    refine (slot.ensures_allocateBounce_refused _).mono fun events outcome hrefused cause houtcome => ?_
    obtain ⟨hcause, hevents⟩ := hrefused cause houtcome
    exact ⟨hcause, hbounce, hevents⟩
  · rintro _ ⟨⟩

section Settle

variable {Cause : Error → Prop}

/-- It is put up with if the regulator cannot be put to 3.3 V. -/
theorem failsOnly_resetRegulator : FailsOnly Cause resetRegulator := by
  refine FailsOnly.bind (.modify _) fun _ => FailsOnly.get.bind fun slot => ?_
  cases slot.regulator with
  | none => exact .pure _
  | some channel =>
    refine (FailsOnly.program _).discard.bind fun _ => FailsOnly.bind ?_ fun outcome => ?_
    · exact FailsOnly.tryCatch fun _ => .pure _
    · cases outcome with
      | error _ => exact .pure _
      | ok _ => exact .pure _

/-- Once there are pages, nothing can fail. -/
theorem failsOnly_settle : FailsOnly Cause settle := by
  refine failsOnly_resetRegulator.bind fun _ => FailsOnly.get.bind fun slot => ?_
  refine (FailsOnly.program _).bind fun capabilities => FailsOnly.bind (.modify _) fun _ => ?_
  exact FailsOnly.get.bind fun slot => .program _

end Settle

/-- There are two ways for a slot not to be brought up. -/
theorem ensures_bringUp_error (slot : Slot) (length : Nat) (crashDump : Bool) :
    ((bringUp length crashDump).start slot).Ensures (fun _ => True) fun events outcome =>
      ∀ cause slot', outcome = .ok (.error cause, slot') →
        length < registerBlockSize ∧ cause = .notSupported ∧ events = [] ∧ slot' = slot ∨
        registerBlockSize ≤ length ∧ cause = .insufficientResources ∧
          slot.controller.usesBounce = true ∧ PagesRefused slot.controller.busOffset events ∧
          slot' = slot.readied crashDump := by
  rw [start_bringUp]
  split
  next hlength =>
    rintro _ _ ⟨⟩
    exact .inl ⟨hlength, rfl, rfl, rfl⟩
  next hlength =>
  rw [Program.ensures_bind]
  refine (slot.readied crashDump).ensures_providePages_refused.mono ?_
  rintro events (fault | cause | provided) hrefused
  · rintro _ _ ⟨⟩
  · rintro _ _ ⟨⟩
    obtain ⟨hcause, hbounce, hevents⟩ := hrefused _ rfl
    rw [List.append_nil]
    exact .inr ⟨Nat.le_of_not_lt hlength, hcause, hbounce, hevents, rfl⟩
  · have hnever : FailsOnly (fun _ => False) settle := failsOnly_settle
    refine (hnever provided).mono fun later outcome hnone cause slot' houtcome => ?_
    exact (hnone cause slot' houtcome).elim

/-- Of what a slot is readied for, it may have been there before. -/
theorem readied_eq_self_iff (slot : Slot) (crashDump : Bool) :
    slot.readied crashDump = slot ↔
      slot.crashDump = crashDump ∧ slot.busOffset = slot.controller.busOffset := by
  constructor
  · intro h
    exact ⟨(congrArg Slot.crashDump h).symm, (congrArg Slot.busOffset h).symm⟩
  · rintro ⟨rfl, hoffset⟩
    rw [readied, ← hoffset]

end Slot

/-- **What is left of a slot that could not be brought up.** There are two ways for that. Either the
block of registers is too small, and then nothing was asked and the slot is what it was. Or the
controller needs bounce pages and they were asked for in vain, and then the slot is what it was but for
two notes that were made before: whether it writes a crash dump, and the offset of the addresses.

So no register was accessed and no message was sent to the regulator, and whatever of the surroundings
has nothing to do with the allocator is as it was. The slot as a whole is as it was exactly if the
registers were too few, or if both notes were there before. -/
theorem slot_of_failed_bringUp {σ : Type} {host : Host σ} {slot slot' : Slot} {length : Nat}
    {crashDump : Bool} {cause : Error} {state after : σ}
    (hrun : ((Slot.bringUp length crashDump).start slot).run host state =
      (.ok (.error cause, slot'), after)) :
    (length < registerBlockSize ∧ cause = .notSupported ∧
        ((Slot.bringUp length crashDump).start slot).history host state = [] ∧ slot' = slot ∨
      registerBlockSize ≤ length ∧ cause = .insufficientResources ∧
        slot.controller.usesBounce = true ∧
        Slot.PagesRefused slot.controller.busOffset
          (((Slot.bringUp length crashDump).start slot).history host state) ∧
        slot' = { slot with crashDump, busOffset := slot.controller.busOffset }) ∧
    (∀ event ∈ ((Slot.bringUp length crashDump).start slot).history host state,
      event.isAccess = false ∧ event.isMessage = false) ∧
    (∀ {β : Type} (view : σ → β),
      (∀ event : Event, event.allocates = true → event.Spares host view) →
      view after = view state) ∧
    (slot' = slot ↔ length < registerBlockSize ∨
      slot.crashDump = crashDump ∧ slot.busOffset = slot.controller.busOffset) := by
  have hways := (Slot.ensures_bringUp_error slot length crashDump).of_run hrun cause slot' rfl
  have hallocates : ∀ event ∈ ((Slot.bringUp length crashDump).start slot).history host state,
      event.allocates = true := by
    rcases hways with ⟨-, -, hnothing, -⟩ | ⟨-, -, -, hrefused, -⟩
    · rw [hnothing]
      exact List.forall_mem_nil _
    · exact hrefused.allocates
  refine ⟨hways, fun event hevent => ?_, fun view hspares => ?_, ?_⟩
  · exact ⟨Event.isAccess_of_allocates (hallocates event hevent),
      Event.isMessage_of_allocates (hallocates event hevent)⟩
  · have hview := ((Slot.bringUp length crashDump).start slot).view_of_history state
      fun event hevent => hspares event (hallocates event hevent)
    rwa [hrun] at hview
  · rcases hways with ⟨hlength, -, -, hslot⟩ | ⟨hlength, -, -, -, hslot⟩
    · exact iff_of_true hslot (.inl hlength)
    · rw [hslot, or_iff_right (Nat.not_lt_of_le hlength)]
      exact slot.readied_eq_self_iff crashDump

namespace OnePage

/-- The bench once it has no buffers left. -/
def emptied : Bench.World :=
  { world with allocator := none }

/-- The slot was brought up, and cannot be brought up again. -/
theorem run_bringUp_emptied (crashDump : Bool) :
    ((Slot.bringUp registerBlockSize crashDump).start slotUp).run Bench.World.host emptied =
      (.ok (.error .insufficientResources, slotUp.readied crashDump), emptied) := by
  cases crashDump <;> rfl

end OnePage

/-- A slot with a page that should be brought up again, for what it was brought up for before. There is
no memory, and the slot is as it was. -/
theorem slot_of_failed_bringUp_again :
    ∃ slot' after,
      ((Slot.bringUp registerBlockSize false).start OnePage.slotUp).run Bench.World.host
        OnePage.emptied = (.ok (.error .insufficientResources, slot'), after) ∧
      after.registers = OnePage.emptied.registers ∧ slot' = OnePage.slotUp := by
  have hrun := OnePage.run_bringUp_emptied false
  obtain ⟨-, -, hview, hslot⟩ := slot_of_failed_bringUp hrun
  refine ⟨_, _, hrun, hview Bench.World.registers fun event hevent state => ?_, ?_⟩
  · obtain ⟨query, reply⟩ := event
    cases query with
    | allocate size =>
      show (state.allocate size).2.registers = _
      rw [Bench.World.allocate]
      split
      · rfl
      · split <;> rfl
    | release buffer => rfl
    | _ => cases hevent
  · exact hslot.mpr (.inr ⟨rfl, by decide⟩)

/-- If it should be brought up to write a crash dump, that fails too. But the slot goes on as one that
writes a crash dump, and from then on no interrupt that is enabled reaches the processor. -/
theorem crashDump_of_failed_bringUp :
    OnePage.slotUp.Reachable Bench.World.host 0 ∧ OnePage.slotUp.crashDump = false ∧
      ∃ slot' after,
        ((Slot.bringUp registerBlockSize true).start OnePage.slotUp).run Bench.World.host
          OnePage.emptied = (.ok (.error .insufficientResources, slot'), after) ∧
        slot'.crashDump = true ∧
        writes ((OnePage.slotUp.toggleEvents 1 true).history Bench.World.host after) =
          [RegisterMap.normalSignalEnable.place, RegisterMap.errorSignalEnable.place,
            RegisterMap.normalStatusEnable.place, RegisterMap.errorStatusEnable.place] ∧
        writes ((slot'.toggleEvents 1 true).history Bench.World.host after) =
          [RegisterMap.normalStatusEnable.place, RegisterMap.errorStatusEnable.place] :=
  ⟨OnePage.reachable_slotUp, rfl, _, _, OnePage.run_bringUp_emptied true, rfl, rfl, rfl⟩

end SdHost
