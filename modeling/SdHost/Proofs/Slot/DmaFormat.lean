import SdHost.Bench.World
import SdHost.Proofs.Bus.Reset
import SdHost.Proofs.Slot.BringUp
import SdHost.Proofs.Transfer.DataPhase

/-!
# The format of descriptor tables

The format of descriptor tables is decided in three places: when the slot is brought up, for what the
framework is told; when the controller is reset, for what it expects; and when a command is sent, for
the table that is built. With a controller that follows the specification, the three agree if the
capabilities say that there are tables, and scatter/gather commands are taken even if they do not.

* `DmaSelect.forEntries`: the form of direct memory access that goes with the entries of a table;
* `table_format_of_standard`: what each of the three decides.
-/

namespace SdHost

/-- The form of direct memory access that goes with the entries of a table. -/
def DmaSelect.forEntries (wide : Bool) : DmaSelect :=
  if wide then .adma64 else .adma32

namespace Readout

variable (readout : Readout)

/-- The controller can address more than 4 GiB. -/
def wide : Bool :=
  CapabilityBits.systemBus64V3.test readout.raw

/-- The controller follows descriptor tables, as far as its register is believed. -/
def followsTables (errata : Bool) : Bool :=
  !errata && CapabilityBits.adma2.test readout.raw

variable {readout} {slot : Slot} {errata : Bool}

/-- The bits that are not believed are not the one that says how wide addresses are. -/
theorem test_systemBus64_correctRegister (raw : DoubleWord) :
    CapabilityBits.systemBus64V3.test ((Controller.standard errata).correctRegister raw) =
      CapabilityBits.systemBus64V3.test raw := by
  cases errata with
  | false => rfl
  | true =>
    show CapabilityBits.systemBus64V3.test (CapabilityBits.ddr50.put false
      (CapabilityBits.sdma.put false (CapabilityBits.adma2.put false raw))) = _
    rw [Field.test_put_of_disjoint _ _ (by decide) rfl,
      Field.test_put_of_disjoint _ _ (by decide) rfl,
      Field.test_put_of_disjoint _ _ (by decide) rfl]

theorem test_adma2_correctRegister (raw : DoubleWord) :
    CapabilityBits.adma2.test ((Controller.standard errata).correctRegister raw) =
      (!errata && CapabilityBits.adma2.test raw) := by
  cases errata with
  | false => rfl
  | true =>
    show CapabilityBits.adma2.test (CapabilityBits.ddr50.put false
      (CapabilityBits.sdma.put false (CapabilityBits.adma2.put false raw))) = false
    rw [Field.test_put_of_disjoint _ _ (by decide) rfl,
      Field.test_put_of_disjoint _ _ (by decide) rfl, Field.test_put _ (by decide) rfl]

/-- What the registers of a controller that follows the specification say about descriptor tables. -/
theorem capabilities_of_standard (readout : Readout)
    (hcontroller : slot.controller = .standard errata) :
    (readout.capabilities slot).address64 = readout.wide ∧
      (readout.capabilities slot).scatterGather = readout.followsTables errata ∧
      (readout.capabilities slot).descriptorSize =
        DescriptorTable.entrySize (readout.followsTables errata && readout.wide) := by
  rw [capabilities, hcontroller, wide, followsTables, ← test_systemBus64_correctRegister,
    ← test_adma2_correctRegister]
  exact ⟨rfl, rfl, rfl⟩

end Readout

namespace Slot

variable {σ : Type} {host : Host σ} {slot slot' : Slot} {state after : σ}

/-- A scatter/gather command that was accepted was sent with a table whose entries are as wide as the
addresses of the controller. -/
theorem table_of_issueRequest {request request' : Request} {progress : Progress}
    (hmethod : request.command.method = .scatterGather)
    (htype : request.requestType ≠ .startTransfer) (hdata : request.command.transferType ≠ .none)
    (hrun : (slot.issueRequest request).run host state =
      (.ok (.ok progress, slot', request'), after)) :
    ∃ elements table info memory, request.command.elements = some elements ∧
      request.command.table = some table ∧
      DescriptorTable.build elements slot.capabilities.address64 table.memory =
        .ok (.ok info, memory) ∧
      request'.command.table = some { table with memory } := by
  have hpio : request.command.method = .pio → slot.PagesCover := by
    rw [hmethod]
    rintro ⟨⟩
  obtain ⟨-, hslot, direction, phase, accesses, -, hset, -⟩ :=
    sent_of_issueRequest hpio htype hdata hrun
  have hwide : slot'.capabilities = slot.capabilities := by rw [hslot]
  cases hset with
  | pio hother => exact absurd (hother.symm.trans hmethod) (by decide)
  | scatterGather _ helements htable hbuild hcommand =>
    refine ⟨_, _, _, _, helements, htable, hwide ▸ hbuild, ?_⟩
    rw [hcommand]

end Slot

/-- **The format of descriptor tables.** Take a slot of a controller that follows the specification,
once it was brought up. A command with a scatter/gather list that is accepted is sent with a table whose
entries have wide addresses if the controller has, whether the capabilities say that there are tables or
not. A reset chooses the form of direct memory access that goes with these entries if and only if they
do, and without tables it chooses the one that knows none. The framework is told the size of these
entries if and only if there are tables, or addresses are not wide. -/
theorem table_format_of_standard {σ : Type} {host : Host σ} {errata crashDump : Bool}
    {slot slot' : Slot} {length : Nat} {state up : σ}
    (hcontroller : slot.controller = .standard errata)
    (hup : ((Slot.bringUp length crashDump).start slot).run host state =
      (.ok (.ok (), slot'), up)) :
    ∃ (readout : Readout) (later : List Event),
      (((Slot.bringUp length crashDump).start slot).history host state).filter Event.isAccess =
        readout.events ++ later ∧
      slot'.capabilities.address64 = readout.wide ∧
      slot'.capabilities.scatterGather = readout.followsTables errata ∧
      (slot'.capabilities.descriptorSize = DescriptorTable.entrySize readout.wide ↔
        readout.followsTables errata = true ∨ readout.wide = false) ∧
      ∀ used : Slot, used.controller = slot'.controller → used.capabilities = slot'.capabilities →
        -- the table of a command
        (∀ (request request' : Request) (progress : Progress) (used' : Slot) (before after : σ),
          request.command.method = .scatterGather → request.requestType ≠ .startTransfer →
          request.command.transferType ≠ .none →
          (used.issueRequest request).run host before =
            (.ok (.ok progress, used', request'), after) →
          ∃ elements table info memory, request.command.elements = some elements ∧
            request.command.table = some table ∧
            DescriptorTable.build elements readout.wide table.memory = .ok (.ok info, memory) ∧
            request'.command.table = some { table with memory }) ∧
        -- the choice of a reset
        (∀ (part : ResetType) (used' : Slot) (before after : σ),
          ((Slot.performBusOperation (.resetHost part)).start used).run host before =
            (.ok (.ok (), used'), after) →
          ∃ earlier control,
            ((Slot.performBusOperation (.resetHost part)).start used).history host before =
              earlier ++ [⟨.write .byte HostControl1.register.offset control, ()⟩] ∧
            HostControl1.dmaSelect.get control =
              (if readout.followsTables errata then DmaSelect.forEntries readout.wide
                else .sdma).code ∧
            (HostControl1.dmaSelect.get control = (DmaSelect.forEntries readout.wide).code ↔
              readout.followsTables errata = true)) := by
  obtain ⟨readout, hafter⟩ := (Slot.ensures_bringUp slot length crashDump).of_run hup
  obtain ⟨enabled, haccess⟩ := hafter.accesses_eq
  obtain ⟨hwide, htables, hsize⟩ := readout.capabilities_of_standard hcontroller
  rw [← hafter.capabilities_eq] at hwide htables hsize
  refine ⟨readout, _, haccess, hwide, htables, ?_, fun used hused hsame => ⟨?_, ?_⟩⟩
  · rw [hsize]
    cases readout.followsTables errata <;> cases readout.wide <;> decide
  · intro request request' progress used' before after hmethod htype hdata hrun
    rw [← hwide, ← hsame]
    exact Slot.table_of_issueRequest hmethod htype hdata hrun
  · intro part used' before after hrun
    obtain ⟨earlier, control, hhistory, hselect⟩ := Slot.lastAccess_of_resetHost hrun
    -- the reset goes by what the framework is told
    have hchoice : used.controller.dmaSelect used.capabilities =
        if readout.followsTables errata then DmaSelect.forEntries readout.wide else .sdma := by
      rw [hused, hafter.controller_eq, hcontroller, hsame, ← htables, ← hwide]
      rfl
    rw [hchoice] at hselect
    refine ⟨earlier, control, hhistory, hselect, ?_⟩
    rw [hselect]
    cases readout.followsTables errata <;> cases readout.wide <;> decide

namespace WideAddresses

/-- A bench of which the registers tell a base clock and wide addresses, with descriptor tables or
without. -/
def world (tables : Bool) : Bench.World where
  registers :=
    { bytes := Memory.store (Memory.zeroed registerBlockSize) 0x40
        [0, 1, if tables then 8 else 0, 0x10] }

/-- A slot. -/
def slot : Slot where
  controller := .standard false

/-- A read of one block into memory beyond 4 GiB. -/
def request : Request :=
  .new (({ index := 17, argument := 0, responseType := .r1 } : Command).withElements 512 .read
    [⟨0x100000000, 512⟩] ⟨Memory.zeroed 12, 0x2000⟩)

end WideAddresses

set_option maxRecDepth 4000 in
/-- With tables, the entries have wide addresses, and the reset chooses the form that goes with
them. -/
theorem table_format_of_standard_wide :
    ∃ slot' up request' after control,
      ((Slot.bringUp registerBlockSize false).start WideAddresses.slot).run Bench.World.host
        (WideAddresses.world true) = (.ok (.ok (), slot'), up) ∧
      (slot'.issueRequest WideAddresses.request).run Bench.World.host up =
        (.ok (.ok .pending, slot', request'), after) ∧
      (∃ info memory, DescriptorTable.build [⟨0x100000000, 512⟩] true (Memory.zeroed 12) =
        .ok (.ok info, memory) ∧ request'.command.table = some ⟨memory, 0x2000⟩) ∧
      HostControl1.dmaSelect.get control = DmaSelect.adma64.code := by
  have hruns : ∃ slot' up request' after reset,
      ((Slot.bringUp registerBlockSize false).start WideAddresses.slot).run Bench.World.host
        (WideAddresses.world true) = (.ok (.ok (), slot'), up) ∧
      (slot'.issueRequest WideAddresses.request).run Bench.World.host up =
        (.ok (.ok .pending, slot', request'), after) ∧
      ((Slot.performBusOperation (.resetHost .all)).start slot').run Bench.World.host up =
        (.ok (.ok (), slot'), reset) ∧
      slot'.capabilities.address64 = true ∧ slot'.capabilities.scatterGather = true :=
    ⟨_, _, _, _, _, rfl, rfl, rfl, rfl, rfl⟩
  obtain ⟨slot', up, request', after, reset, hup, hissue, hreset, hwide, htables⟩ := hruns
  obtain ⟨readout, -, -, hwide', htables', -, hused⟩ := table_format_of_standard rfl hup
  obtain ⟨hissued, hchosen⟩ := hused slot' rfl rfl
  obtain ⟨elements, table, info, memory, helements, htable, hbuild, hstored⟩ :=
    hissued _ _ _ _ _ _ rfl (by decide) (by decide) hissue
  obtain ⟨-, control, -, hselect, -⟩ := hchosen _ _ _ _ hreset
  rw [← hwide', hwide] at hbuild hselect
  rw [← htables', htables] at hselect
  cases helements
  cases htable
  exact ⟨slot', up, request', after, control, hup, hissue, ⟨info, memory, hbuild, hstored⟩, hselect⟩

set_option maxRecDepth 4000 in
/-- Without tables, the same command is taken with the same table, when the reset chooses the form that
knows none, and the framework is told that entries have addresses of one word. -/
theorem wide_table_without_tables :
    ∃ slot' up request' after reset info memory control,
      ((Slot.bringUp registerBlockSize false).start WideAddresses.slot).run Bench.World.host
        (WideAddresses.world false) = (.ok (.ok (), slot'), up) ∧
      (slot'.issueRequest WideAddresses.request).run Bench.World.host up =
        (.ok (.ok .pending, slot', request'), after) ∧
      DescriptorTable.build [⟨0x100000000, 512⟩] true (Memory.zeroed 12) =
        .ok (.ok info, memory) ∧
      request'.command.table = some ⟨memory, 0x2000⟩ ∧
      slot'.capabilities.descriptorSize = DescriptorTable.entrySize false ∧
      ((Slot.performBusOperation (.resetHost .all)).start slot').run Bench.World.host up =
        (.ok (.ok (), slot'), reset) ∧
      (((Slot.performBusOperation (.resetHost .all)).start slot').history Bench.World.host
        up).getLast? = some ⟨.write .byte HostControl1.register.offset control, ()⟩ ∧
      HostControl1.dmaSelect.get control = DmaSelect.sdma.code :=
  ⟨_, _, _, _, _, _, _, _, rfl, rfl, rfl, rfl, rfl, rfl, rfl, rfl⟩

end SdHost
