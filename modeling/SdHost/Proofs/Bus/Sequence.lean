import SdHost.Proofs.Bus.Signaling
import SdHost.Proofs.Regulator.Call

/-!
# The order of a switch of the signals

A switch of the signals is made in an order that keeps the card from harm: its clock is stopped first,
the regulator is moved once the card has agreed to it, the controller is switched once the regulator is
where it is to be, and what was done is undone if something goes wrong after it. All of this holds
whatever the registers read and whatever the firmware does.

The module introduces:

* `Signaling.gateEvents`, `latchEvents`: what the stages ask;
* `Signaling.Supply`, `Spoiled`, `Restore`: how the regulator is moved, what can go wrong once the
  controller is switched, and how the regulator is put back;
* `Signaling.Continued`, `Trace`: every way in which a switch can go, with the calls that it makes;
* `Signaling.Sequenced`: what is to hold of the order.

Main statement: `switch_sequenced`, every switch keeps to the order.
-/

namespace SdHost

namespace Signaling

/-! ## What the stages ask -/

/-- The clock is let through or stopped, and the data lines are looked at once that has settled. -/
def gateEvents (options : Options) (on : Bool) (clock : HalfWord) (present : Word) : List Event :=
  ClockControl.register.readEvents clock ++
    (ClockControl.register.writeEvents (ClockControl.sdClockEnable.put on clock) ++
      ⟨.delay options.clockSettle, ()⟩ :: PresentState.register.readEvents present)

/-- The setting is written, and read back once that has settled. -/
def latchEvents (options : Options) (at18 : Bool) (control latched : HalfWord) : List Event :=
  HostControl2.register.readEvents control ++
    (HostControl2.register.writeEvents (HostControl2.signaling1_8.put at18 control) ++
      ⟨.delay options.signalingSettle, ()⟩ :: HostControl2.register.readEvents latched)

theorem ensures_gateClock_dataLines (options : Options) (on : Bool) :
    (Timing.gateClock on >>= fun _ => Program.delay options.clockSettle >>= fun _ =>
      dataLines).Ensures (fun _ => True) fun events outcome =>
        ∃ clock present, events = gateEvents options on clock present ∧
          outcome = .ok (PresentState.datLines.get present) := by
  -- each of the queries in turn, of which only the two reads are told anything
  intro _ _ clock _ _ _ _ _ _ _ _ _ present _
  exact ⟨clock, present, rfl, rfl⟩

theorem ensures_prepare (options : Options) :
    (prepare options).Ensures (fun _ => True) fun events outcome =>
      ∃ clock present, events = gateEvents options false clock present ∧
        outcome = .ok (PresentState.datLines.get present) :=
  ensures_gateClock_dataLines options false

theorem ensures_release (options : Options) :
    (release options).Ensures (fun _ => True) fun events outcome =>
      ∃ clock present, events = gateEvents options true clock present ∧
        outcome = .ok (PresentState.datLines.get present) :=
  ensures_gateClock_dataLines options true

theorem ensures_latch (options : Options) (at18 : Bool) :
    (latch options at18).Ensures (fun _ => True) fun events outcome =>
      ∃ control latched, events = latchEvents options at18 control latched ∧
        outcome = .ok latched := by
  intro _ _ control _ _ _ _ _ _ _ _ _ latched _
  exact ⟨control, latched, rfl, rfl⟩

/-! ## How a switch can go -/

/-- The regulator is where it is to be, with the calls that it took. -/
inductive Supply (slot : Slot) (at18 : Bool) : List RegulatorCall → Slot → Prop
  /-- The controller has no need of it, or it was there before. -/
  | ready (hready : slot.controller.externalRegulator = false ∨ slot.regulatorAt18 = at18) :
      Supply slot at18 [] slot
  /-- The firmware has accepted a call. -/
  | moved {forth : RegulatorCall} (hmove : slot.regulatorAt18 ≠ at18)
      (hchannel : slot.regulator = some forth.channel) (htarget : forth.at18 = at18)
      (haccepted : forth.Accepted) :
      Supply slot at18 [forth] { slot with regulatorAt18 := at18 }

/-- Something goes wrong once the controller has been switched. -/
inductive Spoiled (options : Options) (at18 : Bool) : List Event → Prop
  /-- The controller drops the setting. -/
  | dropped {control latched : HalfWord} (hlatched : HostControl2.signaling1_8.test latched ≠ at18) :
      Spoiled options at18 (latchEvents options at18 control latched)
  /-- The card does not let its lines go. -/
  | unreleased {control latched clock : HalfWord} {present : Word}
      (hlatched : HostControl2.signaling1_8.test latched = at18)
      (hlines : PresentState.datLines.get present ≠ 0xF) :
      Spoiled options at18
        (latchEvents options at18 control latched ++ gateEvents options true clock present)

/-- The regulator is put back, if it was moved. -/
inductive Restore (previous : Bool) (moved : Slot) :
    List RegulatorCall → Except Fault Slot → Prop
  /-- It is where it was. -/
  | still (hsame : moved.regulatorAt18 = previous) : Restore previous moved [] (.ok moved)
  /-- There is no way to reach it. -/
  | unreached (hmoved : moved.regulatorAt18 ≠ previous) (hnone : moved.regulator = none) :
      Restore previous moved [] (.ok moved)
  /-- A call is made, and what comes of it is noted. -/
  | called {back : RegulatorCall} (hmoved : moved.regulatorAt18 ≠ previous)
      (hchannel : moved.regulator = some back.channel) (htarget : back.at18 = previous) :
      Restore previous moved [back]
        (back.outcome.map fun result => (moved.noted previous result).2)

/-- The ways in which a switch can go on once the card has agreed to it. -/
inductive Continued (slot : Slot) (at18 : Bool) :
    List RegulatorCall → List Event → Except Fault (Except Error Unit × Slot) → Prop
  /-- There is no way to reach the regulator. -/
  | unreached (hexternal : slot.controller.externalRegulator = true)
      (hmove : slot.regulatorAt18 ≠ at18) (hnone : slot.regulator = none) :
      Continued slot at18 [] [] (.ok (.error (.regulator .notFound), slot))
  /-- The call that is to move the regulator fails. -/
  | refused {forth : RegulatorCall} (hexternal : slot.controller.externalRegulator = true)
      (hmove : slot.regulatorAt18 ≠ at18) (hchannel : slot.regulator = some forth.channel)
      (htarget : forth.at18 = at18) (hrefused : ¬ forth.Accepted) :
      Continued slot at18 [forth] forth.events (forth.outcome.map (slot.noted at18))
  /-- The switch is given up, and the regulator put back. -/
  | spoiled {forth back : List RegulatorCall} {moved : Slot} {events : List Event}
      {restored : Except Fault Slot} (hsupply : Supply slot at18 forth moved)
      (hspoiled : Spoiled slot.options at18 events)
      (hrestore : Restore slot.regulatorAt18 moved back restored) :
      Continued slot at18 (forth ++ back)
        (forth.flatMap RegulatorCall.events ++ (events ++ back.flatMap RegulatorCall.events))
        (restored.map fun slot' => (.error .unsuccessful, slot'))
  /-- The signals are switched. -/
  | completed {forth : List RegulatorCall} {moved : Slot} {control latched clock : HalfWord}
      {present : Word} (hsupply : Supply slot at18 forth moved)
      (hlatched : HostControl2.signaling1_8.test latched = at18)
      (hlines : PresentState.datLines.get present = 0xF) :
      Continued slot at18 forth
        (forth.flatMap RegulatorCall.events ++ (latchEvents slot.options at18 control latched ++
          gateEvents slot.options true clock present))
        (.ok (.ok (), moved))

/-- The ways in which a switch can go. -/
inductive Trace (slot : Slot) (at18 : Bool) :
    List RegulatorCall → List Event → Except Fault (Except Error Unit × Slot) → Prop
  /-- The card does not agree to it. -/
  | blocked {clock : HalfWord} {present : Word} (hlines : PresentState.datLines.get present ≠ 0) :
      Trace slot at18 [] (gateEvents slot.options false clock present)
        (.ok (.error .unsuccessful, slot))
  /-- The card agrees to it. -/
  | continued {clock : HalfWord} {present : Word} {calls : List RegulatorCall} {later : List Event}
      {outcome : Except Fault (Except Error Unit × Slot)}
      (hlines : PresentState.datLines.get present = 0)
      (hlater : Continued slot at18 calls later outcome) :
      Trace slot at18 calls (gateEvents slot.options false clock present ++ later) outcome

variable {slot moved : Slot} {at18 : Bool}

theorem ensures_putBack (previous : Bool) (moved : Slot) :
    (putBack previous moved).Ensures (fun _ => True) fun events restored =>
      ∃ back, Restore previous moved back restored ∧
        events = back.flatMap RegulatorCall.events := by
  rw [putBack]
  split
  next hmoved =>
    have hne : moved.regulatorAt18 ≠ previous := by simpa using hmoved
    rw [Program.ensures_bind]
    refine (Slot.ensures_switchRegulator previous moved).mono ?_
    rintro _ _ (⟨hnone, rfl, rfl⟩ | ⟨back, hchannel, htarget, rfl, rfl⟩)
    · exact ⟨[], .unreached hne hnone, rfl⟩
    · have hback := Restore.called hne hchannel htarget
      cases hresult : back.outcome with
      | error cause =>
        rw [hresult] at hback
        exact ⟨[back], hback, (List.flatMap_singleton _ _).symm⟩
      | ok result =>
        rw [hresult] at hback
        refine ⟨[back], hback, ?_⟩
        rw [List.append_nil, List.flatMap_singleton]
  next hsame =>
    exact ⟨[], .still (by simpa using hsame), rfl⟩

/-- The regulator is moved, or the switch ends there. -/
theorem ensures_moveRegulator (at18 : Bool) (slot : Slot) :
    ((moveRegulator at18).start slot).Ensures (fun _ => True) fun events outcome =>
      (∃ calls moved, Supply slot at18 calls moved ∧
          events = calls.flatMap RegulatorCall.events ∧ outcome = .ok (.ok (), moved)) ∨
        (∀ moved, outcome ≠ .ok (.ok (), moved)) ∧
          ∃ calls, Continued slot at18 calls events outcome := by
  rw [start_moveRegulator]
  split
  next hneeded =>
    obtain ⟨hexternal, hmove⟩ :
        slot.controller.externalRegulator = true ∧ slot.regulatorAt18 ≠ at18 := by
      simpa using hneeded
    refine (Slot.ensures_switchRegulator at18 slot).mono ?_
    rintro _ _ (⟨hnone, rfl, rfl⟩ | ⟨forth, hchannel, htarget, rfl, rfl⟩)
    · exact .inr ⟨by rintro _ ⟨⟩, [], .unreached hexternal hmove hnone⟩
    by_cases haccepted : forth.Accepted
    · refine .inl ⟨[forth], _, .moved hmove hchannel htarget haccepted, ?_, ?_⟩
      · rw [List.flatMap_singleton]
      · rw [haccepted]
        rfl
    · refine .inr ⟨fun moved hmoved => ?_, [forth],
        .refused hexternal hmove hchannel htarget haccepted⟩
      -- only an accepted call is noted as a success
      rcases RegulatorCall.accepted_or_refused hmoved with ⟨h, -⟩ | ⟨_, -, hnoted⟩
      · exact haccepted h
      · cases hnoted
  next hready =>
    have hready : slot.controller.externalRegulator = false ∨ slot.regulatorAt18 = at18 := by
      simpa [imp_iff_not_or] using hready
    exact .inl ⟨[], slot, .ready hready, rfl, rfl⟩

/-- Once the regulator is where it is to be, the controller is switched. -/
theorem ensures_finish {forth : List RegulatorCall} (hsupply : Supply slot at18 forth moved) :
    ((finish slot.options at18 slot.regulatorAt18).start moved).Ensures (fun _ => True)
      fun events outcome => ∃ calls,
        Continued slot at18 calls (forth.flatMap RegulatorCall.events ++ events) outcome := by
  rw [start_finish, Program.ensures_bind]
  refine (ensures_latch _ _).mono ?_
  rintro _ _ ⟨control, latched, rfl, rfl⟩
  -- whatever went wrong, the regulator is put back and the switch fails
  have hgiveUp : ∀ {events : List Event}, Spoiled slot.options at18 events →
      (putBack slot.regulatorAt18 moved >>= fun restored =>
        .done (.error .unsuccessful, restored)).Ensures (fun _ => True) fun later outcome =>
          ∃ calls, Continued slot at18 calls
            (forth.flatMap RegulatorCall.events ++ (events ++ later)) outcome := by
    intro events hspoiled
    rw [Program.ensures_bind]
    refine (ensures_putBack _ _).mono ?_
    rintro _ (cause | restored) ⟨back, hrestore, rfl⟩
    · exact ⟨forth ++ back, .spoiled hsupply hspoiled hrestore⟩
    · refine ⟨forth ++ back, ?_⟩
      rw [List.append_nil]
      exact .spoiled hsupply hspoiled hrestore
  by_cases hlatched : HostControl2.signaling1_8.test latched = at18
  · simp only [hlatched, bne_self_eq_false, Bool.false_eq_true, if_false, Program.ensures_bind]
    refine (ensures_release _).mono ?_
    rintro _ _ ⟨clock, present, rfl, rfl⟩
    by_cases hlines : PresentState.datLines.get present = 0xF
    · simp only [hlines, ne_eq, not_true, if_false, Program.ensures_done, List.append_nil]
      exact ⟨forth, .completed hsupply hlatched hlines⟩
    · simp only [ne_eq, hlines, not_false_iff, if_true]
      have hspoiled : Spoiled slot.options at18 (latchEvents slot.options at18 control latched ++
          gateEvents slot.options true clock present) := .unreleased hlatched hlines
      refine (hgiveUp hspoiled).mono fun later outcome h => ?_
      simpa only [List.append_assoc] using h
  · simp only [bne_iff_ne, ne_eq, hlatched, not_false_iff, if_true]
    have hspoiled : Spoiled slot.options at18 (latchEvents slot.options at18 control latched) :=
      .dropped hlatched
    exact hgiveUp hspoiled

/-- Whatever a switch is told, it goes in one of these ways. -/
theorem ensures_switch (voltage : SignalingVoltage) (slot : Slot) :
    ((switch voltage).start slot).Ensures (fun _ => True) fun events outcome =>
      ∃ calls, Trace slot (voltage == .v18) calls events outcome := by
  rw [start_switch, Program.ensures_bind]
  refine (ensures_prepare _).mono ?_
  rintro _ _ ⟨clock, present, rfl, rfl⟩
  by_cases hlines : PresentState.datLines.get present = 0
  · simp only [hlines, ne_eq, not_true, if_false, Program.ensures_bind]
    refine (ensures_moveRegulator _ _).mono ?_
    rintro events outcome (⟨forth, moved, hsupply, rfl, rfl⟩ | ⟨hstopped, calls, hcontinued⟩)
    · refine (ensures_finish hsupply).mono fun later outcome => ?_
      rintro ⟨calls, hcontinued⟩
      exact ⟨calls, .continued hlines hcontinued⟩
    · rcases outcome with cause | ⟨cause | ⟨⟩, moved⟩
      · exact ⟨calls, .continued hlines hcontinued⟩
      · rw [← List.append_nil events] at hcontinued
        exact ⟨calls, .continued hlines hcontinued⟩
      · exact absurd rfl (hstopped moved)
  · simp only [ne_eq, hlines, not_false_iff, if_true, Program.ensures_done, List.append_nil]
    exact ⟨[], .blocked hlines⟩

/-! ## What is to hold of the order -/

/-- The clock was stopped, and a look at the data lines after it found all of them low. -/
def CardAgreed (earlier : List Event) : Prop :=
  ∃ clock present, ClockControl.sdClockEnable.test clock = false ∧
    PresentState.datLines.get present = 0 ∧
    List.Sublist [⟨.write .half ClockControl.register.offset clock, ()⟩,
      ⟨.read .word PresentState.register.offset, present⟩] earlier

/-- The regulator is where it is to be: the controller has no need of it, it was there before, or the
firmware accepted the one call that was made to it. -/
def Supplied (slot : Slot) (at18 : Bool) (earlier : List Event) : Prop :=
  slot.controller.externalRegulator = false ∨ slot.regulatorAt18 = at18 ∨
    ∃ call : RegulatorCall, slot.regulator = some call.channel ∧ call.at18 = at18 ∧
      call.Accepted ∧ earlier.filter Event.isMessage = call.events

/-- The events of a switch are in order, and what becomes of it is told by them. This is said of a switch
that makes some calls, has some events and comes to some outcome. -/
structure Sequenced (slot : Slot) (at18 : Bool) (calls : List RegulatorCall) (events : List Event)
    (outcome : Except Fault (Except Error Unit × Slot)) : Prop where
  /-- Before the card has agreed the firmware is not called, and the controller is not switched. -/
  agreed : OnlyAfter (fun event => event.isMessage = true ∨
    event.query.Reaches HostControl2.register) CardAgreed events
  /-- Before the regulator is where it is to be the controller is not switched. -/
  supplied : OnlyAfter (fun event => event.query.Reaches HostControl2.register)
    (Supplied slot at18) events
  /-- A switch succeeds only if the setting read back is the one that was asked for, and if the card
  has let all of its lines go once the clock is let through again. Where the controller needs the
  regulator, the slot notes that it is where it was asked to be. -/
  completed : ∀ slot', outcome = .ok (.ok (), slot') →
    (∃ earlier control latched clock present,
      events = earlier ++ (latchEvents slot.options at18 control latched ++
        gateEvents slot.options true clock present) ∧
      HostControl2.signaling1_8.test latched = at18 ∧
      PresentState.datLines.get present = 0xF) ∧
    (slot.controller.externalRegulator = true → slot'.regulatorAt18 = at18)
  /-- A switch that fails leaves the note about the regulator as it was, unless the regulator was moved
  and the call that was to put it back was refused. -/
  failed : ∀ cause slot', outcome = .ok (.error cause, slot') →
    (slot'.regulatorAt18 ≠ slot.regulatorAt18 ↔ ∃ forth back, calls = [forth, back] ∧
      back.at18 = slot.regulatorAt18 ∧ back.Refused)
  /-- A switch is given up for a reason only: the card does not agree to it, the regulator has to be moved
  and cannot be, or something goes wrong once the controller is switched. -/
  reason : ∀ cause slot', outcome = .ok (.error cause, slot') →
    (∃ clock present, events = gateEvents slot.options false clock present ∧
      PresentState.datLines.get present ≠ 0) ∨
    (slot.controller.externalRegulator = true ∧ slot.regulatorAt18 ≠ at18 ∧
      (slot.regulator = none ∧ calls = [] ∨ ∃ forth, calls = [forth] ∧ forth.Refused)) ∨
    ∃ earlier middle later, events = earlier ++ (middle ++ later) ∧
      Spoiled slot.options at18 middle
  /-- The firmware is called to move the regulator and to put it back, and for nothing else. -/
  messages : events.filter Event.isMessage = calls.flatMap RegulatorCall.events
  /-- It is called through the channel of the slot. -/
  channel : ∀ call ∈ calls, slot.regulator = some call.channel
  /-- It is called twice at most. -/
  length_le : calls.length ≤ 2
  /-- Two messages are handed to it at most, if no worker runs its work more than once. -/
  delivered : (∀ event ∈ events, event.RunsOnce) → events.countP Event.delivers ≤ 2

section Order

variable {calls : List RegulatorCall} {events : List Event}
  {outcome : Except Fault (Except Error Unit × Slot)}

/-! ### The calls that are made -/

theorem Supply.length_le (h : Supply slot at18 calls moved) : calls.length ≤ 1 := by
  cases h with
  | ready => exact Nat.zero_le 1
  | moved => exact Nat.le_refl 1

theorem Restore.length_le {previous : Bool} {restored : Except Fault Slot}
    (h : Restore previous moved calls restored) : calls.length ≤ 1 := by
  cases h with
  | still | unreached => exact Nat.zero_le 1
  | called => exact Nat.le_refl 1

theorem Supply.channel (h : Supply slot at18 calls moved) :
    moved.regulator = slot.regulator ∧ ∀ call ∈ calls, slot.regulator = some call.channel := by
  cases h with
  | ready => exact ⟨rfl, List.forall_mem_nil _⟩
  | moved _ hchannel => exact ⟨rfl, List.forall_mem_singleton.mpr hchannel⟩

theorem Restore.channel {previous : Bool} {restored : Except Fault Slot}
    (h : Restore previous moved calls restored) :
    ∀ call ∈ calls, moved.regulator = some call.channel := by
  cases h with
  | still | unreached => exact List.forall_mem_nil _
  | called _ hchannel => exact List.forall_mem_singleton.mpr hchannel

theorem Continued.length_le (h : Continued slot at18 calls events outcome) : calls.length ≤ 2 := by
  cases h with
  | unreached => exact Nat.zero_le 2
  | refused => exact Nat.le_succ 1
  | spoiled hsupply _ hrestore =>
    rw [List.length_append]
    exact Nat.add_le_add hsupply.length_le hrestore.length_le
  | completed hsupply => exact Nat.le_succ_of_le hsupply.length_le

theorem Continued.channel (h : Continued slot at18 calls events outcome) :
    ∀ call ∈ calls, slot.regulator = some call.channel := by
  cases h with
  | unreached => exact List.forall_mem_nil _
  | refused _ _ hchannel => exact List.forall_mem_singleton.mpr hchannel
  | spoiled hsupply _ hrestore =>
    obtain ⟨hsame, hforth⟩ := hsupply.channel
    exact List.forall_mem_append.mpr ⟨hforth, hsame ▸ hrestore.channel⟩
  | completed hsupply => exact hsupply.channel.2

theorem filter_isMessage_gateEvents (options : Options) (on : Bool) (clock : HalfWord)
    (present : Word) : (gateEvents options on clock present).filter Event.isMessage = [] := rfl

theorem filter_isMessage_latchEvents (options : Options) (at18 : Bool) (control latched : HalfWord) :
    (latchEvents options at18 control latched).filter Event.isMessage = [] := rfl

theorem Spoiled.filter_isMessage {options : Options} (h : Spoiled options at18 events) :
    events.filter Event.isMessage = [] := by
  cases h with
  | dropped => exact filter_isMessage_latchEvents _ _ _ _
  | unreleased =>
    rw [List.filter_append, filter_isMessage_latchEvents, filter_isMessage_gateEvents]
    rfl

theorem Continued.messages (h : Continued slot at18 calls events outcome) :
    events.filter Event.isMessage = calls.flatMap RegulatorCall.events := by
  cases h with
  | unreached => rfl
  | @refused forth =>
    rw [List.flatMap_singleton]
    exact List.filter_eq_self.mpr forth.isMessage
  | spoiled _ hspoiled _ =>
    rw [List.filter_append, List.filter_append, RegulatorCall.filter_isMessage_flatMap,
      hspoiled.filter_isMessage, RegulatorCall.filter_isMessage_flatMap, List.nil_append,
      List.flatMap_append]
  | completed =>
    rw [List.filter_append, List.filter_append, RegulatorCall.filter_isMessage_flatMap,
      filter_isMessage_latchEvents, filter_isMessage_gateEvents, List.append_nil, List.append_nil]

/-! ### The controller is switched when the regulator is where it is to be -/

theorem Supply.supplied (h : Supply slot at18 calls moved) {earlier : List Event}
    (hmessages : earlier.filter Event.isMessage = calls.flatMap RegulatorCall.events) :
    Supplied slot at18 earlier := by
  cases h with
  | ready hready => exact hready.elim .inl fun hsame => .inr (.inl hsame)
  | @moved forth _ hchannel htarget haccepted =>
    rw [List.flatMap_singleton] at hmessages
    exact .inr (.inr ⟨forth, hchannel, htarget, haccepted, hmessages⟩)

theorem gateEvents_unreached (options : Options) (on : Bool) (clock : HalfWord) (present : Word) :
    ∀ event ∈ gateEvents options on clock present,
      ¬ event.query.Reaches HostControl2.register :=
  unreached_of_writes rfl

theorem flatMap_unreached (calls : List RegulatorCall) :
    ∀ event ∈ calls.flatMap RegulatorCall.events,
      ¬ event.query.Reaches HostControl2.register := fun event hevent =>
  Event.not_reaches_of_isMessage (RegulatorCall.isMessage_flatMap calls event hevent)

/-- The controller is switched after the calls that move the regulator, and only there. -/
theorem Supply.onlyAfter (hsupply : Supply slot at18 calls moved) {before later : List Event}
    (hbefore : before.filter Event.isMessage = []) {options : Options} {control latched : HalfWord}
    (hlater : ∀ event ∈ later, ¬ event.query.Reaches HostControl2.register) :
    OnlyAfter (fun event => event.query.Reaches HostControl2.register)
      (fun earlier => Supplied slot at18 (before ++ earlier))
      (calls.flatMap RegulatorCall.events ++
        (latchEvents options at18 control latched ++ later)) := by
  refine OnlyAfter.append (.of_forall_not (flatMap_unreached calls)) ?_
  refine OnlyAfter.append ?_ (.of_forall_not hlater)
  intro earlier event hprefix _
  -- no message is sent while the setting is made
  have hquiet : earlier.filter Event.isMessage = [] := by
    have hsublist := (((List.prefix_append earlier [event]).trans hprefix).sublist.filter
      Event.isMessage)
    exact List.sublist_nil.mp hsublist
  refine hsupply.supplied ?_
  rw [List.filter_append, List.filter_append, hbefore, hquiet,
    RegulatorCall.filter_isMessage_flatMap, List.append_nil, List.nil_append]

theorem Spoiled.eq_latchEvents_append {options : Options} (h : Spoiled options at18 events) :
    ∃ control latched later, events = latchEvents options at18 control latched ++ later ∧
      ∀ event ∈ later, ¬ event.query.Reaches HostControl2.register := by
  cases h with
  | dropped => exact ⟨_, _, [], (List.append_nil _).symm, List.forall_mem_nil _⟩
  | unreleased => exact ⟨_, _, _, rfl, gateEvents_unreached _ _ _ _⟩

theorem Continued.supplied (h : Continued slot at18 calls events outcome) {before : List Event}
    (hbefore : before.filter Event.isMessage = []) :
    OnlyAfter (fun event => event.query.Reaches HostControl2.register)
      (fun earlier => Supplied slot at18 (before ++ earlier)) events := by
  cases h with
  | unreached => exact .of_forall_not (List.forall_mem_nil _)
  | @refused forth =>
    exact .of_forall_not fun event hevent =>
      Event.not_reaches_of_isMessage (forth.isMessage event hevent)
  | @spoiled _ back _ _ _ hsupply hspoiled _ =>
    obtain ⟨control, latched, later, rfl, hlater⟩ := hspoiled.eq_latchEvents_append
    rw [List.append_assoc]
    exact hsupply.onlyAfter hbefore
      (List.forall_mem_append.mpr ⟨hlater, flatMap_unreached back⟩)
  | completed hsupply => exact hsupply.onlyAfter hbefore (gateEvents_unreached _ _ _ _)

/-! ### What becomes of a switch -/

theorem Supply.regulatorAt18_eq (h : Supply slot at18 calls moved)
    (hexternal : slot.controller.externalRegulator = true) : moved.regulatorAt18 = at18 := by
  cases h with
  | ready hready =>
    rcases hready with hnone | hsame
    · rw [hexternal] at hnone
      cases hnone
    · exact hsame
  | moved => rfl

/-- A switch that was given up leaves the note as it was, unless the call back was refused. -/
theorem Supply.note_of_restore {forth back : List RegulatorCall} {slot' : Slot}
    {restored : Except Fault Slot} (hsupply : Supply slot at18 forth moved)
    (hrestore : Restore slot.regulatorAt18 moved back restored) (hrestored : restored = .ok slot') :
    slot'.regulatorAt18 ≠ slot.regulatorAt18 ↔ ∃ first second, forth ++ back = [first, second] ∧
      second.at18 = slot.regulatorAt18 ∧ second.Refused := by
  cases hsupply with
  | ready =>
    -- the regulator was not moved, and there is nothing to put back
    cases hrestore with
    | still =>
      cases hrestored
      exact iff_of_false (not_not.mpr rfl) (by rintro ⟨_, _, ⟨⟩, -⟩)
    | unreached hmoved | called hmoved => exact absurd rfl hmoved
  | @moved first hmove hchannel _ _ =>
    -- it was moved through the channel, so that a call is made to put it back
    cases hrestore with
    | still hsame => exact absurd hsame.symm hmove
    | unreached _ hnone =>
      have hsome : slot.regulator = none := hnone
      rw [hchannel] at hsome
      cases hsome
    | @called second _ _ htarget =>
      rcases RegulatorCall.accepted_or_refused hrestored with
        ⟨haccepted, rfl⟩ | ⟨cause, hrefused, rfl⟩
      · refine iff_of_false (not_not.mpr rfl) ?_
        rintro ⟨_, _, hcalls, -, cause, hrefused⟩
        cases hcalls
        rw [haccepted] at hrefused
        cases hrefused
      · exact iff_of_true hmove.symm ⟨first, second, rfl, htarget, cause, hrefused⟩

theorem Continued.switched (h : Continued slot at18 calls events outcome) {slot' : Slot}
    (houtcome : outcome = .ok (.ok (), slot')) :
    (∃ earlier control latched clock present,
      events = earlier ++ (latchEvents slot.options at18 control latched ++
        gateEvents slot.options true clock present) ∧
      HostControl2.signaling1_8.test latched = at18 ∧
      PresentState.datLines.get present = 0xF) ∧
    (slot.controller.externalRegulator = true → slot'.regulatorAt18 = at18) := by
  cases h with
  | unreached => cases houtcome
  | refused _ _ _ _ hrefused =>
    rcases RegulatorCall.accepted_or_refused houtcome with ⟨haccepted, -⟩ | ⟨_, -, hnoted⟩
    · exact absurd haccepted hrefused
    · cases hnoted
  | @spoiled _ _ _ _ restored =>
    cases restored with
    | error | ok => cases houtcome
  | completed hsupply hlatched hlines =>
    cases houtcome
    exact ⟨⟨_, _, _, _, _, rfl, hlatched, hlines⟩, hsupply.regulatorAt18_eq⟩

theorem Continued.failed (h : Continued slot at18 calls events outcome) {cause : Error}
    {slot' : Slot} (houtcome : outcome = .ok (.error cause, slot')) :
    slot'.regulatorAt18 ≠ slot.regulatorAt18 ↔ ∃ forth back, calls = [forth, back] ∧
      back.at18 = slot.regulatorAt18 ∧ back.Refused := by
  cases h with
  | unreached =>
    cases houtcome
    exact iff_of_false (not_not.mpr rfl) (by rintro ⟨_, _, ⟨⟩, -⟩)
  | refused _ _ _ _ hrefused =>
    rcases RegulatorCall.accepted_or_refused houtcome with ⟨haccepted, -⟩ | ⟨_, -, hnoted⟩
    · exact absurd haccepted hrefused
    · cases hnoted
      exact iff_of_false (not_not.mpr rfl) (by rintro ⟨_, _, ⟨⟩, -⟩)
  | @spoiled _ _ _ _ restored hsupply _ hrestore =>
    cases restored with
    | error => cases houtcome
    | ok =>
      cases houtcome
      exact hsupply.note_of_restore hrestore rfl
  | completed => cases houtcome

theorem Continued.reason (h : Continued slot at18 calls events outcome) {cause : Error}
    {slot' : Slot} (houtcome : outcome = .ok (.error cause, slot')) :
    (slot.controller.externalRegulator = true ∧ slot.regulatorAt18 ≠ at18 ∧
      (slot.regulator = none ∧ calls = [] ∨ ∃ forth, calls = [forth] ∧ forth.Refused)) ∨
    ∃ earlier middle later, events = earlier ++ (middle ++ later) ∧
      Spoiled slot.options at18 middle := by
  cases h with
  | unreached hexternal hmove hnone => exact .inl ⟨hexternal, hmove, .inl ⟨hnone, rfl⟩⟩
  | @refused forth hexternal hmove _ _ haccepted =>
    rcases RegulatorCall.accepted_or_refused houtcome with ⟨h, -⟩ | ⟨cause, hrefused, -⟩
    · exact absurd h haccepted
    · exact .inl ⟨hexternal, hmove, .inr ⟨forth, rfl, cause, hrefused⟩⟩
  | spoiled _ hspoiled _ => exact .inr ⟨_, _, _, rfl, hspoiled⟩
  | completed => cases houtcome

/-! ### Every way keeps to the order -/

theorem cardAgreed_append {options : Options} {clock : HalfWord} {present : Word}
    (hlines : PresentState.datLines.get present = 0) (more : List Event) :
    CardAgreed (gateEvents options false clock present ++ more) := by
  refine ⟨ClockControl.sdClockEnable.put false clock, present, ?_, hlines, ?_⟩
  · exact Field.test_put _ (by decide) rfl _ _
  · refine List.Sublist.trans ?_ (List.sublist_append_left _ more)
    -- the clock is written fourth, and the data lines are read last
    exact .cons _ (.cons _ (.cons _ (.cons_cons _ (.cons _ (.cons _ (.cons_cons _ .slnil))))))

theorem gateEvents_acts (options : Options) (on : Bool) (clock : HalfWord) (present : Word) :
    ∀ event ∈ gateEvents options on clock present,
      ¬ (event.isMessage = true ∨ event.query.Reaches HostControl2.register) := by
  rintro event hevent (hmessage | hreaches)
  · exact List.filter_eq_nil_iff.mp (filter_isMessage_gateEvents _ _ _ _) event hevent hmessage
  · exact gateEvents_unreached _ _ _ _ event hevent hreaches

theorem Trace.agreed (h : Trace slot at18 calls events outcome) :
    OnlyAfter (fun event => event.isMessage = true ∨ event.query.Reaches HostControl2.register)
      CardAgreed events := by
  cases h with
  | blocked => exact .of_forall_not (gateEvents_acts _ _ _ _)
  | continued hlines =>
    exact (OnlyAfter.of_forall_not (gateEvents_acts _ _ _ _)).append_of_forall
      (cardAgreed_append hlines)

theorem countP_delivers_le_of_messages
    (hmessages : events.filter Event.isMessage = calls.flatMap RegulatorCall.events)
    (honce : ∀ event ∈ events, event.RunsOnce) :
    events.countP Event.delivers ≤ calls.length := by
  rw [← countP_delivers_filter_isMessage, hmessages]
  refine RegulatorCall.countP_delivers_flatMap_le calls fun event hevent => honce event ?_
  rw [← hmessages] at hevent
  exact List.mem_of_mem_filter hevent

theorem Trace.sequenced (h : Trace slot at18 calls events outcome) :
    Sequenced slot at18 calls events outcome := by
  have hagreed := h.agreed
  cases h with
  | @blocked clock present hlines =>
    have hmessages : (gateEvents slot.options false clock present).filter Event.isMessage =
        ([] : List RegulatorCall).flatMap RegulatorCall.events :=
      filter_isMessage_gateEvents _ _ _ _
    refine ⟨hagreed, .of_forall_not (gateEvents_unreached _ _ _ _), ?_, ?_,
      fun _ _ _ => .inl ⟨clock, present, rfl, hlines⟩, hmessages, List.forall_mem_nil _,
      Nat.zero_le 2,
      fun honce => (countP_delivers_le_of_messages hmessages honce).trans (Nat.zero_le 2)⟩
    · rintro _ ⟨⟩
    · rintro _ _ ⟨⟩
      exact iff_of_false (not_not.mpr rfl) (by rintro ⟨_, _, ⟨⟩, -⟩)
  | @continued clock present _ later _ _ hlater =>
    have hgate := filter_isMessage_gateEvents slot.options false clock present
    have hmessages : (gateEvents slot.options false clock present ++ later).filter Event.isMessage =
        calls.flatMap RegulatorCall.events := by
      rw [List.filter_append, hgate, hlater.messages, List.nil_append]
    refine ⟨hagreed, ?_, fun slot' houtcome => ?_, fun cause slot' => hlater.failed,
      fun cause slot' houtcome => ?_, hmessages, hlater.channel, hlater.length_le,
      fun honce => (countP_delivers_le_of_messages hmessages honce).trans hlater.length_le⟩
    · exact (OnlyAfter.of_forall_not (gateEvents_unreached _ _ _ _)).append (hlater.supplied hgate)
    · obtain ⟨⟨earlier, control, latched, clock', present', rfl, hlast⟩, hnote⟩ :=
        hlater.switched houtcome
      refine ⟨⟨gateEvents slot.options false clock present ++ earlier, control, latched, clock',
        present', ?_, hlast⟩, hnote⟩
      rw [List.append_assoc]
    · rcases hlater.reason houtcome with hregulator | ⟨earlier, middle, more, rfl, hspoiled⟩
      · exact .inr (.inl hregulator)
      · refine .inr (.inr ⟨gateEvents slot.options false clock present ++ earlier, middle, more, ?_,
          hspoiled⟩)
        rw [List.append_assoc]

end Order

end Signaling

/-- **The order of a switch.** Take any slot and any state of what surrounds it, whatever the registers
read, whatever the firmware does, and whether or not the switch comes to its end. The firmware is called
and the controller switched in order, success and failure have their reasons, and the note about the
regulator tells where it was moved to. -/
theorem switch_sequenced {σ : Type} (host : Host σ) (voltage : SignalingVoltage) (slot : Slot)
    (state : σ) :
    ∃ calls, Signaling.Sequenced slot (voltage == .v18) calls
      (((Slot.performBusOperation (.setSignalingVoltage voltage)).start slot).history host state)
      (((Slot.performBusOperation (.setSignalingVoltage voltage)).start slot).run host state).1 := by
  rw [Signaling.start_performBusOperation]
  obtain ⟨calls, htrace⟩ := (Signaling.ensures_switch voltage slot).run (fun _ _ => trivial) state
  exact ⟨calls, htrace.sequenced⟩

/-- The firmware accepts the call that moves the regulator, and the card lets all of its lines go. -/
theorem switch_sequenced_released :
    ∃ calls slot' after,
      ((Slot.performBusOperation (.setSignalingVoltage .v18)).start HeldLines.slot).run
        (HeldLines.world 0xF) HeldLines.file = (.ok (.ok (), slot'), after) ∧
      Signaling.Sequenced HeldLines.slot true calls
        (((Slot.performBusOperation (.setSignalingVoltage .v18)).start HeldLines.slot).history
          (HeldLines.world 0xF) HeldLines.file) (.ok (.ok (), slot')) ∧
      slot'.regulatorAt18 = true := by
  obtain ⟨⟨_, slot'⟩, after, hrun, hswitched⟩ : ∃ outcome after,
      ((Slot.performBusOperation (.setSignalingVoltage .v18)).start HeldLines.slot).run
        (HeldLines.world 0xF) HeldLines.file = (.ok outcome, after) ∧ outcome.1 = .ok () :=
    Program.exists_of_run_any (by decide +kernel)
  cases hswitched
  obtain ⟨calls, hsequenced⟩ :=
    switch_sequenced (HeldLines.world 0xF) .v18 HeldLines.slot HeldLines.file
  rw [hrun] at hsequenced
  obtain ⟨-, hnote⟩ := hsequenced.completed slot' rfl
  exact ⟨calls, slot', after, hrun, hsequenced, hnote rfl⟩

end SdHost
