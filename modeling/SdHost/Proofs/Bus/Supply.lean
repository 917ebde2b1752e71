import SdHost.Proofs.Bus.Footprint
import SdHost.Proofs.Host.Values
import SdHost.Proofs.Register.Field

/-!
# The supply voltage

The card is never powered with another voltage than the one that was asked for, and the voltage is not
changed under power: whatever the power control register reads, and however late or seldom it takes a
setting, the power has to be seen to be off before. What the register holds besides the supply of the
card is kept.

The module introduces:

* `SupplyVoltage.WritesBack`: one attempt of the two loops, which write a setting until it is read back;
* `SupplyVoltage.PowerDown`, `Course`: every way in which the voltage can be set;
* `SupplyVoltage.MayWrite`: what may be written after some values were read;
* `SupplyVoltage.Guarded`: what is to hold of setting the voltage.

Main statement: `Slot.setVoltage_guarded`, setting the voltage is guarded in this way.
-/

namespace SdHost

namespace SupplyVoltage

open PowerControl (register)

/-! ## What is written, and what is waited for -/

/-- The register without the power. -/
def unpowered (power : Byte) : Byte :=
  PowerControl.powerOn.put false power

/-- The register with another voltage. -/
def selecting (select : Nat) (power : Byte) : Byte :=
  PowerControl.voltageSelect.set select power

/-- The register with a voltage and the power. -/
def powered (select : Nat) (power : Byte) : Byte :=
  PowerControl.powerOn.put true (selecting select power)

/-- The power is off. -/
def isOff (power : Byte) : Bool :=
  !PowerControl.powerOn.test power

/-- The power is on, with the given voltage. -/
def isOn (select : Nat) (power : Byte) : Bool :=
  PowerControl.powerOn.test power && PowerControl.voltageSelect.get power == select

/-! ## How the voltage can be set -/

/-- An attempt of a loop that writes back what was read, changed in some way, until a test finds that it
was taken. The next attempt goes on from what was read. -/
def WritesBack (change : Byte → Byte) (test : Byte → Bool) (power : Byte) (events : List Event)
    (left : Byte) (reached : Bool) : Prop :=
  events = register.writeEvents (change power) ++ register.readEvents left ∧ reached = test left

/-- The ways in which the power can be switched off, with what is left in the register. -/
inductive PowerDown (options : Options) (initial : Byte) : List Stretch → Option Byte → Prop
  /-- It is off. -/
  | already (hoff : isOff initial = true) : PowerDown options initial [] (some initial)
  /-- It is switched off, or time runs out. -/
  | polled {trials : List Trial} {left : Option Byte} (hon : isOff initial = false)
      (hpolled : Polled (WritesBack unpowered isOff) options.pollRetries initial trials left) :
      PowerDown options initial [.polling trials left.isSome] left

/-- The ways in which the voltage can be set, part by part. -/
inductive Course (voltage : SupplyVoltage) (options : Options) :
    List Stretch → Except Fault (Except Error Unit) → Prop
  /-- The power does not go off in time. -/
  | stuck {initial : Byte} {down : List Stretch} (hdown : PowerDown options initial down none) :
      Course voltage options (.plain (register.readEvents initial) :: down) (.ok (.error .timeout))
  /-- The power is to be off, and is. -/
  | off {initial power : Byte} {down : List Stretch}
      (hdown : PowerDown options initial down (some power)) (hselect : voltage.select? = none) :
      Course voltage options (.plain (register.readEvents initial) :: down) (.ok (.ok ()))
  /-- With the power off the voltage is set, and then the power is switched on, or time runs out. -/
  | on {initial power : Byte} {select : Nat} {down : List Stretch} {trials : List Trial}
      {left : Option Byte} (hdown : PowerDown options initial down (some power))
      (hselect : voltage.select? = some select)
      (hpolled : Polled (WritesBack (powered select) (isOn select)) options.pollRetries
        (selecting select power) trials left) :
      Course voltage options
        (.plain (register.readEvents initial) ::
          (down ++ [.plain (register.writeEvents (selecting select power)),
            .polling trials left.isSome]))
        (.ok (if left.isSome then .ok () else .error .timeout))

/-- Supply the card, once its power is off. -/
def supplyFrom (voltage : SupplyVoltage) (options : Options) (power : Byte) : Attempt Unit :=
  match voltage.select? with
  | none => pure ()
  | some select => discard (SupplyVoltage.powerOn options select power)

theorem supply_eq (voltage : SupplyVoltage) (options : Options) :
    voltage.supply options =
      (liftM register.read : Attempt Byte) >>= fun initial =>
        if PowerControl.powerOn.test initial then
          powerOff options initial >>= supplyFrom voltage options
        else supplyFrom voltage options initial :=
  rfl

/-- An attempt writes, and reads back. -/
theorem ensures_writeBack (change : Byte → Byte) (test : Byte → Bool) (power : Byte) :
    (writeBack (change power) >>= fun left => .done (left, test left)).Ensures (fun _ => True)
      fun events outcome => ∃ left reached, outcome = .ok (left, reached) ∧
        WritesBack change test power events left reached := by
  intro _ _ _ _ _ _ left _
  exact ⟨left, test left, rfl, rfl, rfl⟩

theorem ensures_powerOff (options : Options) (initial : Byte) :
    (powerOff options initial).run.Ensures (fun _ => True) fun events outcome =>
      ∃ trials left,
        Polled (WritesBack unpowered isOff) options.pollRetries initial trials left ∧
        events = pausing options.pollInterval trials ∧
        outcome = .ok (left.elim (.error .timeout) .ok) :=
  options.ensures_poll (ensures_writeBack unpowered isOff) initial

variable {voltage : SupplyVoltage} {options : Options} {initial power : Byte} {down : List Stretch}

theorem ensures_supplyFrom (hdown : PowerDown options initial down (some power)) :
    (supplyFrom voltage options power).run.Ensures (fun _ => True) fun events outcome =>
      ∃ stretches,
        Course voltage options (.plain (register.readEvents initial) :: (down ++ stretches)) outcome ∧
        events = options.eventsOf stretches := by
  rw [supplyFrom]
  split
  next hselect =>
    refine ⟨[], ?_, rfl⟩
    rw [List.append_nil]
    exact .off hdown hselect
  next select hselect =>
    refine (Attempt.ensures_bind _ _ _).mpr ?_
    refine Attempt.ensures_write_bind _ ?_
    refine (options.ensures_poll (ensures_writeBack (powered select) (isOn select)) _).mono ?_
    rintro _ _ ⟨trials, left, hpolled, rfl, rfl⟩
    have hcourse := Course.on hdown hselect hpolled
    cases left with
    | none =>
      refine ⟨_, hcourse, ?_⟩
      simp [selecting]
    | some left =>
      refine ⟨_, hcourse, ?_⟩
      simp [selecting]

/-- Whatever the power control register reads, the voltage is set in one of these ways. -/
theorem ensures_supply (voltage : SupplyVoltage) (options : Options) :
    (voltage.supply options).run.Ensures (fun _ => True) fun events outcome =>
      ∃ stretches, Course voltage options stretches outcome ∧
        events = options.eventsOf stretches := by
  rw [supply_eq]
  refine Attempt.ensures_read_bind _ fun initial => ?_
  split
  next hon =>
    refine (Attempt.ensures_bind _ _ _).mpr ((ensures_powerOff options initial).mono ?_)
    rintro _ _ ⟨trials, _ | power, hpolled, rfl, rfl⟩
    · refine ⟨_, .stuck (.polled (by simpa [isOff] using hon) hpolled), ?_⟩
      simp
    · have hdown := PowerDown.polled (by simpa [isOff] using hon) hpolled
      refine (ensures_supplyFrom hdown).mono ?_
      rintro _ _ ⟨stretches, hcourse, rfl⟩
      refine ⟨_, hcourse, ?_⟩
      simp
  next hoff =>
    have hdown : PowerDown options initial [] (some initial) := .already (by simpa [isOff] using hoff)
    refine (ensures_supplyFrom hdown).mono ?_
    rintro _ _ ⟨stretches, hcourse, rfl⟩
    exact ⟨_, hcourse, rfl⟩

/-! ## What is read and written in a loop -/

section Loops

variable {change : Byte → Byte} {test : Byte → Bool} {retries : Nat} {trials : List Trial}
  {left : Option Byte}

/-- The event writes the value. -/
def Writes (value : Byte) (event : Event) : Prop :=
  event = ⟨.write .byte register.offset value, ()⟩

theorem onlyAfter_writeEvents {Ready : List Event → Prop} {written value : Byte}
    (h : written = value → Ready [⟨.barrier, ()⟩]) :
    OnlyAfter (Writes value) Ready (register.writeEvents written) := by
  refine .cons (by rintro ⟨⟩) (.cons ?_ (.of_forall_not (List.forall_mem_nil _)))
  rintro ⟨⟩
  exact h rfl

theorem onlyAfter_readEvents {Ready : List Event → Prop} (read value : Byte) :
    OnlyAfter (Writes value) Ready (register.readEvents read) := by
  refine .of_forall_not ?_
  simp [Register.readEvents, Writes]

/-- If the first attempt of a loop may write what it writes, and any other what becomes of the value that
was read last, all writes are such that may be made. -/
theorem onlyAfter_pausing {May : List Byte → Byte → Prop}
    (h : Polled (WritesBack change test) retries power trials left) {before : List Byte}
    (hfirst : May before (change power))
    (hmay : ∀ reads last, before <+: reads → reads.getLast? = some last → May reads (change last))
    (interval : Word) (value : Byte) :
    OnlyAfter (Writes value) (fun earlier => May (before ++ register.valuesRead earlier) value)
      (pausing interval trials) := by
  have hattempt : ∀ {power left : Byte} {before : List Byte}, May before (change power) →
      OnlyAfter (Writes value) (fun earlier => May (before ++ register.valuesRead earlier) value)
        (register.writeEvents (change power) ++ register.readEvents left) := by
    intro power left before hfirst
    refine (onlyAfter_writeEvents ?_).append (onlyAfter_readEvents _ _)
    rintro rfl
    simpa using hfirst
  -- what an attempt reads is what the next one goes on from
  induction h generalizing before with
  | reached hgoes | exhausted hgoes =>
    obtain ⟨rfl, -⟩ := hgoes
    rw [pausing_singleton]
    exact hattempt hfirst
  | @retried _ power left _ _ _ hgoes hlater ih =>
    obtain ⟨rfl, -⟩ := hgoes
    rw [pausing_cons hlater.ne_nil]
    refine (hattempt hfirst).append (.cons (by rintro ⟨⟩) ?_)
    have hnext := ih (hmay (before ++ [left]) left (List.prefix_append _ _) List.getLast?_concat)
      fun reads last hprefix => hmay reads last ((List.prefix_append _ _).trans hprefix)
    simpa using hnext

/-- What was read last tells whether the loop succeeds, and is what it leaves then. -/
theorem exists_getLast?_valuesRead
    (h : Polled (WritesBack change test) retries power trials left) (interval : Word) :
    ∃ last, (register.valuesRead (pausing interval trials)).getLast? = some last ∧
      test last = left.isSome ∧ ∀ value, left = some value → value = last := by
  rw [Register.valuesRead_pausing]
  induction h with
  | reached hgoes =>
    obtain ⟨rfl, htest⟩ := hgoes
    exact ⟨_, by simp, htest.symm, by rintro _ ⟨⟩; rfl⟩
  | exhausted hgoes =>
    obtain ⟨rfl, htest⟩ := hgoes
    exact ⟨_, by simp, htest.symm, by rintro _ ⟨⟩⟩
  | retried hgoes _ ih =>
    obtain ⟨last, hlast, hrest⟩ := ih
    refine ⟨last, ?_, hrest⟩
    rw [List.flatMap_cons, List.getLast?_append, hlast]
    rfl

/-- In a loop that does not succeed, nothing that was read passes the test. -/
theorem test_of_mem_valuesRead (h : Polled (WritesBack change test) retries power trials left)
    (interval : Word) (hleft : left = none) :
    ∀ value ∈ register.valuesRead (pausing interval trials), test value = false := by
  rw [Register.valuesRead_pausing]
  induction h with
  | reached => cases hleft
  | exhausted hgoes =>
    obtain ⟨rfl, htest⟩ := hgoes
    simpa using htest.symm
  | retried hgoes _ ih =>
    obtain ⟨rfl, htest⟩ := hgoes
    rw [List.flatMap_cons]
    refine List.forall_mem_append.mpr ⟨?_, ih hleft⟩
    simpa using htest.symm

end Loops

/-! ## What may be written -/

/-- The bits of the register that have nothing to do with the supply of the card. -/
def otherBits : Field 8 := ⟨4, 4⟩

/-- A value that was read showed the power to be off. -/
def OffSeen (reads : List Byte) : Prop :=
  ∃ read ∈ reads, PowerControl.powerOn.test read = false

/-- After some values were read, the value may be written. -/
structure MayWrite (voltage : SupplyVoltage) (reads : List Byte) (value : Byte) : Prop where
  /-- The power goes with no voltage but the one that is asked for. -/
  select_eq : PowerControl.powerOn.test value = true →
    voltage.select? = some (PowerControl.voltageSelect.get value)
  /-- What was read last keeps its other bits. -/
  kept : ∃ last, reads.getLast? = some last ∧ otherBits.get value = otherBits.get last
  /-- The power was seen to be off, before it is switched on or the voltage is changed. -/
  offSeen : ∀ last, reads.getLast? = some last →
    PowerControl.powerOn.test value = true ∨
      PowerControl.voltageSelect.get value ≠ PowerControl.voltageSelect.get last →
    OffSeen reads

section MayWrite

variable (voltage) {reads : List Byte} {last : Byte}

theorem mayWrite_unpowered (hlast : reads.getLast? = some last) :
    voltage.MayWrite reads (unpowered last) := by
  have hoff : PowerControl.powerOn.test (unpowered last) = false :=
    Field.test_put _ (by decide) rfl _ _
  have hselect : PowerControl.voltageSelect.get (unpowered last) =
      PowerControl.voltageSelect.get last := Field.get_put_of_disjoint _ _ (by decide) _ _
  refine ⟨fun hon => ?_, ⟨last, hlast, Field.get_put_of_disjoint _ _ (by decide) _ _⟩, ?_⟩
  · rw [hoff] at hon
    cases hon
  · rintro last' hlast' (hon | hchanged)
    · rw [hoff] at hon
      cases hon
    · rw [hlast, Option.some.injEq] at hlast'
      exact absurd (hlast' ▸ hselect) hchanged

/-- With the power off the voltage may be set. -/
theorem mayWrite_selecting (select : Nat) (hlast : reads.getLast? = some last)
    (hoff : PowerControl.powerOn.test last = false) :
    voltage.MayWrite reads (selecting select last) := by
  have hstill : PowerControl.powerOn.test (selecting select last) = false := by
    rw [selecting, Field.test_set_of_disjoint _ _ (by decide) rfl, hoff]
  refine ⟨fun hon => ?_, ⟨last, hlast, Field.get_set_of_disjoint _ _ (by decide) _ _⟩,
    fun _ _ _ => ⟨last, List.mem_of_getLast? hlast, hoff⟩⟩
  rw [hstill] at hon
  cases hon

variable {voltage}

/-- There is room for every voltage in its field. -/
theorem select_lt {select : Nat} (h : voltage.select? = some select) :
    select < 2 ^ PowerControl.voltageSelect.width := by
  cases voltage with
  | off => cases h
  | v33 | v30 | v18 =>
    cases h
    decide

/-- Setting the voltage twice is setting it once. -/
theorem powered_selecting (select : Nat) (power : Byte) :
    powered select (selecting select power) = powered select power := by
  rw [powered, powered, selecting, selecting, Field.set_set]

/-- Once the power was seen to be off, it may be switched on with the voltage that is asked for. -/
theorem mayWrite_powered {select : Nat} (hselect : voltage.select? = some select)
    (hlast : reads.getLast? = some last) (hoff : OffSeen reads) :
    voltage.MayWrite reads (powered select last) := by
  refine ⟨fun _ => ?_, ⟨last, hlast, ?_⟩, fun _ _ _ => hoff⟩
  · rw [powered, selecting, Field.get_put_of_disjoint _ _ (by decide),
      Field.get_set_of_lt _ (by decide) (select_lt hselect), hselect]
  · rw [powered, selecting, Field.get_put_of_disjoint _ _ (by decide),
      Field.get_set_of_disjoint _ _ (by decide)]

end MayWrite

/-! ## What is to hold of setting the voltage -/

/-- The voltage is set without harm to the card, and what becomes of it is told by what was read. -/
structure Guarded (voltage : SupplyVoltage) (events : List Event)
    (outcome : Except Fault (Except Error Unit)) : Prop where
  /-- Nothing but the power control register is written. -/
  writesAmong : ∀ event ∈ events, event.WritesAmong [register.place]
  /-- Whatever is written may be, after what was read until then. -/
  mayWrite : ∀ value, OnlyAfter (Writes value)
    (fun earlier => voltage.MayWrite (register.valuesRead earlier) value) events
  /-- If the card is to have no supply, the power is never switched on. -/
  unpowered : voltage = .off →
    ∀ value ∈ register.valuesWritten events, PowerControl.powerOn.test value = false
  /-- If the operation succeeds, what was read last shows the supply that was asked for. -/
  supplied : outcome = .ok (.ok ()) → ∃ last, (register.valuesRead events).getLast? = some last ∧
    match voltage.select? with
    | none => PowerControl.powerOn.test last = false
    | some select => PowerControl.powerOn.test last = true ∧
        PowerControl.voltageSelect.get last = select
  /-- If it does not succeed time has run out: the power was never seen to be off, or else what was read
  last does not show it to be on again with the voltage that was asked for. -/
  timedOut : outcome ≠ .ok (.ok ()) → outcome = .ok (.error .timeout) ∧
    (¬ OffSeen (register.valuesRead events) ∨
      ∃ select last, voltage.select? = some select ∧ OffSeen (register.valuesRead events) ∧
        (register.valuesRead events).getLast? = some last ∧ isOn select last = false)
  /-- As long as the power was not seen to be off, it is not switched on, and the voltage is left as it
  was read last. -/
  stuck : ¬ OffSeen (register.valuesRead events) → ∀ value, OnlyAfter (Writes value)
    (fun earlier => PowerControl.powerOn.test value = false ∧
      ∃ last, (register.valuesRead earlier).getLast? = some last ∧
        PowerControl.voltageSelect.get value = PowerControl.voltageSelect.get last) events

/-- What was read until the power was off, or until time ran out. -/
def readsUntil (options : Options) (initial : Byte) (down : List Stretch) : List Byte :=
  initial :: register.valuesRead (options.eventsOf down)

theorem isOff_eq_true : isOff power = true ↔ PowerControl.powerOn.test power = false := by
  simp [isOff]

namespace PowerDown

variable {left : Option Byte}

theorem onlyAfter (h : PowerDown options initial down left) (voltage : SupplyVoltage)
    (value : Byte) :
    OnlyAfter (Writes value)
      (fun earlier => voltage.MayWrite (initial :: register.valuesRead earlier) value)
      (options.eventsOf down) := by
  cases h with
  | already => exact .of_forall_not (List.forall_mem_nil _)
  | polled _ hpolled =>
    rw [Options.eventsOf_polling]
    have hfirst : voltage.MayWrite [initial] (SupplyVoltage.unpowered initial) :=
      mayWrite_unpowered voltage rfl
    exact onlyAfter_pausing hpolled hfirst (fun _ _ _ => mayWrite_unpowered voltage) _ value

/-- What is left was read last, and shows the power to be off. -/
theorem getLast?_reads (h : PowerDown options initial down (some power)) :
    (readsUntil options initial down).getLast? = some power ∧
      PowerControl.powerOn.test power = false := by
  cases h with
  | already hoff => exact ⟨rfl, isOff_eq_true.mp hoff⟩
  | polled _ hpolled =>
    obtain ⟨last, hlast, htest, hleft⟩ := exists_getLast?_valuesRead hpolled options.pollInterval
    cases hleft power rfl
    refine ⟨?_, isOff_eq_true.mp htest⟩
    rw [readsUntil, Options.eventsOf_polling, List.getLast?_cons, hlast]
    rfl

theorem offSeen (h : PowerDown options initial down (some power)) :
    OffSeen (readsUntil options initial down) := by
  obtain ⟨hlast, hoff⟩ := h.getLast?_reads
  exact ⟨power, List.mem_of_getLast? hlast, hoff⟩

theorem not_offSeen (h : PowerDown options initial down none) :
    ¬ OffSeen (readsUntil options initial down) := by
  rintro ⟨read, hread, hoff⟩
  cases h with
  | polled hon hpolled =>
    have hreads : isOff read = false := by
      rcases List.mem_cons.mp hread with rfl | hread
      · exact hon
      · rw [Options.eventsOf_polling] at hread
        exact test_of_mem_valuesRead hpolled _ rfl read hread
    simp [isOff, hoff] at hreads

end PowerDown

namespace Course

variable {stretches : List Stretch} {outcome : Except Fault (Except Error Unit)}

theorem eventsOf_on (options : Options) (power : Byte) (select : Nat) (down : List Stretch)
    (trials : List Trial) (success : Bool) :
    options.eventsOf (down ++ [.plain (register.writeEvents (selecting select power)),
        .polling trials success]) =
      options.eventsOf down ++ (register.writeEvents (selecting select power) ++
        pausing options.pollInterval trials) := by
  simp

/-- Every write of every way in which the voltage can be set is one that may be made. -/
theorem mayWrite (h : Course voltage options stretches outcome) (value : Byte) :
    OnlyAfter (Writes value)
      (fun earlier => voltage.MayWrite (register.valuesRead earlier) value)
      (options.eventsOf stretches) := by
  cases h with
  | stuck hdown | off hdown =>
    rw [Options.eventsOf_plain_cons]
    refine (onlyAfter_readEvents _ _).append ?_
    simpa using hdown.onlyAfter voltage value
  | @on initial power select down trials left hdown hselect hpolled =>
    obtain ⟨hlast, hoff⟩ := hdown.getLast?_reads
    rw [Options.eventsOf_plain_cons, eventsOf_on]
    refine (onlyAfter_readEvents _ _).append ?_
    have hdown' := hdown.onlyAfter voltage value
    refine OnlyAfter.append (by simpa using hdown') ?_
    -- the power was seen to be off, and the voltage is set
    refine (onlyAfter_writeEvents ?_).append ?_
    · rintro rfl
      have hselecting := mayWrite_selecting voltage select hlast hoff
      simpa [readsUntil] using hselecting
    · -- the loop may write the power from its first attempt on
      have hpowered : ∀ reads last, readsUntil options initial down <+: reads →
          reads.getLast? = some last → voltage.MayWrite reads (powered select last) := by
        intro reads last hprefix hlast
        obtain ⟨read, hread, hoff⟩ := hdown.offSeen
        exact mayWrite_powered hselect hlast ⟨read, hprefix.subset hread, hoff⟩
      have hfirst := hpowered _ _ List.prefix_rfl hlast
      rw [← powered_selecting] at hfirst
      have hloop := onlyAfter_pausing hpolled hfirst hpowered options.pollInterval value
      simpa [readsUntil] using hloop

/-- What was read last, where the power was to be switched on, tells whether it was. -/
theorem getLast?_on {select : Nat} {trials : List Trial} {left : Option Byte}
    (hpolled : Polled (WritesBack (powered select) (isOn select)) options.pollRetries
      (selecting select power) trials left) :
    ∃ last, (register.valuesRead (options.eventsOf (.plain (register.readEvents initial) ::
        (down ++ [.plain (register.writeEvents (selecting select power)),
          .polling trials left.isSome])))).getLast? = some last ∧
      isOn select last = left.isSome := by
  obtain ⟨last, hlast, htest, -⟩ := exists_getLast?_valuesRead hpolled options.pollInterval
  refine ⟨last, ?_, htest⟩
  rw [Options.eventsOf_plain_cons, eventsOf_on]
  simp [List.getLast?_append, List.getLast?_cons, hlast]

theorem supplied (h : Course voltage options stretches outcome) (houtcome : outcome = .ok (.ok ())) :
    ∃ last, (register.valuesRead (options.eventsOf stretches)).getLast? = some last ∧
      match voltage.select? with
      | none => PowerControl.powerOn.test last = false
      | some select => PowerControl.powerOn.test last = true ∧
          PowerControl.voltageSelect.get last = select := by
  cases h with
  | stuck => cases houtcome
  | off hdown hselect =>
    rw [hselect]
    exact ⟨_, hdown.getLast?_reads⟩
  | @on initial power select down trials left hdown hselect hpolled =>
    obtain ⟨last, hlast, htest⟩ := getLast?_on hpolled
    rw [hselect]
    refine ⟨last, hlast, ?_⟩
    cases left with
    | none => cases houtcome
    | some left => simpa [isOn] using htest

theorem timedOut (h : Course voltage options stretches outcome) (houtcome : outcome ≠ .ok (.ok ())) :
    outcome = .ok (.error .timeout) ∧
      (¬ OffSeen (register.valuesRead (options.eventsOf stretches)) ∨
        ∃ select last, voltage.select? = some select ∧
          OffSeen (register.valuesRead (options.eventsOf stretches)) ∧
          (register.valuesRead (options.eventsOf stretches)).getLast? = some last ∧
          isOn select last = false) := by
  cases h with
  | stuck hdown => exact ⟨rfl, .inl hdown.not_offSeen⟩
  | off => exact absurd rfl houtcome
  | @on initial power select down trials left hdown hselect hpolled =>
    cases left with
    | some left => exact absurd rfl houtcome
    | none =>
      obtain ⟨last, hlast, htest⟩ := getLast?_on hpolled
      obtain ⟨read, hread, hoff⟩ := hdown.offSeen
      refine ⟨rfl, .inr ⟨select, last, hselect, ⟨read, ?_, hoff⟩, hlast, htest⟩⟩
      rw [Options.eventsOf_plain_cons, eventsOf_on]
      simpa [readsUntil, or_assoc] using Or.inl hread

end Course

/-- Where every write is one that may be made, every value that is written comes after some values that
were read. -/
theorem exists_of_mem_valuesWritten {events : List Event} {value : Byte}
    (hmay : ∀ value, OnlyAfter (Writes value)
      (fun earlier => voltage.MayWrite (register.valuesRead earlier) value) events)
    (hvalue : value ∈ register.valuesWritten events) :
    ∃ reads, voltage.MayWrite reads value := by
  obtain ⟨earlier, later, rfl⟩ := List.append_of_mem (Register.mem_valuesWritten.mp hvalue)
  have hprefix : earlier ++ [⟨.write .byte register.offset value, ()⟩] <+:
      earlier ++ ⟨.write .byte register.offset value, ()⟩ :: later :=
    ⟨later, by rw [List.append_assoc]; rfl⟩
  exact ⟨_, hmay value earlier _ hprefix rfl⟩

/-- Every way in which the voltage can be set is guarded. -/
theorem Course.guarded {stretches : List Stretch} {outcome : Except Fault (Except Error Unit)}
    (h : Course voltage options stretches outcome)
    (hamong : ∀ event ∈ options.eventsOf stretches, event.WritesAmong [register.place]) :
    Guarded voltage (options.eventsOf stretches) outcome where
  writesAmong := hamong
  mayWrite := h.mayWrite
  unpowered := by
    rintro rfl value hvalue
    obtain ⟨reads, hmay⟩ := exists_of_mem_valuesWritten h.mayWrite hvalue
    by_contra hon
    cases hmay.select_eq (Bool.eq_true_of_not_eq_false hon)
  supplied := h.supplied
  timedOut := h.timedOut
  stuck := by
    intro hnever value earlier event hprefix hwrites
    obtain ⟨-, ⟨last, hlast, -⟩, hseen⟩ := h.mayWrite value earlier event hprefix hwrites
    -- what was read until then was not seen to be off either
    have hearlier : ¬ OffSeen (register.valuesRead earlier) := by
      rintro ⟨read, hread, hoff⟩
      have hreads : register.valuesRead earlier <+:
          register.valuesRead (options.eventsOf stretches) :=
        ((List.prefix_append _ _).trans hprefix).filterMap _
      exact hnever ⟨read, hreads.subset hread, hoff⟩
    have hstill := mt (hseen last hlast) hearlier
    rw [not_or, not_not] at hstill
    exact ⟨Bool.eq_false_of_not_eq_true hstill.1, last, hlast, hstill.2⟩

/-- Whatever the power control register reads, the voltage is set in one of its ways, and that is
guarded. -/
theorem ensures_guarded (voltage : SupplyVoltage) (options : Options) :
    (voltage.supply options).run.Ensures (fun _ => True) fun events outcome =>
      ∃ stretches, events = options.eventsOf stretches ∧ Course voltage options stretches outcome ∧
        voltage.Guarded events outcome := by
  refine ((ensures_supply voltage options).and (BusOperation.asks_supply voltage options)).mono ?_
  rintro _ outcome ⟨⟨stretches, hcourse, rfl⟩, hamong⟩
  exact ⟨stretches, rfl, hcourse, hcourse.guarded hamong⟩

end SupplyVoltage

/-- **Setting the supply voltage.** Take any slot, any voltage and any state of what surrounds the slot,
whatever the registers read. The power is switched off, the voltage is written and the power is switched on
again, in one of the ways that `Course` lists with all that is written. None of them does harm to the card,
what becomes of it is told by what was read, and the slot stays as it is. -/
theorem Slot.setVoltage_guarded {σ : Type} (host : Host σ) (slot : Slot) (voltage : SupplyVoltage)
    (state : σ) :
    ∃ outcome,
      (∃ stretches,
        ((performBusOperation (.setVoltage voltage)).start slot).history host state =
          slot.options.eventsOf stretches ∧
        voltage.Course slot.options stretches outcome ∧
        voltage.Guarded
          (((performBusOperation (.setVoltage voltage)).start slot).history host state) outcome) ∧
      (((performBusOperation (.setVoltage voltage)).start slot).run host state).1 =
        outcome.map fun result => (result, slot) := by
  rw [BusOperation.start_setVoltage]
  exact Task.exists_outcome_of_attempt (SupplyVoltage.ensures_guarded voltage slot.options) slot host
    state

end SdHost
