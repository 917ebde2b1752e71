import SdHost.Proofs.Host.Polling
import SdHost.Proofs.Host.Storage

/-!
# What is read from a register, and what is written to it

What a program may write to a register often depends on what it has read from it before. The values of
both kinds can be taken from the events of a run.

The module introduces:

* `Register.valuesRead`, `Register.valuesWritten`: the values, in order.
-/

namespace SdHost.Register

variable {width : Width}

/-- What is read from the register, in order. -/
def valuesRead (register : Register width) (events : List Event) : List (BitVec width.bits) :=
  events.filterMap fun event =>
    match event with
    | ⟨.read other offset, value⟩ =>
      if h : other = width ∧ offset = register.offset then
        some (h.1 ▸ (show BitVec other.bits from value))
      else none
    | _ => none

/-- What is written to the register, in order. -/
def valuesWritten (register : Register width) (events : List Event) : List (BitVec width.bits) :=
  events.filterMap fun event =>
    match event with
    | ⟨.write other offset value, _⟩ =>
      if h : other = width ∧ offset = register.offset then some (h.1 ▸ value) else none
    | _ => none

section Events

variable (register : Register width) (first second : List Event)

@[simp]
theorem valuesRead_nil : register.valuesRead [] = [] := rfl

@[simp]
theorem valuesWritten_nil : register.valuesWritten [] = [] := rfl

@[simp]
theorem valuesRead_append :
    register.valuesRead (first ++ second) = register.valuesRead first ++ register.valuesRead second :=
  List.filterMap_append

@[simp]
theorem valuesWritten_append : register.valuesWritten (first ++ second) =
    register.valuesWritten first ++ register.valuesWritten second :=
  List.filterMap_append

@[simp]
theorem valuesRead_readEvents (value : BitVec width.bits) :
    register.valuesRead (register.readEvents value) = [value] := by
  simp [valuesRead, readEvents]

@[simp]
theorem valuesWritten_readEvents (value : BitVec width.bits) :
    register.valuesWritten (register.readEvents value) = [] := rfl

@[simp]
theorem valuesRead_writeEvents (value : BitVec width.bits) :
    register.valuesRead (register.writeEvents value) = [] := rfl

@[simp]
theorem valuesWritten_writeEvents (value : BitVec width.bits) :
    register.valuesWritten (register.writeEvents value) = [value] := by
  simp [valuesWritten, writeEvents]

@[simp]
theorem valuesRead_barrier : register.valuesRead [⟨.barrier, ()⟩] = [] := rfl

@[simp]
theorem valuesRead_delay_cons (interval : Word) :
    register.valuesRead (⟨.delay interval, ()⟩ :: first) = register.valuesRead first := rfl

end Events

variable {register : Register width} {events : List Event} {value : BitVec width.bits}

theorem mem_valuesRead : value ∈ register.valuesRead events ↔
    ⟨.read width register.offset, value⟩ ∈ events := by
  rw [valuesRead, List.mem_filterMap]
  constructor
  · rintro ⟨⟨query, reply⟩, hevent, hvalue⟩
    cases query with
    | read other offset =>
      simp only [Option.dite_none_right_eq_some, Option.some.injEq] at hvalue
      obtain ⟨⟨rfl, rfl⟩, rfl⟩ := hvalue
      exact hevent
    | _ => cases hvalue
  · exact fun hevent => ⟨_, hevent, by simp⟩

theorem mem_valuesWritten : value ∈ register.valuesWritten events ↔
    ⟨.write width register.offset value, ()⟩ ∈ events := by
  rw [valuesWritten, List.mem_filterMap]
  constructor
  · rintro ⟨⟨query, reply⟩, hevent, hvalue⟩
    cases query with
    | write other offset written =>
      simp only [Option.dite_none_right_eq_some, Option.some.injEq] at hvalue
      obtain ⟨⟨rfl, rfl⟩, rfl⟩ := hvalue
      exact hevent
    | _ => cases hvalue
  · exact fun hevent => ⟨_, hevent, by simp⟩

variable (register)

/-- In a loop, the attempts read what is read. -/
theorem valuesRead_pausing (interval : Word) (trials : List Trial) :
    register.valuesRead (pausing interval trials) =
      trials.flatMap fun trial => register.valuesRead trial.events :=
  filterMap_pausing rfl trials

/-- In a loop, the attempts write what is written. -/
theorem valuesWritten_pausing (interval : Word) (trials : List Trial) :
    register.valuesWritten (pausing interval trials) =
      trials.flatMap fun trial => register.valuesWritten trial.events :=
  filterMap_pausing rfl trials

@[simp]
theorem valuesRead_looks (interval : Word) (test : BitVec width.bits → Bool)
    (values : List (BitVec width.bits)) :
    register.valuesRead (pausing interval (register.looks test values)) = values := by
  simp [valuesRead_pausing, looks, List.flatMap_map]

@[simp]
theorem valuesWritten_looks (interval : Word) (test : BitVec width.bits → Bool)
    (values : List (BitVec width.bits)) :
    register.valuesWritten (pausing interval (register.looks test values)) = [] := by
  simp [valuesWritten_pausing, looks, List.flatMap_map]

/-- A loop that only looks writes nothing. -/
theorem writes_looks (interval : Word) (test : BitVec width.bits → Bool)
    (values : List (BitVec width.bits)) :
    writes (pausing interval (register.looks test values)) = [] := by
  have hattempts : writes (pausing interval (register.looks test values)) =
      (register.looks test values).flatMap fun trial => writes trial.events :=
    filterMap_pausing rfl _
  rw [hattempts, looks, List.flatMap_map]
  exact List.flatMap_eq_nil_iff.mpr fun _ _ => rfl

end SdHost.Register

namespace SdHost.Attempt

/-! ## Going through an attempt access by access -/

variable {width : Width} {β : Type} (register : Register width)
  {post : List Event → Except Fault (Except Error β) → Prop}

theorem ensures_read_bind {next : BitVec width.bits → Attempt β}
    (h : ∀ value, (next value).run.Ensures (fun _ => True) fun later =>
      post (register.readEvents value ++ later)) :
    ((liftM register.read : Attempt _) >>= next).run.Ensures (fun _ => True) post :=
  (ensures_bind _ _ _).mpr <| (ensures_program _ _).mpr fun _ _ value _ => h value

theorem ensures_ite {condition : Prop} [Decidable condition] {first second : Attempt β}
    (hfirst : condition → first.run.Ensures (fun _ => True) post)
    (hsecond : ¬ condition → second.run.Ensures (fun _ => True) post) :
    (if condition then first else second).run.Ensures (fun _ => True) post := by
  split
  next h => exact hfirst h
  next h => exact hsecond h

section Results

variable {α : Type} {next : α → Attempt β}

theorem ensures_ofExcept_bind {outcome : Except Fault α}
    (hok : ∀ value, outcome = .ok value → (next value).run.Ensures (fun _ => True) post)
    (herror : ∀ cause, outcome = .error cause → post [] (.error cause)) :
    ((liftM outcome : Attempt α) >>= next).run.Ensures (fun _ => True) post := by
  cases outcome with
  | error cause => exact herror cause rfl
  | ok value => exact hok value rfl

theorem ensures_except_bind {result : Except Error α}
    (hok : ∀ value, result = .ok value → (next value).run.Ensures (fun _ => True) post)
    (herror : ∀ cause, result = .error cause → post [] (.ok (.error cause))) :
    ((liftM result : Attempt α) >>= next).run.Ensures (fun _ => True) post := by
  cases result with
  | error cause => exact herror cause rfl
  | ok value => exact hok value rfl

end Results

variable {next : Unit → Attempt β}

theorem ensures_write_bind {value : BitVec width.bits}
    (h : (next ()).run.Ensures (fun _ => True) fun later =>
      post (register.writeEvents value ++ later)) :
    ((liftM (register.write value) : Attempt Unit) >>= next).run.Ensures (fun _ => True) post :=
  (ensures_bind _ _ _).mpr <| (ensures_program _ _).mpr fun _ _ _ _ => h

theorem ensures_modify_bind {change : BitVec width.bits → BitVec width.bits}
    (h : ∀ value, (next ()).run.Ensures (fun _ => True) fun later =>
      post (register.readEvents value ++ (register.writeEvents (change value) ++ later))) :
    ((liftM (register.modify change) : Attempt Unit) >>= next).run.Ensures (fun _ => True) post :=
  (ensures_bind _ _ _).mpr <| (ensures_program _ _).mpr fun _ _ value _ _ _ _ _ => h value

theorem ensures_write {value : BitVec width.bits}
    {post : List Event → Except Fault (Except Error Unit) → Prop}
    (h : post (register.writeEvents value) (.ok (.ok ()))) :
    (liftM (register.write value) : Attempt Unit).run.Ensures (fun _ => True) post :=
  (ensures_program _ _).mpr fun _ _ _ _ => h

theorem ensures_modify {change : BitVec width.bits → BitVec width.bits}
    {post : List Event → Except Fault (Except Error Unit) → Prop}
    (h : ∀ value, post (register.readEvents value ++ register.writeEvents (change value))
      (.ok (.ok ()))) :
    (liftM (register.modify change) : Attempt Unit).run.Ensures (fun _ => True) post :=
  (ensures_program _ _).mpr fun _ _ value _ _ _ _ _ => h value

theorem ensures_delay_bind {microseconds : Word}
    (h : (next ()).run.Ensures (fun _ => True) fun later =>
      post (⟨.delay microseconds, ()⟩ :: later)) :
    ((liftM (Program.delay microseconds) : Attempt Unit) >>= next).run.Ensures (fun _ => True) post :=
  (ensures_bind _ _ _).mpr <| (ensures_program _ _).mpr fun _ _ => h

end SdHost.Attempt
