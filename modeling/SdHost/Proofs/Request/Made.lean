import SdHost.Proofs.Transfer.Invariant

/-!
# The requests that callers can have

Nearly everything about a command is open to its caller, who can change it at any time. The data buffer
and the way the data flows are not: they are set together when the command is made, and from then on
only the steps of the request work on them. So a buffer that is there is always one for the way that
the data flows.

* `Request.Made`: the requests that come about in this way;
* `Request.bufferFits_of_made`: their buffers go with the way the data flows.
-/

namespace SdHost

/-- There is no data buffer, or it is one for the way that the data of the command flows. -/
def Command.BufferFits (command : Command) : Prop :=
  command.data = .none ∨ command.data.direction = command.direction

theorem DataBuffer.direction_eq_none_iff {data : DataBuffer} :
    data.direction = Option.none ↔ data = .none := by
  cases data <;> simp [direction]

theorem Command.direction_of_readBuffer? {command : Command} {buffer : Memory}
    (h : command.readBuffer? = some buffer) : command.data.direction = some .read := by
  rw [readBuffer?] at h
  split at h
  next heq => rw [heq, DataBuffer.direction]
  next => cases h

namespace Transfer

open SdHost.Task (Maintains)

/-- Two things that the steps of a request leave as they are: the way that the data of its command
flows, and whether its buffer is one to be filled, one to be emptied or none at all. -/
structure Flows (direction buffered : Option Direction) (t : Transfer) : Prop where
  /-- The way the data flows. -/
  direction_eq : t.request.command.direction = direction
  /-- The way that data flows through the buffer. -/
  buffered_eq : t.request.command.data.direction = buffered

namespace Flows

variable {direction buffered : Option Direction}

/-- Most changes of a request have nothing to do with it. -/
theorem congr {t t' : Transfer} (h : Flows direction buffered t)
    (hdirection : t'.request.command.direction = t.request.command.direction)
    (hdata : t'.request.command.data = t.request.command.data) : Flows direction buffered t' :=
  ⟨hdirection.trans h.direction_eq, (congrArg DataBuffer.direction hdata).trans h.buffered_eq⟩

/-- Bytes take the place of others in a buffer that is to be filled. -/
theorem fill (h : buffered = some .read) (change : Command → Memory) :
    Maintains (fun _ => True) (Flows direction buffered)
      (modifyCommand fun command => { command with data := .read (change command) }) :=
  Maintains.modify fun _ ht => ⟨ht.direction_eq, h.symm⟩

theorem moveBlock {command : Command} (h : command.data.direction = buffered)
    (towards : Direction) :
    Maintains (fun _ => True) (Flows direction buffered) (moveBlock command towards) := by
  cases towards with
  | read =>
    cases hbuffer : command.readBuffer? with
    | none =>
      rw [Transfer.moveBlock, hbuffer]
      exact .throw_bind _ _
    | some buffer =>
      have hread := h.symm.trans (Command.direction_of_readBuffer? hbuffer)
      refine (maintains_require _ _).bind fun buffer => ?_
      refine (maintains_require _ _).discard.bind fun _ => ?_
      refine (Maintains.program (asks_readBlock (fun _ _ => trivial) _)).bind fun block => ?_
      exact fill hread fun command => Memory.store buffer command.cursor block.toList
  | write =>
    refine (maintains_require _ _).bind fun buffer => (maintains_require _ _).bind fun block => ?_
    exact .program (asks_writeBlock (fun _ _ => trivial) _)

theorem continuePio : Maintains (fun _ => True) (Flows direction buffered) continuePio := by
  refine Maintains.get_bind fun t ht => ?_
  refine .ite (fun _ => .throw_bind _ _) fun _ => ?_
  refine (maintains_require _ _).bind fun towards => ?_
  refine (moveBlock ht.buffered_eq towards).bind fun _ => ?_
  refine Maintains.bind (.modify fun _ h => h.congr rfl rfl) fun _ => ?_
  refine Maintains.get.bind fun t' => .ite (fun _ => ?_) fun _ => ?_
  · exact Maintains.bind (.modify fun _ h => h.congr rfl rfl) fun _ => .pure _
  · exact Maintains.bind (.modify fun _ h => h.congr rfl rfl) fun _ => .pure _

theorem setUpScatterGather (command : Command) :
    Maintains (fun _ => True) (Flows direction buffered) (setUpScatterGather command) := by
  have hwrite : ∀ {width : Width} (register : Register width) value,
      (register.writeUnfenced value).Asks fun _ => True :=
    asks_writeUnfenced fun _ _ => trivial
  refine Maintains.get.bind fun t => .ite (fun _ => .throw_bind _ _) fun _ => ?_
  refine (maintains_require _ _).bind fun elements => ?_
  refine (maintains_require _ _).bind fun table => ?_
  refine (Maintains.ofExcept _).bind fun (info, memory) => ?_
  refine Maintains.bind (.modify fun _ h => h.congr rfl rfl) fun _ => ?_
  refine (Maintains.except info).discard.bind fun _ => ?_
  refine (Maintains.program (hwrite _ _)).bind fun _ => ?_
  exact .ite (fun _ => (Maintains.program (hwrite _ _)).bind fun _ => .pure _) fun _ => .pure _

theorem sendCommand : Maintains (fun _ => True) (Flows direction buffered) sendCommand := by
  refine Maintains.bind (.modify fun _ h => h.congr rfl rfl) fun _ => ?_
  refine Maintains.bind (.modify fun _ h => h.congr rfl rfl) fun _ => ?_
  refine Maintains.get.bind fun t => ?_
  refine Maintains.bind ?_ fun phase => ?_
  · -- setting up a data phase changes the slot, and the table at most
    refine .ite (fun _ => .pure _) fun _ => (Maintains.except _).bind fun towards => ?_
    cases t.request.command.method with
    | pio =>
      refine (maintains_setUpPio (fun _ _ => trivial) ?_ _ _).bind fun _ => .pure _
      exact fun _ _ _ h => h.congr rfl rfl
    | scatterGather => exact (setUpScatterGather _).bind fun _ => .pure _
  · refine Maintains.bind (.modify fun _ h => h.congr rfl rfl) fun _ => ?_
    exact (Maintains.program (asks_writeCommand (fun _ _ => trivial) _ _)).bind fun _ => .pure _

theorem finish : Maintains (fun _ => True) (Flows direction buffered) finish := by
  intro t ht
  rw [start_finish]
  intro _ _
  refine ⟨fun _ _ => trivial, ?_⟩
  rintro _ _ ⟨⟩
  exact ht.congr rfl rfl

theorem finishBounce : Maintains (fun _ => True) (Flows direction buffered) finishBounce := by
  refine Maintains.get.bind fun t => Maintains.get_bind fun t' ht' => ?_
  refine Maintains.bind (.modify fun _ h => h.congr rfl rfl) fun _ => ?_
  refine .ite (fun _ => ?_) fun _ => finish
  refine (maintains_require _ _).bind fun pages => (maintains_require _ _).bind fun source => ?_
  cases hbuffer : t'.request.command.readBuffer? with
  | none => exact .throw_bind _ _
  | some buffer =>
    have hread := ht'.buffered_eq.symm.trans (Command.direction_of_readBuffer? hbuffer)
    refine (maintains_require _ _).bind fun _ => (maintains_require _ _).discard.bind fun _ => ?_
    exact (fill hread _).bind fun _ => finish

theorem step : Maintains (fun _ => True) (Flows direction buffered) step := by
  refine Maintains.bind (.modify fun _ h => h.congr rfl rfl) fun _ => ?_
  refine Maintains.get.bind fun t => ?_
  cases t.request.requestType with
  | commandNoTransfer => exact sendCommand
  | commandWithTransfer => exact sendCommand
  | startTransfer =>
    refine Maintains.get.bind fun t => ?_
    cases t.request.command.method with
    | scatterGather =>
      exact Maintains.get.bind fun _ => .ite (fun _ => .throw_bind _ _) fun _ => finish
    | pio => exact .ite (fun _ => finishBounce) fun _ => continuePio

end Flows

end Transfer

namespace Request

variable {σ : Type} {host : Host σ}

/-- The requests that callers can have. Whatever is done with them, only their steps work on the data
buffer, and nothing changes the way the data flows. The surroundings can be in any state whenever a
step is carried out. -/
inductive Made (host : Host σ) : Request → Prop
  /-- A request for a command without data. -/
  | command (index : Byte) (argument : Word) (responseType : ResponseType) :
      Made host (.new { index, argument, responseType })
  /-- A request for a command that fills or empties a buffer. -/
  | withBuffer (index : Byte) (argument : Word) (responseType : ResponseType)
      (blockSize : HalfWord) (data : DataBuffer) :
      Made host (.new (Command.withBuffer { index, argument, responseType } blockSize data))
  /-- A request for a command with a scatter/gather list. -/
  | withElements (index : Byte) (argument : Word) (responseType : ResponseType)
      (blockSize : HalfWord) (direction : Direction) (elements : List Element)
      (table : TableMemory) :
      Made host
        (.new (Command.withElements { index, argument, responseType } blockSize direction elements
          table))
  /-- Anything else about the request was changed. -/
  | changed {request request' : Request} (hrequest : Made host request)
      (hdata : request'.command.data = request.command.data)
      (hdirection : request'.command.direction = request.command.direction)
      (hcursor : request'.command.cursor = request.command.cursor) : Made host request'
  /-- A step of the request was carried out, on some slot. It may have failed. -/
  | issued {slot slot' : Slot} {request request' : Request} {result : Except Error Progress}
      {state after : σ} (hrequest : Made host request)
      (hrun : (slot.issueRequest request).run host state = (.ok (result, slot', request'), after)) :
      Made host request'

/-- The buffer of a request, if it has one, goes with the way that its data flows. -/
theorem bufferFits_of_made {request : Request} (h : request.Made host) :
    request.command.BufferFits := by
  -- induction on what happened to the request since it was made
  induction h with
  | command => exact .inl rfl
  | withBuffer => exact .inr rfl
  | withElements => exact .inl rfl
  | changed _ hdata hdirection _ ih =>
    rw [Command.BufferFits, hdata, hdirection]
    exact ih
  | issued _ hrun ih =>
    obtain ⟨hdirection, hbuffered⟩ :=
      Transfer.Flows.step.of_run ⟨rfl, rfl⟩ (Slot.run_step_of_issueRequest hrun)
    -- whether there is a buffer can be told from the way that data flows through it
    rw [Command.BufferFits, ← DataBuffer.direction_eq_none_iff] at ih ⊢
    rw [hdirection, hbuffered]
    exact ih

end Request

end SdHost
