import SdHost.Proofs.Memory
import SdHost.Proofs.Regulator.Span

/-!
# Calls over a byte stream

A byte stream carries the messages of a channel to the firmware, and the answers back. It knows nothing of
messages. The firmware answers each message that it has in full, and a call reads as many bytes as a message
has, whatever they answer. So a call that breaks off half way leaves the stream out of step, and nothing
puts it back: each later call reads an answer that is not its own.

The module introduces:

* `PinMessage.answers`: what the firmware answers to the bytes that it gets;
* `FirmwareStream host`: a byte stream to such firmware, which may move its bytes in pieces and may fail at
  any point;
* `FirmwareStream.Carriage`: what a call moves, one constructor for each way that it can go;
* `Turn.turns`: some calls, one after the other;
* `FirmwareStream.OwnAnswer`, `FirmwareStream.BrokeOff`: a call was answered by the reply to its own message,
  and a call failed after some of its message was taken.

Main statement: `FirmwareStream.ownAnswer_iff`, which calls read their own answer.
-/

namespace SdHost

theorem Program.run_request_bind {α σ : Type} (host : Host σ) (query : Query)
    (next : query.Reply → Program α) (state : σ) :
    (Program.request query >>= next).run host state =
      (next (host.answer query state).1).run host (host.answer query state).2 := rfl

/-! ## Firmware that answers messages -/

namespace PinMessage

/-- What firmware answers to the message at a place among the bytes that it gets. It may depend on all that
came before. -/
def answerAt (reply : List Byte → List Byte → List Byte) (taken : List Byte) (place : Nat) : List Byte :=
  reply (taken.take (size * place)) ((taken.drop (size * place)).take size)

/-- What firmware answers to the bytes that it gets: each message that it has in full, in its turn. -/
def answers (reply : List Byte → List Byte → List Byte) (taken : List Byte) : List Byte :=
  (List.range (taken.length / size)).flatMap (answerAt reply taken)

variable {reply : List Byte → List Byte → List Byte} {taken : List Byte}

/-- A message in whole. -/
theorem le_length_of_mem_range {place : Nat} (h : place ∈ List.range (taken.length / size)) :
    size * place + size ≤ taken.length :=
  (Nat.mul_le_mul_left size (List.mem_range.mp h)).trans (Nat.mul_div_le _ _)

/-- The answer to a message does not depend on what comes after it. -/
theorem answerAt_append {place : Nat} (h : place ∈ List.range (taken.length / size))
    (more : List Byte) : answerAt reply (taken ++ more) place = answerAt reply taken place := by
  have hin := le_length_of_mem_range h
  have hrest : size ≤ (taken.drop (size * place)).length := by
    rw [List.length_drop]
    omega
  rw [answerAt, List.take_append_of_le_length (by omega), List.drop_append_of_le_length (by omega),
    List.take_append_of_le_length hrest, answerAt]

/-- More bytes bring more answers. -/
theorem answers_append (reply : List Byte → List Byte → List Byte) (taken more : List Byte) :
    answers reply (taken ++ more) = answers reply taken ++
      (List.range ((taken ++ more).length / size - taken.length / size)).flatMap fun place =>
        answerAt reply (taken ++ more) (taken.length / size + place) := by
  have hle : taken.length / size ≤ (taken ++ more).length / size :=
    Nat.div_le_div_right (by simp)
  conv_lhs => rw [answers, ← Nat.add_sub_cancel' hle, List.range_add, List.flatMap_append]
  rw [List.flatMap_congr fun _ hplace => answerAt_append hplace more, List.flatMap_map, answers]

theorem answers_prefix (reply : List Byte → List Byte → List Byte) (taken more : List Byte) :
    answers reply taken <+: answers reply (taken ++ more) := by
  rw [answers_append]
  exact List.prefix_append _ _

/-- After whole messages, the next one is answered as a whole. -/
theorem answers_append_message {message : List Byte} (htaken : size ∣ taken.length)
    (hmessage : message.length = size) :
    answers reply (taken ++ message) = answers reply taken ++ reply taken message := by
  have hone : (taken ++ message).length / size - taken.length / size = 1 := by
    rw [List.length_append, hmessage, Nat.add_div_right _ (by decide), Nat.add_sub_cancel_left]
  rw [answers_append, hone, List.range_one, List.flatMap_singleton, Nat.add_zero, answerAt,
    Nat.mul_div_cancel' htaken, List.take_left, List.drop_left, ← hmessage, List.take_length]

/-- Where each answer is as long as a message, there are as many bytes as there are in whole messages. -/
theorem length_answers (hreply : ∀ earlier message, message.length = size →
    (reply earlier message).length = size) (taken : List Byte) :
    (answers reply taken).length = size * (taken.length / size) := by
  have hlengths : ∀ place ∈ List.range (taken.length / size),
      (answerAt reply taken place).length = size := by
    intro place hplace
    have hin := le_length_of_mem_range hplace
    exact hreply _ _ (by rw [List.length_take, List.length_drop]; omega)
  rw [answers, List.length_flatMap, List.map_congr_left hlengths, List.map_const', List.length_range,
    List.sum_replicate, smul_eq_mul, Nat.mul_comm]

end PinMessage

/-! ## Streams to the firmware -/

/-- A byte stream to firmware that answers each message that it gets in full. Writing takes some of the bytes
or fails, and reading gives some bytes or fails. A failure moves nothing. What was taken may wait in the
stream for as long as it likes, and so may the answers: what was given is the start of all that the firmware
would answer to what was taken. -/
structure FirmwareStream {σ : Type} (host : Host σ) where
  /-- All bytes that the stream took so far. -/
  taken : σ → List Byte
  /-- All bytes that it gave so far. -/
  given : σ → List Byte
  /-- What the firmware answers to a message, after the bytes that came before it. -/
  reply : List Byte → List Byte → List Byte
  /-- An answer is as long as a message. -/
  length_reply : ∀ earlier message, message.length = PinMessage.size →
    (reply earlier message).length = PinMessage.size
  /-- All that is given is what the firmware answered. -/
  given_prefix : ∀ state, given state <+: PinMessage.answers reply (taken state)
  /-- A write takes so many bytes as it says. -/
  taken_write : ∀ bytes state, taken (host.answer (.streamWrite bytes) state).2 =
    taken state ++ bytes.take (Option.getD (host.answer (.streamWrite bytes) state).1 0)
  /-- These are some of the bytes, and no more than there are. -/
  write_takes : ∀ bytes state, bytes ≠ [] →
    ∀ count, (host.answer (.streamWrite bytes) state).1 = some count → 0 < count ∧ count ≤ bytes.length
  /-- A write gives nothing. -/
  given_write : ∀ bytes state, given (host.answer (.streamWrite bytes) state).2 = given state
  /-- A flush takes nothing from the driver. -/
  taken_flush : ∀ state, taken (host.answer .streamFlush state).2 = taken state
  /-- A flush gives nothing. -/
  given_flush : ∀ state, given (host.answer .streamFlush state).2 = given state
  /-- A read takes nothing. -/
  taken_read : ∀ room state, taken (host.answer (.streamRead room) state).2 = taken state
  /-- A read gives the bytes that it says. -/
  given_read : ∀ room state, given (host.answer (.streamRead room) state).2 =
    given state ++ Option.getD (host.answer (.streamRead room) state).1 []
  /-- There is room for them. -/
  read_gives : ∀ room state run, (host.answer (.streamRead room) state).1 = some run →
    run.length ≤ room

namespace FirmwareStream

variable {σ : Type} {host : Host σ} (stream : FirmwareStream host)

/-- The stream is in step: for each byte that it took, it gave one. -/
def InStep (state : σ) : Prop :=
  (stream.given state).length = (stream.taken state).length

/-- It cannot have given more than there is in whole messages. -/
theorem length_given_le (state : σ) : (stream.given state).length ≤
    PinMessage.size * ((stream.taken state).length / PinMessage.size) :=
  (stream.given_prefix state).length_le.trans (PinMessage.length_answers stream.length_reply _).le

theorem length_given_le_taken (state : σ) :
    (stream.given state).length ≤ (stream.taken state).length :=
  (stream.length_given_le state).trans (Nat.mul_div_le _ _)

variable {stream} {state : σ}

/-- In step, the stream took whole messages. -/
theorem InStep.dvd (h : stream.InStep state) : PinMessage.size ∣ (stream.taken state).length := by
  refine ⟨(stream.taken state).length / PinMessage.size, le_antisymm ?_ (Nat.mul_div_le _ _)⟩
  exact h.symm.trans_le (stream.length_given_le state)

/-- In step, all that the firmware answered was given. -/
theorem InStep.given_eq (h : stream.InStep state) :
    stream.given state = PinMessage.answers stream.reply (stream.taken state) := by
  refine (stream.given_prefix state).eq_of_length ?_
  rw [h, PinMessage.length_answers stream.length_reply, Nat.mul_div_cancel' h.dvd]

theorem not_inStep_iff :
    ¬ stream.InStep state ↔ (stream.given state).length < (stream.taken state).length :=
  ⟨(stream.length_given_le_taken state).lt_of_ne, Nat.ne_of_lt⟩

/-! ## What a call moves -/

variable (stream)

/-- Writing goes on until all is taken or a write fails. -/
theorem exists_of_writeAll {steps : Nat} {bytes : List Byte} (h : bytes.length ≤ steps) (state : σ) :
    ∃ written after sent, (Channel.writeAll steps bytes).run host state = (.ok written, after) ∧
      stream.taken after = stream.taken state ++ sent ∧ stream.given after = stream.given state ∧
      sent <+: bytes ∧ (written = true ↔ sent = bytes) := by
  -- induction on the pieces, each of which has a byte at least
  induction steps generalizing bytes state with
  | zero =>
    obtain rfl := List.length_eq_zero_iff.mp (Nat.le_zero.mp h)
    exact ⟨true, state, [], rfl, by simp, rfl, List.prefix_refl _, by simp⟩
  | succ steps ih =>
    cases bytes with
    | nil => exact ⟨true, state, [], rfl, by simp, rfl, List.prefix_refl _, by simp⟩
    | cons byte rest =>
      have htaken := stream.taken_write (byte :: rest) state
      have hgiven := stream.given_write (byte :: rest) state
      have htakes := stream.write_takes (byte :: rest) state (by simp)
      rw [Channel.writeAll, Program.run_request_bind]
      generalize host.answer (.streamWrite (byte :: rest)) state = answer at htaken hgiven htakes ⊢
      obtain ⟨_ | count, next⟩ := answer
      · exact ⟨false, next, [], rfl, by simpa using htaken, hgiven, List.nil_prefix, by simp⟩
      obtain ⟨hpos, hle⟩ := htakes count rfl
      obtain ⟨count, rfl⟩ := Nat.exists_eq_succ_of_ne_zero hpos.ne'
      have hfit : count ≤ rest.length := Nat.le_of_succ_le_succ hle
      have hrest : (rest.drop count).length ≤ steps := by
        rw [List.length_drop]
        exact (Nat.sub_le _ _).trans (Nat.le_of_succ_le_succ h)
      obtain ⟨written, after, sent, hrun, hsent, hgave, hprefix, hall⟩ := ih hrest next
      -- the piece comes before what is sent of the rest
      obtain ⟨piece, hpiece⟩ : ∃ piece, piece = (byte :: rest).take (count + 1) := ⟨_, rfl⟩
      have hsplit : byte :: rest = piece ++ rest.drop count := by simp [hpiece]
      refine ⟨written, after, piece ++ sent, ?_, ?_, hgave.trans hgiven, ?_, ?_⟩
      · show (if count ≤ rest.length then Channel.writeAll steps (rest.drop count)
          else .fault .outOfBounds).run host next = _
        rw [if_pos hfit, hrun]
      · rw [hsent, htaken, hpiece, List.append_assoc]
        rfl
      · rw [hsplit]
        exact (List.prefix_append_right_inj _).mpr hprefix
      · rw [hall, hsplit, List.append_right_inj]

/-- Reading goes on until the message is full or a read fails. -/
theorem exists_of_readAll {steps offset : Nat} {message : Memory} (hoffset : offset ≤ message.size)
    (h : message.size ≤ offset + steps) (state : σ) :
    ∃ filled received after, (Channel.readAll steps offset message).run host state =
        (.ok (filled, Memory.store message offset received), after) ∧
      stream.taken after = stream.taken state ∧
      stream.given after = stream.given state ++ received ∧
      offset + received.length ≤ message.size ∧
      (filled = true ↔ offset + received.length = message.size) := by
  -- induction on the reads, each of which fills some of the room that is left
  induction steps generalizing offset message state with
  | zero =>
    have hfull : offset = message.size := Nat.le_antisymm hoffset h
    refine ⟨decide (message.size ≤ offset), [], state, rfl, rfl, by simp, hoffset, ?_⟩
    simp [hfull]
  | succ steps ih =>
    rw [Channel.readAll]
    by_cases hfull : message.size ≤ offset
    · rw [if_pos hfull]
      exact ⟨true, [], state, rfl, rfl, by simp, hoffset, by simpa using Nat.le_antisymm hoffset hfull⟩
    have htaken := stream.taken_read (message.size - offset) state
    have hgiven := stream.given_read (message.size - offset) state
    have hgives := stream.read_gives (message.size - offset) state
    rw [if_neg hfull, Program.run_request_bind]
    have hopen : ¬ offset = message.size := (Nat.not_le.mp hfull).ne
    generalize host.answer (.streamRead (message.size - offset)) state = answer
      at htaken hgiven hgives ⊢
    -- no bytes are a failure too
    obtain ⟨_ | _ | ⟨byte, rest⟩, next⟩ := answer
    · exact ⟨false, [], next, rfl, htaken, hgiven, hoffset, by simpa using hopen⟩
    · exact ⟨false, [], next, rfl, htaken, hgiven, hoffset, by simpa using hopen⟩
    obtain ⟨run, hpiece⟩ : ∃ run, run = byte :: rest := ⟨_, rfl⟩
    have hlength : run.length ≤ message.size - offset := hpiece ▸ hgives _ rfl
    have hpos : 0 < run.length := by simp [hpiece]
    have hnext : offset + run.length ≤ (Memory.store message offset run).size := by
      rw [Memory.size_store]
      omega
    have hsteps : (Memory.store message offset run).size ≤ offset + run.length + steps := by
      rw [Memory.size_store]
      omega
    obtain ⟨filled, received, after, hrun, hkept, hgave, hle, hall⟩ := ih hnext hsteps next
    rw [Memory.size_store, Nat.add_assoc, ← List.length_append] at hle hall
    refine ⟨filled, run ++ received, after, ?_, hkept.trans htaken, ?_, hle, hall⟩
    · rw [Memory.store_append, ← hrun, hpiece]
      rfl
    · rw [hgave, hgiven, List.append_assoc, hpiece]
      rfl

/-- What a call moves, and what it tells the driver. -/
inductive Carriage (message : List Byte) (before after : σ) : PropertyResult → Prop
  /-- The message was taken, and as many bytes were given. -/
  | carried {answer : Memory} (hsize : answer.size = message.length)
      (htaken : stream.taken after = stream.taken before ++ message)
      (hgiven : stream.given after = stream.given before ++ answer.toList) :
      Carriage message before after (.ok (), answer)
  /-- The first write failed. -/
  | refused {answer : Memory} (htaken : stream.taken after = stream.taken before)
      (hgiven : stream.given after = stream.given before) :
      Carriage message before after (.error .transport, answer)
  /-- The call failed later, when more bytes of the message had been taken than bytes were given. -/
  | brokenOff {answer : Memory} {sent received : List Byte} (hfront : sent <+: message)
      (hless : received.length < sent.length)
      (htaken : stream.taken after = stream.taken before ++ sent)
      (hgiven : stream.given after = stream.given before ++ received) :
      Carriage message before after (.error .transport, answer)

/-- A call over the stream comes to its end, and goes in one of these ways. -/
theorem exists_of_callStream {message : Memory} (hpos : 0 < message.size) (state : σ) :
    ∃ result after, (Channel.callStream message).run host state = (.ok result, after) ∧
      stream.Carriage message.toList state after result := by
  have hlength : message.toList.length = message.size := Array.length_toList
  obtain ⟨written, between, sent, hwrite, hsent, hgiven, hprefix, hall⟩ :=
    stream.exists_of_writeAll hlength.le state
  have hnone : stream.given between = stream.given state ++ [] := by rw [hgiven, List.append_nil]
  rw [Channel.callStream, Program.run_bind_of_ok hwrite]
  cases written with
  | false =>
    -- what was taken of the message makes the difference
    refine ⟨_, between, rfl, ?_⟩
    rcases sent.eq_nil_or_concat with rfl | ⟨front, byte, rfl⟩
    · exact .refused (by simpa using hsent) hgiven
    · exact .brokenOff hprefix (by simp) hsent hnone
  | true =>
    obtain rfl := hall.mp rfl
    have htaken := stream.taken_flush between
    have hgave := stream.given_flush between
    simp only [if_true]
    rw [Program.run_request_bind]
    generalize host.answer .streamFlush between = answer at htaken hgave ⊢
    obtain ⟨_ | _, next⟩ := answer
    -- without a flush nothing is read
    · refine ⟨_, next, rfl, .brokenOff hprefix ?_ (htaken.trans hsent) (hgave.trans hnone)⟩
      exact hlength.symm ▸ hpos
    obtain ⟨filled, received, after, hread, hkept, hreceived, hle, hfull⟩ :=
      stream.exists_of_readAll (Nat.zero_le message.size) (Nat.le_add_left message.size 0) next
    rw [Nat.zero_add] at hle hfull
    have hafter : stream.taken after = stream.taken state ++ message.toList :=
      hkept.trans (htaken.trans hsent)
    have hgivenAfter : stream.given after = stream.given state ++ received := by
      rw [hreceived, hgave, hgiven]
    simp only [if_true]
    rw [Program.run_bind_of_ok hread]
    refine ⟨_, after, rfl, ?_⟩
    -- the message is taken by now, and it is answered if what was read fills it
    cases filled with
    | false =>
      have hshort : received.length < message.size :=
        hle.lt_of_ne fun heq => Bool.false_ne_true (hfull.mpr heq)
      exact .brokenOff hprefix (hlength.symm ▸ hshort) hafter hgivenAfter
    | true =>
      have hdrop : message.toList.drop received.length = [] := by
        rw [hfull.mp rfl, ← hlength, List.drop_length]
      have hanswer : (Memory.store message 0 received).toList = received := by
        rw [Memory.toList_store_zero hle, hdrop, List.append_nil]
      exact .carried (by rw [Memory.size_store, hlength]) hafter (hanswer.symm ▸ hgivenAfter)

end FirmwareStream

/-! ## Calls, one after the other -/

/-- What the caller makes of what became of a message. -/
def PropertyResult.decoded : PropertyResult → Except RegulatorError PinMessage
  | (.ok (), answer) => PinMessage.decode answer
  | (.error cause, _) => .error cause

theorem Channel.exchange_eq (channel : Channel) (message : PinMessage) :
    channel.exchange message =
      channel.property message.encode >>= fun carried => .done (PropertyResult.decoded carried) := by
  refine congrArg _ (funext fun carried => ?_)
  obtain ⟨_ | ⟨⟩, answer⟩ := carried
  · rfl
  · rfl

/-- A call that reads or drives a pin. -/
inductive PinCall where
  /-- Read the state of a pin. -/
  | read (pin : Word)
  /-- Drive a pin. -/
  | drive (pin state : Word)
  deriving DecidableEq, Repr

namespace PinCall

/-- The message that the call sends. -/
def message : PinCall → PinMessage
  | .read pin => .read pin
  | .drive pin state => .drive pin state

/-- The bytes of the message. -/
def bytes (call : PinCall) : List Byte :=
  call.message.encode.toList

/-- What the caller gets of an answer: the state of a pin that was read. -/
def value : PinCall → PinMessage → Option Word
  | .read _, answer => some answer.state
  | .drive _ _, _ => none

/-- Make the call over a byte stream. -/
def perform : PinCall → Program (Except RegulatorError (Option Word))
  | .read pin => return (← Channel.stream.readPin pin).map some
  | .drive pin state => return (← Channel.stream.drivePin pin state).map fun _ => none

/-- What the caller gets of what became of the message. -/
def result (call : PinCall) (carried : PropertyResult) : Except RegulatorError (Option Word) :=
  (PropertyResult.decoded carried).map call.value

theorem length_bytes (call : PinCall) : call.bytes.length = PinMessage.size := by
  rw [bytes, Array.length_toList, PinMessage.size_encode]

/-- A call sends its message over the stream. -/
theorem perform_eq (call : PinCall) : call.perform =
    Channel.callStream call.message.encode >>= fun carried => .done (call.result carried) := by
  -- both kinds of call make an exchange, and look at the answer each in its own way
  cases call with
  | read pin =>
    rw [perform, Channel.readPin, Channel.exchange_eq, bind_assoc, bind_assoc]
    refine congrArg _ (funext fun carried => ?_)
    rw [result]
    cases PropertyResult.decoded carried <;> rfl
  | drive pin state =>
    rw [perform, Channel.drivePin, Channel.exchange_eq, bind_assoc, bind_assoc]
    refine congrArg _ (funext fun carried => ?_)
    rw [result]
    cases PropertyResult.decoded carried <;> rfl

/-- An answer in full does not look like a failure on the way. -/
theorem result_ne_transport (call : PinCall) {answer : Memory}
    (hsize : PinMessage.size ≤ answer.size) : call.result (.ok (), answer) ≠ .error .transport := by
  rw [result, PropertyResult.decoded, PinMessage.decode, if_neg (Nat.not_lt.mpr hsize)]
  by_cases hcode : PinMessage.wordAt answer 4 = PinMessage.success <;> simp [hcode, Except.map]

end PinCall

/-- A call in a row of calls, and the state of the surroundings before it. -/
structure Turn (σ : Type) where
  /-- The call. -/
  call : PinCall
  /-- The state before it. -/
  before : σ

namespace Turn

variable {σ : Type}

/-- What came of the call. -/
def outcome (host : Host σ) (turn : Turn σ) : Except Fault (Except RegulatorError (Option Word)) :=
  (turn.call.perform.run host turn.before).1

/-- The state after the call. -/
def after (host : Host σ) (turn : Turn σ) : σ :=
  (turn.call.perform.run host turn.before).2

/-- Some calls, one after the other. -/
def turns (host : Host σ) : List PinCall → σ → List (Turn σ)
  | [], _ => []
  | call :: calls, state => ⟨call, state⟩ :: turns host calls (after host ⟨call, state⟩)

end Turn

namespace FirmwareStream

variable {σ : Type} {host : Host σ} (stream : FirmwareStream host)

/-- The call was answered by the reply to its own message. -/
structure OwnAnswer (turn : Turn σ) : Prop where
  /-- The firmware had got whole messages before. -/
  whole : PinMessage.size ∣ (stream.taken turn.before).length
  /-- It got the message of the call next. -/
  taken_eq : stream.taken (turn.after host) = stream.taken turn.before ++ turn.call.bytes
  /-- All answers to earlier messages had been read. -/
  earlier : stream.given turn.before = PinMessage.answers stream.reply (stream.taken turn.before)
  /-- What was read is the reply to the message. -/
  given_eq : stream.given (turn.after host) =
    stream.given turn.before ++ stream.reply (stream.taken turn.before) turn.call.bytes
  /-- The caller gets what the reply says. -/
  outcome_eq : turn.outcome host =
    .ok (turn.call.result (.ok (), (stream.reply (stream.taken turn.before) turn.call.bytes).toArray))

/-- The call failed after the stream had taken some of its message. -/
def BrokeOff (turn : Turn σ) : Prop :=
  turn.outcome host = .ok (.error .transport) ∧
    stream.taken (turn.after host) ≠ stream.taken turn.before

/-- Each call comes to its end, and moves what it moves. -/
theorem exists_carriage (turn : Turn σ) : ∃ carried,
    turn.outcome host = .ok (turn.call.result carried) ∧
      stream.Carriage turn.call.bytes turn.before (turn.after host) carried := by
  have hpos : 0 < turn.call.message.encode.size := by
    rw [PinMessage.size_encode]
    decide
  obtain ⟨carried, after, hrun, hcarriage⟩ := stream.exists_of_callStream hpos turn.before
  have hperform : turn.call.perform.run host turn.before =
      (.ok (turn.call.result carried), after) := by
    rw [PinCall.perform_eq, Program.run_bind_of_ok hrun, Program.run_done]
  refine ⟨carried, congrArg Prod.fst hperform, ?_⟩
  rw [show turn.after host = after from congrArg Prod.snd hperform]
  exact hcarriage

/-- After a call, the stream is in step if it was so before and the call did not break off. -/
theorem inStep_after_iff (turn : Turn σ) :
    stream.InStep (turn.after host) ↔ stream.InStep turn.before ∧ ¬ stream.BrokeOff turn := by
  obtain ⟨carried, houtcome, hcarriage⟩ := stream.exists_carriage turn
  cases hcarriage with
  | @carried answer hsize htaken hgiven =>
    have hlength : answer.toList.length = turn.call.bytes.length := Array.length_toList.trans hsize
    have hnot : ¬ stream.BrokeOff turn := by
      rintro ⟨htransport, -⟩
      refine turn.call.result_ne_transport ?_ (Except.ok.inj (houtcome.symm.trans htransport))
      rw [hsize, PinCall.length_bytes]
    -- as much was given as was taken
    rw [InStep, htaken, hgiven, List.length_append, List.length_append, hlength,
      Nat.add_right_cancel_iff]
    exact (and_iff_left hnot).symm
  | refused htaken hgiven =>
    -- nothing was moved
    rw [InStep, htaken, hgiven]
    exact (and_iff_left fun hbroke => hbroke.2 htaken).symm
  | brokenOff hfront hless htaken hgiven =>
    have hbroke : stream.BrokeOff turn := by
      refine ⟨houtcome, fun heq => ?_⟩
      have hlengths := congrArg List.length (htaken.symm.trans heq)
      rw [List.length_append] at hlengths
      omega
    -- more was taken than given, and before that no less
    refine iff_of_false ?_ fun h => h.2 hbroke
    have hle := stream.length_given_le_taken turn.before
    rw [InStep, htaken, hgiven, List.length_append, List.length_append]
    omega

/-- So it is before a call of a row if it was so at first and no call before it broke off. -/
theorem inStep_before_iff {calls : List PinCall} {start : σ} {earlier later : List (Turn σ)}
    {turn : Turn σ} (h : Turn.turns host calls start = earlier ++ turn :: later) :
    stream.InStep turn.before ↔
      stream.InStep start ∧ ∀ first ∈ earlier, ¬ stream.BrokeOff first := by
  -- induction on the calls that were made before
  induction earlier generalizing calls start with
  | nil =>
    cases calls with
    | nil => simp [Turn.turns] at h
    | cons call calls =>
      obtain ⟨rfl, -⟩ := List.cons.inj h
      simp
  | cons first earlier ih =>
    cases calls with
    | nil => simp [Turn.turns] at h
    | cons call calls =>
      obtain ⟨rfl, hrest⟩ := List.cons.inj h
      rw [ih hrest, inStep_after_iff, List.forall_mem_cons, and_assoc]

/-- A call that was carried out in step was answered by the reply to its own message. -/
theorem ownAnswer_iff_inStep {turn : Turn σ} {result : Except RegulatorError (Option Word)}
    (houtcome : turn.outcome host = .ok result) (hresult : result ≠ .error .transport) :
    stream.OwnAnswer turn ↔ stream.InStep turn.before := by
  constructor
  · intro h
    rw [InStep, h.earlier, PinMessage.length_answers stream.length_reply, Nat.mul_div_cancel' h.whole]
  intro hstep
  obtain ⟨carried, hcall, hcarriage⟩ := stream.exists_carriage turn
  obtain rfl := Except.ok.inj (houtcome.symm.trans hcall)
  cases hcarriage with
  -- a call that failed on the way has no answer
  | refused => exact absurd rfl hresult
  | brokenOff => exact absurd rfl hresult
  | @carried answer hsize htaken hgiven =>
    have hlength := turn.call.length_bytes
    -- what is read comes right after the answers to earlier messages
    have hanswer : answer.toList = stream.reply (stream.taken turn.before) turn.call.bytes := by
      have hprefix := stream.given_prefix (turn.after host)
      rw [htaken, hgiven, PinMessage.answers_append_message hstep.dvd hlength, hstep.given_eq,
        List.prefix_append_right_inj] at hprefix
      refine hprefix.eq_of_length ?_
      rw [stream.length_reply _ _ hlength, Array.length_toList, hsize, hlength]
    exact
      { whole := hstep.dvd
        taken_eq := htaken
        earlier := hstep.given_eq
        given_eq := by rw [hgiven, hanswer]
        outcome_eq := by rw [hcall, ← hanswer, Array.toArray_toList] }

/-- **Which calls read their own answer.** Take a byte stream to firmware that answers each message in full,
where each write and each read moves as many bytes as it likes and each step may fail, and a row of calls
that starts in step. Each of them comes to its end. A call that the stream carried, so that the caller hears
from the firmware, was answered by the reply to its own message exactly if no call before it broke off after
the stream had taken some of its message. After such a call, what any later one reads begins with a byte that
answers bytes taken before it. -/
theorem ownAnswer_iff {start : σ} (hstart : stream.InStep start) {calls : List PinCall}
    {earlier later : List (Turn σ)} {turn : Turn σ}
    (h : Turn.turns host calls start = earlier ++ turn :: later) :
    ∃ result, turn.outcome host = .ok result ∧
      (result ≠ .error .transport →
        (stream.OwnAnswer turn ↔ ∀ first ∈ earlier, ¬ stream.BrokeOff first)) ∧
      ((∃ first ∈ earlier, stream.BrokeOff first) →
        (stream.given turn.before).length < (stream.taken turn.before).length) := by
  have hbefore : stream.InStep turn.before ↔ ∀ first ∈ earlier, ¬ stream.BrokeOff first := by
    rw [stream.inStep_before_iff h]
    exact and_iff_right hstart
  obtain ⟨carried, houtcome, -⟩ := stream.exists_carriage turn
  -- both parts go by whether the stream is in step before the call
  refine ⟨_, houtcome, fun hresult => ?_, ?_⟩
  · rw [stream.ownAnswer_iff_inStep houtcome hresult, hbefore]
  · rintro ⟨first, hfirst, hbroke⟩
    exact not_inStep_iff.mp fun hstep => hbefore.mp hstep first hfirst hbroke

end FirmwareStream

/-- A byte stream to firmware with given replies. It moves all that it can at once, unless there is a limit
for the next step. -/
structure Pipe (reply : List Byte → List Byte → List Byte) where
  /-- All bytes that it took so far. -/
  taken : List Byte
  /-- All bytes that it gave so far. -/
  given : List Byte
  /-- How many bytes the next writes and reads move at most. A step that moves none fails. -/
  limits : List Nat
  /-- It gives what the firmware answers. -/
  given_prefix : given <+: PinMessage.answers reply taken

namespace Pipe

variable {reply : List Byte → List Byte → List Byte}

/-- How many of so many bytes the next step moves. -/
def share (pipe : Pipe reply) (count : Nat) : Nat :=
  min count (pipe.limits.headD count)

/-- Take some bytes. -/
def take (pipe : Pipe reply) (bytes : List Byte) : Pipe reply where
  taken := pipe.taken ++ bytes
  given := pipe.given
  limits := pipe.limits.tail
  given_prefix := pipe.given_prefix.trans (PinMessage.answers_prefix reply _ _)

/-- The next bytes to be given, if there is room for so many. -/
def ready (pipe : Pipe reply) (room : Nat) : List Byte :=
  ((PinMessage.answers reply pipe.taken).drop pipe.given.length).take (pipe.share room)

/-- Give some bytes. -/
def give (pipe : Pipe reply) (room : Nat) : Pipe reply where
  taken := pipe.taken
  given := pipe.given ++ pipe.ready room
  limits := pipe.limits.tail
  given_prefix := by
    obtain ⟨rest, hrest⟩ := pipe.given_prefix
    rw [ready, ← hrest, List.drop_left, List.prefix_append_right_inj]
    exact List.take_prefix _ _

/-- Surroundings that have nothing but the stream. -/
def host (reply : List Byte → List Byte → List Byte) : Host (Pipe reply) where
  answer query pipe :=
    match query with
    | .streamWrite bytes =>
      let count := pipe.share bytes.length
      (if count = 0 then none else some count, pipe.take (bytes.take count))
    | .streamFlush => (true, pipe)
    | .streamRead room => (some (pipe.ready room), pipe.give room)
    | .property message => ((.error .notFound, message), pipe)
    | .context => (.passive, pipe)
    | .runPassive => (1, pipe)
    | .allocate _ => (none, pipe)
    | .read _ _ => (0, pipe)
    | .write _ _ _ => ((), pipe)
    | .barrier => ((), pipe)
    | .delay _ => ((), pipe)
    | .release _ => ((), pipe)
    | .complete _ _ => ((), pipe)

/-- It is a stream to such firmware. -/
def stream (hreply : ∀ earlier message, message.length = PinMessage.size →
    (reply earlier message).length = PinMessage.size) : FirmwareStream (host reply) where
  taken := taken
  given := given
  reply := reply
  length_reply := hreply
  given_prefix := given_prefix
  taken_write bytes pipe := by
    show pipe.taken ++ bytes.take (pipe.share bytes.length) = pipe.taken ++ bytes.take _
    by_cases hzero : pipe.share bytes.length = 0 <;> simp [host, hzero]
  write_takes bytes pipe hne count hcount := by
    have hle : pipe.share bytes.length ≤ bytes.length := Nat.min_le_left _ _
    by_cases hzero : pipe.share bytes.length = 0
    · simp [host, hzero] at hcount
    · simp [host, hzero] at hcount
      omega
  given_write _ _ := rfl
  taken_flush _ := rfl
  given_flush _ := rfl
  taken_read _ _ := rfl
  given_read _ _ := rfl
  read_gives room pipe run hrun := by
    obtain rfl := Option.some.inj hrun
    exact (List.length_take_le _ _).trans (Nat.min_le_left _ _)

/-- The reply of firmware that has the signaling pin at 1.8 V and all other pins low. -/
def highReply (_ message : List Byte) : List Byte :=
  let answer := Memory.store message.toArray 4 (LittleEndian.bytes 4 PinMessage.success.toNat)
  let state := if PinMessage.wordAt answer 20 = Regulator.signalingPin then Regulator.state18 else 0
  (Memory.store answer 24 (LittleEndian.bytes 4 state.toNat)).toList

theorem length_highReply (earlier message : List Byte) (h : message.length = PinMessage.size) :
    (highReply earlier message).length = PinMessage.size := by
  simp [highReply, h]

/-- A stream to this firmware that moved nothing yet. -/
def fresh (limits : List Nat) : Pipe highReply where
  taken := []
  given := []
  limits := limits
  given_prefix := List.nil_prefix

end Pipe

namespace FirmwareStream

/-- After a call that was refused at its first byte, one that is carried in pieces reads its own answer. -/
theorem ownAnswer_after_refusal :
    let stream := Pipe.stream Pipe.length_highReply
    let host := Pipe.host Pipe.highReply
    let start := Pipe.fresh [0, 20, 12, 5]
    let first : Turn (Pipe Pipe.highReply) := ⟨.drive 132 1, start⟩
    let second : Turn (Pipe Pipe.highReply) := ⟨.read 132, first.after host⟩
    stream.InStep start ∧
      Turn.turns host [.drive 132 1, .read 132] start = [first] ++ second :: [] ∧
      second.outcome host = .ok (.ok (some 1)) ∧ stream.OwnAnswer second := by
  intro stream host start first second
  have hstart : stream.InStep start := rfl
  have hturns : Turn.turns host [.drive 132 1, .read 132] start = [first] ++ second :: [] := rfl
  have houtcome : second.outcome host = .ok (.ok (some 1)) := by decide +kernel
  have hrefused : ¬ stream.BrokeOff first := fun hbroke => hbroke.2 (by decide +kernel)
  obtain ⟨result, hresult, hown, -⟩ := stream.ownAnswer_iff hstart hturns
  obtain rfl := Except.ok.inj (hresult.symm.trans houtcome)
  refine ⟨hstart, hturns, houtcome, (hown (by simp)).mpr ?_⟩
  simpa using hrefused

/-- The state of the signaling pin is asked for, and reading the answer fails. The next call asks for the
state of another pin, and is told the state of the signaling pin. -/
theorem answer_left_over :
    let stream := Pipe.stream Pipe.length_highReply
    let host := Pipe.host Pipe.highReply
    let start := Pipe.fresh [32, 0]
    let calls := [PinCall.read 132, .read 5]
    let second : Turn (Pipe Pipe.highReply) := ⟨.read 5, Turn.after host ⟨.read 132, start⟩⟩
    stream.InStep start ∧ second ∈ Turn.turns host calls start ∧
      second.outcome host = .ok (.ok (some 1)) ∧
      second.call.result (.ok (), (stream.reply (stream.taken second.before) second.call.bytes).toArray) =
        .ok (some 0) ∧
      ¬ ∀ turn ∈ Turn.turns host calls start, ∀ value,
        turn.outcome host = .ok (.ok value) → stream.OwnAnswer turn := by
  intro stream host start calls second
  have hmem : second ∈ Turn.turns host calls start := .tail _ (.head _)
  have houtcome : second.outcome host = .ok (.ok (some 1)) := by decide +kernel
  have hreply : second.call.result
      (.ok (), (stream.reply (stream.taken second.before) second.call.bytes).toArray) = .ok (some 0) := by
    decide +kernel
  refine ⟨rfl, hmem, houtcome, hreply, fun hall => ?_⟩
  have hown := (hall second hmem _ houtcome).outcome_eq
  rw [houtcome, hreply] at hown
  exact absurd hown (by decide)

end FirmwareStream

end SdHost
