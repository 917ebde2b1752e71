import SdHost.Proofs.Memory
import SdHost.Regulator.Message

/-!
# Pin messages as bytes

The words of a pin message stand at fixed places of a buffer, which the driver and the firmware both go by.
The firmware answers in place, and what it answers is any buffer at all: it may be too short, and its code
may be any word.

The module introduces:

* `PinMessage.Holds`: a word stands at a place of a buffer;
* `PinMessage.Answers`: what a buffer says to the one who reads it as an answer;
* `PinMessage.decodeWithin`: reading an answer, where each access has to lie inside the buffer.

Main statement: `PinMessage.pinMessage_codec`.
-/

namespace SdHost.PinMessage

/-- The word stands at a byte offset of the buffer, least significant byte first. -/
def Holds (buffer : Memory) (offset : Nat) (word : Word) : Prop :=
  (buffer.toList.drop offset).take 4 = LittleEndian.bytes 4 word.toNat

section Holds

variable {buffer : Memory} {offset : Nat} {word : Word}

theorem Holds.wordAt_eq (h : Holds buffer offset word) : wordAt buffer offset = word := by
  rw [wordAt, Memory.load, Memory.toList_extract, h]
  exact @LittleEndian.ofNat_value_bytes_toNat .word word

theorem holds_wordAt (hsize : offset + 4 ≤ buffer.size) :
    Holds buffer offset (wordAt buffer offset) := by
  have hlength : ((buffer.toList.drop offset).take 4).length = Width.word.bytes := by
    rw [List.length_take, List.length_drop, Array.length_toList]
    exact Nat.min_eq_left (by omega)
  rw [wordAt, Memory.load, Memory.toList_extract]
  exact (LittleEndian.bytes_toNat_ofNat_value .word hlength).symm

/-- A word that is put into the buffer stands there. -/
theorem holds_store (hsize : offset + 4 ≤ buffer.size) (word : Word) :
    Holds (Memory.store buffer offset (LittleEndian.bytes 4 word.toNat)) offset word := by
  have hbytes : (LittleEndian.bytes 4 word.toNat).length = 4 := LittleEndian.length_bytes 4 _
  have htake : (buffer.toList.take offset).length = offset := by
    rw [List.length_take, Array.length_toList]
    omega
  rw [Holds, Memory.toList_store _ _ _ (by rwa [hbytes]), List.append_assoc,
    List.drop_left' htake, List.take_left' hbytes]

/-- What is stored before a word does not touch it. -/
theorem Holds.store_before (h : Holds buffer offset word) {start : Nat} {run : List Byte}
    (hbefore : start + run.length ≤ offset) (hsize : start + run.length ≤ buffer.size) :
    Holds (Memory.store buffer start run) offset word := by
  have hlength : (buffer.toList.take start ++ run).length = start + run.length := by
    rw [List.length_append, List.length_take, Array.length_toList]
    omega
  rw [Holds, Memory.toList_store _ _ _ hsize, List.drop_append, List.drop_eq_nil_of_le (by omega),
    List.nil_append, hlength, List.drop_drop, Nat.add_sub_cancel' hbefore]
  exact h

end Holds

/-! ## Messages -/

theorem size_encode (message : PinMessage) : message.encode.size = size := rfl

variable {message : PinMessage} {buffer : Memory}

theorem holds_tag (message : PinMessage) : Holds message.encode 8 message.tag := rfl

theorem holds_pin (message : PinMessage) : Holds message.encode 20 message.pin := rfl

theorem holds_state (message : PinMessage) : Holds message.encode 24 message.state := rfl

/-- Two buffers have the same tag, and the same pin and state. -/
def SameFields (first second : Memory) : Prop :=
  first.extract 8 12 = second.extract 8 12 ∧ first.extract 20 28 = second.extract 20 28

theorem extract_eq_iff {first second : Memory} (offset count : Nat) :
    first.extract offset (offset + count) = second.extract offset (offset + count) ↔
      (first.toList.drop offset).take count = (second.toList.drop offset).take count := by
  rw [← Array.toList_inj, Memory.toList_extract, Memory.toList_extract]

/-- A message has the fields of a buffer exactly if its words stand there. -/
theorem sameFields_encode_iff (hsize : size ≤ buffer.size) :
    SameFields message.encode buffer ↔
      Holds buffer 8 message.tag ∧ Holds buffer 20 message.pin ∧ Holds buffer 24 message.state := by
  have hpin : ((buffer.toList.drop 20).take 4).length = (LittleEndian.bytes 4 message.pin.toNat).length := by
    rw [LittleEndian.length_bytes, List.length_take, List.length_drop, Array.length_toList]
    exact Nat.min_eq_left (by unfold size at hsize; omega)
  -- the pin and the state stand side by side
  have hsplit : (buffer.toList.drop 20).take 8 =
      (buffer.toList.drop 20).take 4 ++ (buffer.toList.drop 24).take 4 := by
    rw [show 8 = 4 + 4 from rfl, List.take_add, List.drop_drop]
  rw [SameFields, extract_eq_iff 8 4, extract_eq_iff 20 8, hsplit]
  refine and_congr eq_comm (eq_comm.trans ⟨fun h => List.append_inj h hpin, ?_⟩)
  rintro ⟨hpin, hstate⟩
  exact congrArg₂ _ hpin hstate

/-! ## Answers -/

/-- What a buffer says to the one who reads it as an answer: it is too short, or the firmware refused, or
these are the pin and its state. -/
inductive Answers (buffer : Memory) : Except RegulatorError PinMessage → Prop
  | short (hsize : buffer.size < size) : Answers buffer (.error .transport)
  | refused {code : Word} (hsize : size ≤ buffer.size) (hcode : Holds buffer 4 code)
      (hne : code ≠ success) : Answers buffer (.error (.rejected code))
  | accepted {message : PinMessage} (hsize : size ≤ buffer.size) (hcode : Holds buffer 4 success)
      (hfields : SameFields message.encode buffer) : Answers buffer (.ok message)

theorem decode_of_holds (hsize : size ≤ buffer.size) {code : Word} (hcode : Holds buffer 4 code) :
    decode buffer = if code = success
      then .ok { tag := wordAt buffer 8, pin := wordAt buffer 20, state := wordAt buffer 24 }
      else .error (.rejected code) := by
  rw [decode, if_neg (Nat.not_lt.mpr hsize)]
  simp only [hcode.wordAt_eq]

theorem answers_decode (buffer : Memory) : Answers buffer (decode buffer) := by
  rcases Nat.lt_or_ge buffer.size size with hshort | hsize
  · rw [decode, if_pos hshort]
    exact .short hshort
  have hin {offset : Nat} (hoffset : offset + 4 ≤ size) : Holds buffer offset (wordAt buffer offset) :=
    holds_wordAt (hoffset.trans hsize)
  rw [decode_of_holds hsize (hin (by decide))]
  split
  next hcode =>
    refine .accepted hsize (hcode ▸ hin (by decide)) ((sameFields_encode_iff hsize).mpr ?_)
    exact ⟨hin (by decide), hin (by decide), hin (by decide)⟩
  next hcode => exact .refused hsize (hin (by decide)) hcode

/-- Reading an answer gives what the buffer says, and it says one thing only. -/
theorem decode_eq_iff {outcome : Except RegulatorError PinMessage} :
    decode buffer = outcome ↔ Answers buffer outcome := by
  refine ⟨fun h => h ▸ answers_decode buffer, fun h => ?_⟩
  cases h with
  | short hsize => rw [decode, if_pos hsize]
  | refused hsize hcode hne => rw [decode_of_holds hsize hcode, if_neg hne]
  | accepted hsize hcode hfields =>
    obtain ⟨htag, hpin, hstate⟩ := (sameFields_encode_iff hsize).mp hfields
    rw [decode_of_holds hsize hcode, if_pos rfl, htag.wordAt_eq, hpin.wordAt_eq, hstate.wordAt_eq]

/-! ## Accesses inside the buffer -/

/-- The word at a byte offset. The buffer has to reach so far. -/
def wordWithin (buffer : Memory) (offset : Nat) : Except Fault Word :=
  match Memory.slice? buffer offset 4 with
  | some part => .ok (BitVec.ofNat 32 (LittleEndian.value part.toList))
  | none => .error .outOfBounds

/-- Read the answer to a message, where each word has to lie inside the buffer. -/
def decodeWithin (buffer : Memory) : Except Fault (Except RegulatorError PinMessage) :=
  if buffer.size < size then
    return .error .transport
  else do
    let code ← wordWithin buffer 4
    if code = success then
      let tag ← wordWithin buffer 8
      let pin ← wordWithin buffer 20
      let state ← wordWithin buffer 24
      return .ok { tag, pin, state }
    else
      return .error (.rejected code)

theorem wordWithin_eq {offset : Nat} (hsize : offset + 4 ≤ buffer.size) :
    wordWithin buffer offset = .ok (wordAt buffer offset) := by
  rw [wordWithin, Memory.slice?_of_le hsize]
  rfl

/-- No access is outside the buffer. -/
theorem decodeWithin_eq (buffer : Memory) : decodeWithin buffer = .ok (decode buffer) := by
  rw [decodeWithin, decode]
  split
  next => rfl
  next hsize =>
    -- the length was checked before the first word is read
    have hin {offset : Nat} (hoffset : offset + 4 ≤ size) :
        wordWithin buffer offset = .ok (wordAt buffer offset) :=
      wordWithin_eq (hoffset.trans (Nat.not_lt.mp hsize))
    rw [hin (by decide), hin (by decide), hin (by decide), hin (by decide)]
    by_cases hcode : wordAt buffer 4 = success <;> simp [hcode, bind, Except.bind, pure, Except.pure]

/-- **Pin messages keep what they are given.** A message is sent as 32 bytes, and comes back from them once
their code is the one for success. A buffer of any length that is read as an answer is taken for what it
says and for nothing else: it is not carried if it has fewer than 32 bytes; else it is refused with its code,
if that is not success; and else it is the message that has the same tag, the same pin and the same state. All
words that are read for this lie inside the buffer. -/
theorem pinMessage_codec :
    (∀ message : PinMessage, message.encode.size = 32 ∧
      decode (Memory.store message.encode 4 (LittleEndian.bytes 4 success.toNat)) = .ok message) ∧
    ∀ buffer : Memory, decodeWithin buffer = .ok (decode buffer) ∧
      ∀ outcome, decode buffer = outcome ↔ Answers buffer outcome := by
  refine ⟨fun message => ⟨size_encode message, ?_⟩,
    fun buffer => ⟨decodeWithin_eq buffer, fun _ => decode_eq_iff⟩⟩
  have hsize : size ≤ (Memory.store message.encode 4 (LittleEndian.bytes 4 success.toNat)).size := by
    rw [Memory.size_store, size_encode]
  have hfit : 4 + 4 ≤ message.encode.size := by
    rw [size_encode]
    decide
  refine decode_eq_iff.mpr (.accepted hsize (holds_store hfit success) ?_)
  -- the code stands before all that the message says
  refine (sameFields_encode_iff hsize).mpr ⟨?_, ?_, ?_⟩
  · exact (holds_tag message).store_before (by decide) hfit
  · exact (holds_pin message).store_before (by decide) hfit
  · exact (holds_state message).store_before (by decide) hfit

end SdHost.PinMessage
