import SdHost.Bench.World
import SdHost.Proofs.Regulator.Codec
import SdHost.Proofs.Regulator.Firmware

/-!
# The pin of the bench

The firmware of the bench can be told to answer or to fail each call in some way. It drives its pin just
when it answers that it did, so that what is proved about such firmware can be tried out on the bench.
-/

namespace SdHost

namespace Bench

namespace Firmware

variable (firmware : Firmware)

theorem state_nextOutcome : firmware.nextOutcome.2.state = firmware.state := by
  rw [nextOutcome]
  split <;> rfl

/-- A call to drive the pin does so if it is accepted, and does nothing otherwise. -/
theorem call_drive (at18 : Bool) :
    let message := (PinMessage.drive Regulator.signalingPin (Regulator.level at18)).encode
    PropertyResult.Accepted (firmware.call message).1 ∧
        (firmware.call message).2.state = Regulator.level at18 ∨
      ¬ PropertyResult.Accepted (firmware.call message).1 ∧
        (firmware.call message).2.state = firmware.state := by
  have hstate := firmware.state_nextOutcome
  intro message
  have hsize : message.size = PinMessage.size := rfl
  -- the answer is the message again, but for the code
  have hanswer : ∀ at18,
      let message := (PinMessage.drive Regulator.signalingPin (Regulator.level at18)).encode
      let answer := Memory.store message 4 (LittleEndian.bytes 4 PinMessage.success.toNat)
      PinMessage.wordAt answer 8 = PinMessage.driveTag ∧
        PinMessage.wordAt answer 24 = Regulator.level at18 := by decide
  have hstored : ∀ code : Word, PinMessage.wordAt
      (Memory.store message 4 (LittleEndian.bytes 4 code.toNat)) 4 = code :=
    fun code => (PinMessage.holds_store (by rw [hsize]; decide) code).wordAt_eq
  rcases hnext : firmware.nextOutcome with ⟨code | cause, next⟩
  · rw [hnext] at hstate
    simp only [call, hnext, answer, hsize]
    by_cases hcode : code = PinMessage.success
    · subst hcode
      rw [if_neg (by decide), if_pos rfl, if_pos (hanswer at18).1]
      refine .inl ⟨⟨rfl, ?_, hstored _⟩, (hanswer at18).2⟩
      rw [Memory.size_store, hsize]
    · rw [if_neg (by decide), if_neg hcode]
      refine .inr ⟨?_, hstate⟩
      rintro ⟨-, -, haccepted⟩
      exact hcode ((hstored code).symm.trans haccepted)
  · rw [hnext] at hstate
    refine .inr ⟨?_, ?_⟩
    · simp [call, hnext, PropertyResult.Accepted]
    · simpa [call, hnext] using hstate

theorem call_read :
    (firmware.call (PinMessage.read Regulator.signalingPin).encode).2.state = firmware.state := by
  have hstate := firmware.state_nextOutcome
  rcases hnext : firmware.nextOutcome with ⟨code | cause, next⟩
  · rw [hnext] at hstate
    simp only [call, hnext, answer]
    by_cases hcode : code = PinMessage.success
    · subst hcode
      exact hstate
    · rw [if_neg (by decide), if_neg hcode]
      exact hstate
  · rw [hnext] at hstate
    simpa [call, hnext] using hstate

end Firmware

/-- The bench, called through the plainest channel. -/
def pinFirmware : PinFirmware World.host .firmware where
  pin world := world.firmware.state
  drive := by
    intro at18 world after result hrun
    cases hrun
    exact world.firmware.call_drive at18
  read := by
    intro world after result hrun
    cases hrun
    exact world.firmware.call_read
  other := by
    rintro ⟨query, reply⟩ hquery world
    cases query with
    | allocate length =>
      -- the bench only makes a note of it and hands a buffer out
      simp only [World.host, World.answer, World.allocate]
      split
      · rfl
      · split <;> rfl
    | _ => first | rfl | cases hquery

end Bench

end SdHost
