import SdHost.Bench.World
import SdHost.Proofs.Transfer.DataPort

/-!
# The data window of the bench

The bench simulates the data window as a queue of bytes in either direction, and no other register
has to do with the queues. So what is proved about hosts with such a data window can be tried out on
the bench.
-/

namespace SdHost.Bench

namespace RegisterBlock

/-- Reading another register takes nothing out of the data window and puts nothing into it. -/
theorem read_other (block : RegisterBlock) {width : Width} {offset : Nat}
    (hoffset : offset ≠ RegisterMap.dataWindow.offset) :
    (block.read width offset).2.input = block.input ∧
      (block.read width offset).2.output = block.output := by
  unfold read
  rw [if_neg hoffset]
  split
  · exact ⟨rfl, rfl⟩
  -- a reset in progress and an unstable clock change with every look at them
  · rw [advanceReset]
    split <;> exact ⟨rfl, rfl⟩
  · rw [advanceClock]
    dsimp only
    split
    · split <;> exact ⟨rfl, rfl⟩
    · exact ⟨rfl, rfl⟩
  · exact ⟨rfl, rfl⟩

theorem write_other (block : RegisterBlock) {width : Width} {offset : Nat}
    (hoffset : offset ≠ RegisterMap.dataWindow.offset) (value : BitVec width.bits) :
    (block.write width offset value).input = block.input ∧
      (block.write width offset value).output = block.output := by
  unfold write
  rw [if_neg hoffset]
  split
  · exact ⟨rfl, rfl⟩
  · exact ⟨rfl, rfl⟩
  · rw [writePower]
    split <;> exact ⟨rfl, rfl⟩
  all_goals exact ⟨rfl, rfl⟩

end RegisterBlock

namespace World

theorem answer_other {query : Query} (hquery : query.usesDataPort = false) (world : World) :
    (host.answer query world).2.registers.input = world.registers.input ∧
      (host.answer query world).2.registers.output = world.registers.output := by
  cases query with
  | read width offset =>
    have hoffset : offset ≠ RegisterMap.dataWindow.offset := by
      simpa [Query.usesDataPort] using hquery
    exact world.registers.read_other hoffset
  | write width offset value =>
    have hoffset : offset ≠ RegisterMap.dataWindow.offset := by
      simpa [Query.usesDataPort] using hquery
    exact world.registers.write_other hoffset value
  -- what does not go to the registers leaves them alone
  | streamWrite bytes =>
    simp only [host, answer]
    split <;> exact ⟨rfl, rfl⟩
  | streamRead room =>
    simp only [host, answer]
    split <;> exact ⟨rfl, rfl⟩
  | streamFlush =>
    simp only [host, answer, flush]
    split
    · exact ⟨rfl, rfl⟩
    · split <;> exact ⟨rfl, rfl⟩
  | allocate length =>
    simp only [host, answer, allocate]
    split
    · exact ⟨rfl, rfl⟩
    · split <;> exact ⟨rfl, rfl⟩
  | _ => exact ⟨rfl, rfl⟩

/-- The data window of the bench. -/
def fifoPort : FifoPort host where
  input world := world.registers.input
  output world := world.registers.output.toList
  read_reply _ _ _ := rfl
  read_input _ _ _ := rfl
  read_output _ _ _ := rfl
  write_input _ _ _ := rfl
  write_output width value world := by
    show (world.registers.output ++ LittleEndian.bytes width.bytes value.toNat).toList = _
    simp
  other_input _ world hquery := (answer_other hquery world).1
  other_output _ world hquery := congrArg Array.toList (answer_other hquery world).2

end World

end SdHost.Bench
