import SdHost.Proofs.Dma.Prepare

/-!
# Descriptors and their bytes

A descriptor is written into memory as eight bytes, and the driver and the controller both go by what its
fields say there. Nothing may get lost on the way: the bytes of a descriptor give it back, a run of bytes is
given back by the descriptor that it holds, and each length that a descriptor can express is told from all
others, the longest one included, whose length field is zero.

The module introduces `Descriptor.Relengthed`: two descriptors that differ in nothing but their lengths.

Main statement: `Descriptor.descriptor_codec`.
-/

namespace SdHost

open DmaEngine (Entry)

namespace Descriptor

/-! ## Bytes -/

theorem ofBytes?_of_lt {run : List Byte} (h : run.length < size32) : ofBytes? run = none :=
  if_neg (Nat.not_le.mpr h)

/-- The descriptor at the start of a run of bytes has the first bytes of the run for its own. -/
theorem ofBytes?_of_le {run : List Byte} (h : size32 ≤ run.length) :
    ∃ descriptor, ofBytes? run = some descriptor ∧ toBytes descriptor = run.take size32 := by
  refine ⟨_, if_pos h, ?_⟩
  have hlength : (run.take size32).length = size32 := List.length_take_of_le h
  have hlt : LittleEndian.value (run.take size32) < 2 ^ 64 := by
    have hvalue := LittleEndian.value_lt (run.take size32)
    rwa [hlength] at hvalue
  have hbytes := LittleEndian.bytes_value (run.take size32)
  rw [toBytes, BitVec.toNat_ofNat, Nat.mod_eq_of_lt hlt]
  rwa [hlength] at hbytes

/-! ## Lengths -/

/-- A descriptor can have this length. -/
def Expressible (bytes : Nat) : Prop :=
  1 ≤ bytes ∧ bytes ≤ maxLength

instance : DecidablePred Expressible := fun _ => inferInstanceAs (Decidable (_ ∧ _))

theorem checkLength_eq (bytes : Nat) :
    checkLength bytes = if Expressible bytes then .ok () else .error .badLength := rfl

theorem setByteLength_eq (bytes : Nat) (descriptor : Descriptor) :
    setByteLength bytes descriptor =
      if Expressible bytes then .ok (withByteLength bytes descriptor) else .error .badLength := by
  rw [setByteLength, checkLength_eq]
  split <;> rfl

theorem transfer?_eq (target : Word) (bytes : Nat) :
    transfer? target bytes =
      if Expressible bytes then .ok (transfer target bytes) else .error .badLength := by
  rw [transfer?, checkLength_eq]
  split <;> rfl

/-- The second descriptor has a given length, and is like the first in everything else. -/
structure Relengthed (bytes : Nat) (before after : Descriptor) : Prop where
  byteLength_eq : byteLength after = bytes
  lengthUpper_eq : lengthUpper.get after = 0
  valid_eq : valid.test after = valid.test before
  last_eq : last.test after = last.test before
  interrupt_eq : interrupt.test after = interrupt.test before
  action_eq : action.get after = action.get before
  address_eq : address.get after = address.get before

theorem address_withByteLength (bytes : Nat) (descriptor : Descriptor) :
    address.get (withByteLength bytes descriptor) = address.get descriptor := by
  rw [withByteLength, Field.get_set_of_disjoint _ _ (by decide),
    Field.get_set_of_disjoint _ _ (by decide)]

theorem relengthed_withByteLength {bytes : Nat} (h : Expressible bytes) (descriptor : Descriptor) :
    Relengthed bytes descriptor (withByteLength bytes descriptor) := by
  -- all but the address is in the entry that the engine makes of the descriptor
  have hentry := Entry.ofDescriptor_withByteLength bytes descriptor 0
  exact
    { byteLength_eq := byteLength_withByteLength bytes descriptor h.1 h.2
      lengthUpper_eq := congrArg Entry.lengthUpper hentry
      valid_eq := congrArg Entry.valid hentry
      last_eq := congrArg Entry.last hentry
      interrupt_eq := congrArg Entry.interrupt hentry
      action_eq := congrArg Entry.action hentry
      address_eq := address_withByteLength bytes descriptor }

/-! ## Transfers -/

theorem moves_transfer {bytes : Nat} (h : Expressible bytes) (target : Word) :
    (transfer target bytes).Moves false target.toNat bytes :=
  moves_of_entry (Entry.ofWord_transfer target bytes) h.1 h.2

/-- What a descriptor has moved tells the address and the length that it was made with. -/
theorem transfer_injective {target target' : Word} {bytes bytes' : Nat} (h : Expressible bytes)
    (h' : Expressible bytes') (heq : transfer target bytes = transfer target' bytes') :
    target = target' ∧ bytes = bytes' := by
  have hmoves := moves_transfer h target
  rw [heq] at hmoves
  have hmoves' := moves_transfer h' target'
  exact ⟨BitVec.eq_of_toNat_eq (hmoves.address_eq.symm.trans hmoves'.address_eq),
    hmoves.byteLength_eq.symm.trans hmoves'.byteLength_eq⟩

/-- **Descriptors keep what they are given.** A descriptor comes back from its bytes, and eight bytes or more
give a descriptor whose bytes are the first eight of them; fewer give none. Setting a length that a
descriptor can express changes the length to it, clears its upper part and changes nothing else, and any
other length is refused. A descriptor that is made for an address and a length reads back from its bytes as
valid, moving data, not the last and not raising an interrupt, with this address and this length, so that no
two pairs of an address and a length have the same descriptor. -/
theorem descriptor_codec :
    (∀ descriptor : Descriptor, ofBytes? (toBytes descriptor) = some descriptor) ∧
    (∀ run : List Byte, if size32 ≤ run.length
      then ∃ descriptor, ofBytes? run = some descriptor ∧ toBytes descriptor = run.take size32
      else ofBytes? run = none) ∧
    (∀ (bytes : Nat) (descriptor : Descriptor), if Expressible bytes
      then ∃ after, setByteLength bytes descriptor = .ok after ∧ Relengthed bytes descriptor after
      else setByteLength bytes descriptor = .error .badLength) ∧
    (∀ (target : Word) (bytes : Nat), if Expressible bytes
      then ∃ made read, transfer? target bytes = .ok made ∧ ofBytes? (toBytes made) = some read ∧
        read.Moves false target.toNat bytes ∧ interrupt.test read = false ∧
        lengthUpper.get read = 0
      else transfer? target bytes = .error .badLength) ∧
    ∀ (target target' : Word) (bytes bytes' : Nat) (made : Descriptor),
      transfer? target bytes = .ok made → transfer? target' bytes' = .ok made →
      target = target' ∧ bytes = bytes' := by
  refine ⟨ofBytes?_toBytes, fun run => ?_, fun bytes descriptor => ?_, fun target bytes => ?_, ?_⟩
  · split
    next h => exact ofBytes?_of_le h
    next h => exact ofBytes?_of_lt (Nat.not_le.mp h)
  · rw [setByteLength_eq]
    split
    next h => exact ⟨_, rfl, relengthed_withByteLength h descriptor⟩
    next => rfl
  · rw [transfer?_eq]
    split
    next h =>
      have hentry := Entry.ofWord_transfer target bytes
      exact ⟨_, _, rfl, ofBytes?_toBytes _, moves_transfer h target,
        congrArg Entry.interrupt hentry, congrArg Entry.lengthUpper hentry⟩
    next => rfl
  · intro target target' bytes bytes' made hmade hmade'
    rw [transfer?_eq] at hmade hmade'
    split at hmade
    case isFalse => cases hmade
    split at hmade'
    case isFalse => cases hmade'
    next h h' => exact transfer_injective h h' (Except.ok.inj (hmade.trans hmade'.symm))

/-- The longest transfer has zero in its length field, and is still told from all others. -/
theorem descriptor_codec_longest :
    ∃ made, transfer? 0x1000 0x10000 = .ok made ∧ toBytes made = [0x21, 0, 0, 0, 0, 0x10, 0, 0] ∧
      ∀ (target : Word) (bytes : Nat), transfer? target bytes = .ok made →
        target = 0x1000 ∧ bytes = 0x10000 := by
  obtain ⟨-, -, -, -, hinjective⟩ := descriptor_codec
  exact ⟨_, rfl, by decide, fun target bytes hmade =>
    hinjective target 0x1000 bytes 0x10000 _ hmade rfl⟩

end Descriptor

end SdHost
