import SdHost.Proofs.Register.Field
import SdHost.Proofs.Request.Completion

/-!
# How a failed step is reported

A step of a request fails with the first interrupt that brings errors. The framework is told at
once, and the request waits for nothing more. Which status it is told goes by weight: of all errors
that came, the weightiest decides.

The controller has sixteen error interrupts, but the framework hands errors back in a word of
thirty-two bits. That something failed is seen from the whole word, and what failed from its low
half. `failure_of_errors` says what is reported, also if the low half is empty.
-/

namespace SdHost

namespace Status

/-- The status says that something went wrong. -/
def IsError (status : Status) : Prop :=
  status ≠ .success ∧ status ≠ .moreProcessingRequired

instance : DecidablePred IsError :=
  fun _ => inferInstanceAs (Decidable (_ ∧ _))

/-- The errors that a status is kept for. All others share `otherError`. -/
def causes : Status → HalfWord
  | .timeout => ErrorEvents.commandTimeout.mask ||| ErrorEvents.dataTimeout.mask
  | .checksum => ErrorEvents.commandCrc.mask ||| ErrorEvents.dataCrc.mask
  | .endBit => ErrorEvents.commandEndBit.mask ||| ErrorEvents.dataEndBit.mask
  | .commandIndex => ErrorEvents.commandIndex.mask
  | .currentLimit => ErrorEvents.currentLimit.mask
  | .success | .moreProcessingRequired | .otherError => 0

/-- One of the errors is a cause of the status. -/
def CausedBy (errors : HalfWord) (status : Status) : Prop :=
  errors &&& status.causes ≠ 0

instance (errors : HalfWord) : DecidablePred (CausedBy errors) :=
  fun _ => inferInstanceAs (Decidable (_ ≠ _))

/-- The statuses that errors are kept for, the weightiest first. -/
def byWeight : List Status :=
  [.timeout, .checksum, .endBit, .commandIndex, .currentLimit]

/-- The weightiest status that one of the errors is a cause of. -/
def weightiest (errors : HalfWord) : Status :=
  (byWeight.find? fun status => CausedBy errors status).getD .otherError

/-- Whatever came, the weightiest status is an error. -/
theorem isError_weightiest (errors : HalfWord) : (weightiest errors).IsError := by
  have hall : ∀ status ∈ byWeight, status.IsError := by decide
  rw [weightiest]
  cases hfind : byWeight.find? fun status => CausedBy errors status with
  | none => decide
  | some status => exact hall status (List.mem_of_find?_eq_some hfind)

/-- The first status of a list that is caused is found one status at a time. -/
theorem getD_find?_cons (errors : HalfWord) (status : Status) (rest : List Status) :
    ((status :: rest).find? fun status => CausedBy errors status).getD .otherError =
      if CausedBy errors status then status
      else (rest.find? fun status => CausedBy errors status).getD .otherError := by
  by_cases h : CausedBy errors status <;> simp [h]

/-- One flag of a pair is on exactly if the word has a bit of their masks. -/
theorem and_masks_ne_zero_iff {f g : Field 16} (hf : f.width = 1) (hg : g.width = 1)
    (errors : HalfWord) :
    errors &&& (f.mask ||| g.mask) ≠ 0 ↔ (f.test errors || g.test errors) = true := by
  have hsplit : errors &&& (f.mask ||| g.mask) = 0 ↔
      errors &&& f.mask = 0 ∧ errors &&& g.mask = 0 := by
    rw [BitVec.and_or_distrib_left]
    exact BitVec.or_eq_zero_iff
  rw [Ne, hsplit, f.and_mask_eq_zero_iff hf, g.and_mask_eq_zero_iff hg, ← Bool.or_eq_false_iff,
    Bool.not_eq_false]

theorem and_mask_ne_zero_iff {f : Field 16} (hf : f.width = 1) (errors : HalfWord) :
    errors &&& f.mask ≠ 0 ↔ f.test errors = true := by
  rw [Ne, f.and_mask_eq_zero_iff hf, Bool.not_eq_false]

/-- The status of errors is the weightiest, if there are any. -/
theorem ofErrors_eq (errors : HalfWord) :
    ofErrors errors = if errors = 0 then .success else weightiest errors := by
  rw [ofErrors, weightiest, byWeight]
  simp only [getD_find?_cons, List.find?_nil, Option.getD_none]
  simp (disch := decide) only [CausedBy, causes, and_masks_ne_zero_iff, and_mask_ne_zero_iff]

/-- The status of errors is an error exactly if there are any. -/
theorem isError_ofErrors_iff (errors : HalfWord) : (ofErrors errors).IsError ↔ errors ≠ 0 := by
  rw [ofErrors_eq]
  by_cases hzero : errors = 0
  · simp [hzero, IsError]
  · rw [if_neg hzero]
    exact iff_of_true (isError_weightiest errors) hzero

end Status

namespace Request

/-- Errors end the step, whatever it waited for. -/
theorem account_of_ne_zero (request : Request) (events : Word) {errors : Word}
    (herrors : errors ≠ 0) :
    request.account events errors =
      finish { request with requiredEvents := 0 } (Status.ofErrors (errors.setWidth 16)) := by
  rw [account, if_pos herrors]
  rfl

/-- **How a failed step is reported.** Account for errors, whatever the request was like and
whatever events came with them. The request waits for nothing more, and the framework is told once,
with the status that the request keeps.

That status is an error exactly if the low half of the errors is not empty, so always if they are
errors of the controller, and then it is the weightiest. Errors of the upper half alone are reported
as a success. -/
theorem failure_of_errors {σ : Type} (host : Host σ) (request : Request) (events : Word)
    {errors : Word} (herrors : errors ≠ 0) (state : σ) :
    ∃ (told : Request) (after : σ),
      (request.account events errors).run host state = (.ok told, after) ∧
      (request.account events errors).history host state = [⟨.complete told told.status, ()⟩] ∧
      told = { request with
        requiredEvents := 0, status := told.status, completions := request.completions + 1 } ∧
      (told.status.IsError ↔ errors.setWidth 16 ≠ (0 : HalfWord)) ∧
      (errors.toNat < 0x10000 → told.status.IsError) ∧
      told.status = if errors.setWidth 16 = (0 : HalfWord) then .success
        else Status.weightiest (errors.setWidth 16) := by
  set low : HalfWord := errors.setWidth 16 with hlow
  have herror : (Status.ofErrors low).IsError ↔ low ≠ 0 := Status.isError_ofErrors_iff low
  rw [account_of_ne_zero request events herrors]
  refine ⟨{ request with
    requiredEvents := 0, status := Status.ofErrors low, completions := request.completions + 1 },
    _, rfl, rfl, rfl, herror, fun hsmall => herror.mpr ?_, Status.ofErrors_eq low⟩
  -- the low half of a small number is the number
  intro hzero
  have hnat : low.toNat = errors.toNat := by
    rw [hlow, BitVec.toNat_setWidth, Nat.mod_eq_of_lt hsmall]
  rw [hzero] at hnat
  exact herrors (BitVec.eq_of_toNat_eq hnat.symm)

namespace Failed

/-- A command that waits for its answer, and for the card to be ready again. -/
def request : Request :=
  { Answered.request with command.responseType := .r1b, requiredEvents := 3 }

end Failed

/-- With the answer come three errors, a wrong end bit, a wrong index and the current limit. The end
bit is the weightiest. -/
theorem failure_of_errors_endBit :
    (0x8C : Word) ≠ 0 ∧
    ∃ (told : Request) (after : Bench.World),
      (Failed.request.account 1 0x8C).run Bench.World.host Answered.world = (.ok told, after) ∧
      (Failed.request.account 1 0x8C).history Bench.World.host Answered.world =
        [⟨.complete told .endBit, ()⟩] ∧
      told.requiredEvents = 0 ∧ told.status = .endBit ∧ told.status.IsError := by
  have herrors : (0x8C : Word) ≠ 0 := by decide
  obtain ⟨told, after, hrun, hhistory, htold, -, herror, hstatus⟩ :=
    failure_of_errors Bench.World.host Failed.request 1 herrors Answered.world
  have hendBit : told.status = .endBit := hstatus.trans (by decide)
  refine ⟨herrors, told, after, hrun, ?_, congrArg requiredEvents htold, hendBit,
    herror (by decide)⟩
  rw [hhistory, hendBit]

/-- An error above the sixteen of the controller ends the step, and the framework is told that it
succeeded. -/
theorem success_of_high_error :
    (0x10000 : Word) ≠ 0 ∧
    ∃ (told : Request) (after : Bench.World),
      (Failed.request.account 0 0x10000).run Bench.World.host Answered.world = (.ok told, after) ∧
      (Failed.request.account 0 0x10000).history Bench.World.host Answered.world =
        [⟨.complete told .success, ()⟩] ∧
      told.status = .success ∧ ¬ told.status.IsError :=
  ⟨by decide, _, _, rfl, rfl, rfl, by decide⟩

end Request

end SdHost
