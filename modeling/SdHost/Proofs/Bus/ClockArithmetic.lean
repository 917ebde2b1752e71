import SdHost.Proofs.Bus.Clock

/-!
# The arithmetic of the divisor

The divisor of the clock is worked out in machine words, and a quotient by zero, a product or a sum
without room, or a shift by too many bits would stop the driver. Here the search is written down in such
words, with each step checked. It comes to what the search in numbers comes to, and all but one of its
steps are safe for every base clock and every target: the even number that is to be tried after the
largest of all quotients has no room in a word.

The module introduces:

* `Word.checkedDiv`, `checkedMul`, `checkedShiftRight`, `checkedShiftLeft`: arithmetic that tells when it
  would stop;
* `ClockDivisor.findInWords`: the search in words;
* `ClockDivisor.Search`: the ways in which the search can go.

Main statement: `ClockDivisor.find_returns_iff`, where the search stops and what it comes to elsewhere.
-/

namespace SdHost

namespace Word

/-- The quotient of two words, unless the second is zero. -/
def checkedDiv (a b : Word) : Option Word :=
  if b = 0 then none else some (a / b)

/-- The product of two words, unless it needs a thirty-third bit. -/
def checkedMul (a b : Word) : Option Word :=
  if a.toNat * b.toNat < 0x100000000 then some (a * b) else none

/-- The word moved down by some bits, unless they are more than it has. -/
def checkedShiftRight (a : Word) (places : Nat) : Option Word :=
  if places < 32 then some (a >>> places) else none

/-- The word moved up by some bits, unless they are more than it has. -/
def checkedShiftLeft (a : Word) (places : Nat) : Option Word :=
  if places < 32 then some (a <<< places) else none

theorem checkedDiv_of_ne {a b : Word} (h : b ≠ 0) : checkedDiv a b = some (a / b) :=
  if_neg h

theorem checkedMul_of_lt {a b : Word} (h : a.toNat * b.toNat < 0x100000000) :
    checkedMul a b = some (a * b) :=
  if_pos h

/-- A word without its lowest bit is the even number below. -/
theorem toNat_and_not_one (a : Word) : (a &&& ~~~1#32).toNat = a.toNat / 2 * 2 := by
  have hshift : a &&& ~~~1#32 = (a >>> 1) <<< 1 := by
    refine BitVec.eq_of_getLsbD_eq fun i hi => ?_
    rw [BitVec.getLsbD_and, BitVec.getLsbD_not, BitVec.getLsbD_one, BitVec.getLsbD_shiftLeft,
      BitVec.getLsbD_ushiftRight]
    cases i with
    | zero => simp
    | succ i => simp [hi, Nat.add_comm 1 i]
  have hlt := a.isLt
  rw [hshift, BitVec.toNat_shiftLeft, BitVec.toNat_ushiftRight, Nat.shiftLeft_eq,
    Nat.shiftRight_eq_div_pow, pow_one, Nat.mod_eq_of_lt (by omega)]

end Word

/-- A search whose test never stops is a search. -/
theorem List.findM?_eq_find? {α : Type} {test : α → Option Bool} {found : α → Bool} {values : List α}
    (h : ∀ value ∈ values, test value = some (found value)) :
    values.findM? test = some (values.find? found) := by
  induction values with
  | nil => rfl
  | cons value values ih =>
    obtain ⟨hvalue, hvalues⟩ := List.forall_mem_cons.mp h
    rw [List.findM?, hvalue, List.find?_cons, Option.bind_eq_bind, Option.bind_some]
    cases found value with
    | false => exact ih hvalues
    | true => rfl

namespace ClockDivisor

/-- The least power of two that will do, worked out in words. -/
def powerOfTwoInWords (base target : Word) : Option (Option Word) := do
  let shift ← (List.range' 1 8).findM? fun shift => do
    return decide ((← base.checkedShiftRight shift) ≤ target)
  match shift with
  | some shift => return some (← Word.checkedShiftLeft 1 shift)
  | none => return none

/-- The least even number that will do, worked out in words. -/
def evenInWords (base target : Word) : Option Word := do
  let quotient ← base.checkedDiv target
  let below := quotient &&& ~~~1#32
  let reached ← target.checkedMul below
  if reached < base then
    below.checkedAdd 2
  else
    return below

/-- The divisor, worked out in words. There is none if a step would stop the driver. -/
def findInWords (base target : Word) (spec : Byte) : Option (Except Error Word) :=
  if target = 0 then
    return .error .notSupported
  else if base ≤ target then
    return .ok 1
  else if spec < specVersion3 then do
    match ← powerOfTwoInWords base target with
    | some divisor => return .ok divisor
    | none => return .error .notSupported
  else do
    let divisor ← evenInWords base target
    if BitVec.ofNat 32 largest < divisor then
      return .error .notSupported
    return .ok divisor

variable {base target : Word} {spec : Byte}

/-- No shift is too far, and the power of two is the one that is found in numbers. -/
theorem exists_powerOfTwoInWords (base target : Word) :
    ∃ found, powerOfTwoInWords base target = some found ∧
      found.map BitVec.toNat = powerOfTwo? base.toNat target.toNat := by
  have hsafe : ∀ shift ∈ List.range' 1 8, shift < 32 := by decide
  have hshifts : ∀ shift ∈ List.range' 1 8,
      (do return decide ((← base.checkedShiftRight shift) ≤ target) : Option Bool) =
        some (decide (base.toNat >>> shift ≤ target.toNat)) := by
    intro shift hshift
    rw [Word.checkedShiftRight, if_pos (hsafe shift hshift), ← BitVec.toNat_ushiftRight]
    rfl
  rw [powerOfTwoInWords, List.findM?_eq_find? hshifts, powerOfTwo?]
  cases hfind : (List.range' 1 8).find? fun shift => base.toNat >>> shift ≤ target.toNat with
  | none => exact ⟨none, rfl, rfl⟩
  | some shift =>
    have hlt : shift < 32 := hsafe shift (List.mem_of_find?_eq_some hfind)
    have hpow : 2 ^ shift < 2 ^ 32 := Nat.pow_lt_pow_right (by decide) hlt
    refine ⟨some ((1 : Word) <<< shift), ?_, ?_⟩
    · show (do return some (← Word.checkedShiftLeft 1 shift) : Option (Option Word)) = _
      rw [Word.checkedShiftLeft, if_pos hlt]
      rfl
    · rw [Option.map_some, Option.map_some, BitVec.toNat_shiftLeft, Nat.shiftLeft_eq,
        Nat.shiftLeft_eq]
      exact congrArg some (Nat.mod_eq_of_lt (by simpa using hpow))

/-- The quotient and the product are safe. Only the sum may have no room, and then the even number is not
found in numbers either. -/
theorem evenInWords_eq (htarget : target ≠ 0) :
    even base.toNat target.toNat =
      match evenInWords base target with
      | some divisor => .ok divisor.toNat
      | none => .error .overflow := by
  obtain ⟨below, hdef⟩ : ∃ below, below = (base / target) &&& ~~~1#32 := ⟨_, rfl⟩
  have hbelow : below.toNat = base.toNat / target.toNat / 2 * 2 := by
    rw [hdef, Word.toNat_and_not_one, BitVec.toNat_udiv]
  -- the product is the base clock at most, which has room in a word
  have hproduct : target.toNat * below.toNat < 0x100000000 := by
    rw [hbelow]
    calc target.toNat * (base.toNat / target.toNat / 2 * 2)
        ≤ target.toNat * (base.toNat / target.toNat) :=
          Nat.mul_le_mul_left _ (Nat.div_mul_le_self _ 2)
      _ ≤ base.toNat := Nat.mul_div_le _ _
      _ < 0x100000000 := base.isLt
  have hreached : (target * below).toNat = target.toNat * below.toNat := by
    rw [BitVec.toNat_mul, Nat.mod_eq_of_lt hproduct]
  rw [evenInWords, Word.checkedDiv_of_ne htarget, even]
  simp only [Option.bind_eq_bind, Option.bind_some, ← hdef, Word.checkedMul_of_lt hproduct,
    BitVec.lt_def, hreached, ← hbelow]
  by_cases hle : base.toNat ≤ target.toNat * below.toNat
  · rw [if_pos hle, if_neg (not_lt.mpr hle)]
    rfl
  · have htwo : (2 : Word).toNat = 2 := rfl
    rw [if_neg hle, if_pos (not_le.mp hle), Word.checkedAdd, htwo]
    split
    next hlt =>
      have hsum : (below + 2).toNat = below.toNat + 2 := by
        rw [BitVec.toNat_add, htwo, Nat.mod_eq_of_lt hlt]
      exact congrArg Except.ok hsum.symm
    next => rfl

/-- Carried out in words, the search comes to what it comes to in numbers, and where a step would stop it
is the sum that has no room. -/
theorem run_find_eq_findInWords (base target : Word) (spec : Byte) :
    (find base target spec).run =
      match findInWords base target spec with
      | some result => .ok (result.map BitVec.toNat)
      | none => .error .overflow := by
  by_cases htarget : target = 0
  · rw [find, findInWords, if_pos htarget, if_pos htarget]
    rfl
  by_cases hle : base ≤ target
  · rw [run_find_of_le htarget hle, findInWords, if_neg htarget, if_pos hle]
    rfl
  have hlt : target < base := BitVec.not_le.mp hle
  by_cases hspec : spec < specVersion3
  · obtain ⟨found, hwords, hnumbers⟩ := exists_powerOfTwoInWords base target
    rw [run_find_before_version3 htarget hlt hspec, findInWords, if_neg htarget, if_neg hle,
      if_pos hspec, hwords, ← hnumbers]
    cases found <;> rfl
  · rw [run_find_of_version3 htarget hlt (BitVec.not_lt.mp hspec), findInWords, if_neg htarget,
      if_neg hle, if_neg hspec, evenInWords_eq htarget]
    cases evenInWords base target with
    | none => rfl
    | some divisor =>
      have hlarge : BitVec.ofNat 32 largest < divisor ↔ largest < divisor.toNat := Iff.rfl
      simp only [Except.map, Option.bind_eq_bind, Option.bind_some, hlarge]
      split <;> rfl

/-! ## What the search comes to -/

theorem powersOfTwo_subset_version3 : powersOfTwo ⊆ version3 := by
  rintro _ ⟨shift, hshift, rfl⟩
  cases shift with
  | zero => exact .inl rfl
  | succ shift =>
    have hlarge : 2 ^ (shift + 1) ≤ 2 ^ 8 := Nat.pow_le_pow_right (by decide) hshift
    exact .inr ⟨⟨2 ^ shift, by rw [pow_succ, Nat.mul_two]⟩, Nat.two_pow_pos _,
      hlarge.trans (by decide)⟩

theorem IsBest.mem_or_notSupported {divisors : Set Nat} {Enough : Nat → Prop}
    {result : Except Error Nat} (h : IsBest divisors Enough result) :
    (∃ divisor ∈ divisors, result = .ok divisor) ∨ result = .error .notSupported := by
  cases result with
  | ok divisor => exact .inl ⟨divisor, h.1.1, rfl⟩
  | error cause => exact .inr (congrArg Except.error h.1)

/-- The ways in which the search can go, with what it comes to. -/
inductive Search (base target : Word) (spec : Byte) : Except Fault (Except Error Nat) → Prop
  /-- Nothing is as slow as that. -/
  | refused (htarget : target = 0) : Search base target spec (.ok (.error .notSupported))
  /-- The base clock is not divided. -/
  | undivided (hle : base ≤ target) : Search base target spec (.ok (.ok 1))
  /-- A host before version 3 takes the best power of two. -/
  | powerOfTwo {result : Except Error Nat} (hspec : spec < specVersion3)
      (hbest : IsBest powersOfTwo (base.toNat / · ≤ target.toNat) result) :
      Search base target spec (.ok result)
  /-- A host of version 3 takes the best of its divisors. -/
  | even {result : Except Error Nat} (hother : ¬ (base = 0xFFFFFFFF ∧ target = 1))
      (hbest : IsBest version3 (base.toNat ≤ target.toNat * ·) result) :
      Search base target spec (.ok result)
  /-- The even number that would do has no room. -/
  | stopped (hlargest : base = 0xFFFFFFFF ∧ target = 1) (hspec : specVersion3 ≤ spec) :
      Search base target spec (.error .overflow)

theorem search_find (base target : Word) (spec : Byte) :
    Search base target spec (find base target spec).run := by
  by_cases htarget : target = 0
  · rw [find, if_pos htarget]
    exact .refused htarget
  by_cases hle : base ≤ target
  · rw [run_find_of_le htarget hle]
    exact .undivided hle
  have hlt : target < base := BitVec.not_le.mp hle
  by_cases hspec : spec < specVersion3
  · rw [run_find_before_version3 htarget hlt hspec]
    exact .powerOfTwo hspec (isBest_powerOfTwo? hlt)
  · have hspec : specVersion3 ≤ spec := BitVec.not_lt.mp hspec
    obtain ⟨divisor, hleast, hrun⟩ := exists_run_find_of_version3 htarget hlt hspec
    rw [hrun]
    split
    next hlargest => exact .stopped hlargest hspec
    next hother => exact .even hother (isBest_version3 hlt hleast)

/-- What is found can be programmed, and what is not found is refused. -/
theorem mem_version3_or_notSupported {result : Except Error Nat}
    (h : (find base target spec).run = .ok result) :
    (∃ divisor ∈ version3, result = .ok divisor) ∨ result = .error .notSupported := by
  have hsearch := search_find base target spec
  rw [h] at hsearch
  cases hsearch with
  | refused => exact .inr rfl
  | undivided => exact .inl ⟨1, .inl rfl, rfl⟩
  | powerOfTwo _ hbest =>
    refine hbest.mem_or_notSupported.imp_left ?_
    rintro ⟨divisor, hdivisor, hresult⟩
    exact ⟨divisor, powersOfTwo_subset_version3 hdivisor, hresult⟩
  | even _ hbest => exact hbest.mem_or_notSupported

/-- There is one base clock and one target for which the search stops, on hosts of version 3. -/
theorem exists_run_find_iff (base target : Word) (spec : Byte) :
    (∃ result, (find base target spec).run = .ok result) ↔
      ¬ (base = 0xFFFFFFFF ∧ target = 1 ∧ specVersion3 ≤ spec) := by
  have hsearch := search_find base target spec
  generalize (find base target spec).run = outcome at hsearch ⊢
  cases hsearch with
  | refused htarget =>
    subst htarget
    exact iff_of_true ⟨_, rfl⟩ (by simp)
  | undivided hle =>
    refine iff_of_true ⟨_, rfl⟩ ?_
    rintro ⟨rfl, rfl, -⟩
    exact absurd hle (by decide)
  | powerOfTwo hspec => exact iff_of_true ⟨_, rfl⟩ fun h => BitVec.not_lt.mpr h.2.2 hspec
  | even hother => exact iff_of_true ⟨_, rfl⟩ fun h => hother ⟨h.1, h.2.1⟩
  | stopped hlargest hspec =>
    exact iff_of_false (by rintro ⟨_, ⟨⟩⟩) (not_not.mpr ⟨hlargest.1, hlargest.2, hspec⟩)

/-- **When a divisor is worked out.** Take any base clock, any target and any version of the host. The
search comes to a result exactly if it is not the largest of all base clocks that is to be brought down
to one kilohertz on a host of version 3. A result is a divisor that can be programmed, or else the target
is refused as not supported.

Every step is safe when the search is carried out in machine words, with the exception of the sum that
has no room for that base clock and that target. -/
theorem find_returns_iff (base target : Word) (spec : Byte) :
    ((∃ result, (find base target spec).run = .ok result) ↔
      ¬ (base = 0xFFFFFFFF ∧ target = 1 ∧ specVersion3 ≤ spec)) ∧
    (∀ result, (find base target spec).run = .ok result →
      (∃ divisor ∈ version3, result = .ok divisor) ∨ result = .error .notSupported) ∧
    (find base target spec).run =
      match findInWords base target spec with
      | some result => .ok (result.map BitVec.toNat)
      | none => .error .overflow :=
  ⟨exists_run_find_iff base target spec, fun _ => mem_version3_or_notSupported,
    run_find_eq_findInWords base target spec⟩

/-- The largest base clock cannot be brought down to one kilohertz, and the search stops before it can
say so. -/
theorem find_stops_at_largest :
    (find 0xFFFFFFFF 1 specVersion3).run = .error .overflow ∧
      ¬ ∃ result, (find 0xFFFFFFFF 1 specVersion3).run = .ok result := by
  have hrun : (find 0xFFFFFFFF 1 specVersion3).run = .error .overflow := rfl
  refine ⟨hrun, ?_⟩
  rintro ⟨result, h⟩
  rw [hrun] at h
  cases h

end ClockDivisor

end SdHost
