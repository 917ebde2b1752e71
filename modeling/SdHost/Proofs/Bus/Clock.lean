import Mathlib
import SdHost.Bus.Clock

/-!
# The best divisor

The base clock is divided by the least number that the host can be programmed with and that keeps the
card's clock at the target or below. Hosts that follow version 3 come to exactly that number. On older
hosts only whole kilohertz are compared, and a fraction of one above the target goes unnoticed.

The module introduces:

* `ClockDivisor.version3`, `ClockDivisor.powersOfTwo`: the divisors that hosts can be programmed with;
* `ClockDivisor.IsBest`: the best that can be had from such divisors.

Main statements:

* `ClockDivisor.find_of_version3`: a host that follows version 3 always gets the best divisor;
* `ClockDivisor.find_before_version3`: an older host gets the best divisor as far as whole kilohertz go,
  and when that is the best divisor.
-/

namespace SdHost.ClockDivisor

/-- The divisors that a host can be programmed with if it follows version 3: one, and the even numbers
that there is room for. -/
def version3 : Set Nat :=
  {divisor | divisor = 1 ∨ Even divisor ∧ 0 < divisor ∧ divisor ≤ largest}

/-- The divisors that an older host can be programmed with. -/
def powersOfTwo : Set Nat :=
  {divisor | ∃ shift ≤ 8, divisor = 2 ^ shift}

/-- The least divisor that is large enough, or a refusal where none is. -/
def IsBest (divisors : Set Nat) (Enough : Nat → Prop) : Except Error Nat → Prop
  | .ok divisor => IsLeast {divisor ∈ divisors | Enough divisor} divisor
  | .error cause => cause = .notSupported ∧ ∀ divisor ∈ divisors, ¬ Enough divisor

theorem isBest_one {divisors : Set Nat} {Enough : Nat → Prop} (hone : 1 ∈ divisors)
    (hpos : ∀ divisor ∈ divisors, 0 < divisor) (h : Enough 1) : IsBest divisors Enough (.ok 1) :=
  ⟨⟨hone, h⟩, fun divisor hdivisor => hpos divisor hdivisor.1⟩

section Numbers

variable {base target : Nat}

/-! ## Even divisors -/

/-- The quotient rounded down to an even number is the least that will do, if it will. -/
theorem isLeast_below (h : base ≤ target * (base / target / 2 * 2)) :
    IsLeast {divisor | Even divisor ∧ base ≤ target * divisor} (base / target / 2 * 2) := by
  refine ⟨⟨even_two.mul_left _, h⟩, fun divisor ⟨_, hdivisor⟩ => ?_⟩
  have hquotient : base / target ≤ divisor := Nat.div_le_of_le_mul hdivisor
  omega

/-- If it will not do, the next even number is the least that will. -/
theorem isLeast_above (htarget : 0 < target) (h : target * (base / target / 2 * 2) < base) :
    IsLeast {divisor | Even divisor ∧ base ≤ target * divisor} (base / target / 2 * 2 + 2) := by
  refine ⟨⟨(even_two.mul_left _).add even_two, ?_⟩, fun divisor ⟨heven, hdivisor⟩ => ?_⟩
  · have hquotient : base / target + 1 ≤ base / target / 2 * 2 + 2 := by omega
    calc base ≤ target * (base / target + 1) := (Nat.lt_mul_div_succ base htarget).le
      _ ≤ target * (base / target / 2 * 2 + 2) := Nat.mul_le_mul_left _ hquotient
  · have hlt : base / target / 2 * 2 < divisor := Nat.lt_of_mul_lt_mul_left (h.trans_le hdivisor)
    -- both are even, so there is room for two between them
    obtain ⟨half, rfl⟩ := heven
    omega

/-- The even number that is computed is the least that will do. It is not computed if it does not fit a
word. -/
theorem exists_even (htarget : 0 < target) (hbase : base < 0x100000000) :
    ∃ divisor, IsLeast {divisor | Even divisor ∧ base ≤ target * divisor} divisor ∧
      even base target = if divisor < 0x100000000 then .ok divisor else .error .overflow := by
  by_cases h : base ≤ target * (base / target / 2 * 2)
  · refine ⟨_, isLeast_below h, ?_⟩
    have hquotient : base / target ≤ base := Nat.div_le_self _ _
    rw [even, if_pos h, if_pos (by omega)]
  · exact ⟨_, isLeast_above htarget (not_le.mp h), if_neg h⟩

/-- Only the largest of all quotients leads to an even number that does not fit a word. -/
theorem isLeast_even_overflow_iff {divisor : Nat} (htarget : 0 < target)
    (hbase : base < 0x100000000)
    (h : IsLeast {divisor | Even divisor ∧ base ≤ target * divisor} divisor) :
    0x100000000 ≤ divisor ↔ base = 0xFFFFFFFF ∧ target = 1 := by
  constructor
  · intro hlarge
    -- the even number before would be too small
    have hsmall : target * 0xFFFFFFFE < base := by
      by_contra hle
      have := h.2 ⟨by decide, not_lt.mp hle⟩
      omega
    omega
  · rintro ⟨rfl, rfl⟩
    obtain ⟨⟨half, rfl⟩, hle⟩ := h.1
    omega

/-- Where the base clock is above the target, an even number that is the least of all is the best that a
host of version 3 can have, as long as it can be programmed. -/
theorem isBest_version3 {divisor : Nat} (hlt : target < base)
    (h : IsLeast {divisor | Even divisor ∧ base ≤ target * divisor} divisor) :
    IsBest version3 (base ≤ target * ·)
      (if divisor ≤ largest then .ok divisor else .error .notSupported) := by
  have hone : ¬ base ≤ target * 1 := by omega
  split
  next hle =>
    have hpos : 0 < divisor := by
      rw [Nat.pos_iff_ne_zero]
      rintro rfl
      exact absurd h.1.2 (by omega)
    refine ⟨⟨.inr ⟨h.1.1, hpos, hle⟩, h.1.2⟩, ?_⟩
    rintro other ⟨rfl | ⟨heven, -, -⟩, hother⟩
    · exact absurd hother hone
    · exact h.2 ⟨heven, hother⟩
  next hlarge =>
    refine ⟨rfl, ?_⟩
    rintro other (rfl | ⟨heven, -, hle⟩) hother
    · exact hone hother
    · exact hlarge ((h.2 ⟨heven, hother⟩).trans hle)

/-! ## Powers of two -/

theorem one_mem_powersOfTwo : 1 ∈ powersOfTwo :=
  ⟨0, Nat.zero_le 8, rfl⟩

theorem pos_of_mem_powersOfTwo {divisor : Nat} (h : divisor ∈ powersOfTwo) : 0 < divisor := by
  obtain ⟨shift, -, rfl⟩ := h
  exact Nat.two_pow_pos shift

/-- A base clock above the target has to be divided. -/
theorem shift_pos {shift : Nat} (hlt : target < base) (hle : base / 2 ^ shift ≤ target) :
    0 < shift := by
  rw [Nat.pos_iff_ne_zero]
  rintro rfl
  rw [pow_zero, Nat.div_one] at hle
  exact absurd hle (not_le.mpr hlt)

/-- What is found is the best power of two for a base clock above the target, as far as whole kilohertz
go. -/
theorem isBest_powerOfTwo? (hlt : target < base) :
    IsBest powersOfTwo (base / · ≤ target) (match powerOfTwo? base target with
      | some divisor => .ok divisor
      | none => .error .notSupported) := by
  rw [powerOfTwo?]
  cases hfind : (List.range' 1 8).find? fun shift => base >>> shift ≤ target with
  | none =>
    refine ⟨rfl, ?_⟩
    rintro _ ⟨shift, hshift, rfl⟩ hle
    have hpos : 0 < shift := shift_pos hlt hle
    have hnot := List.find?_eq_none.mp hfind shift (List.mem_range'_1.mpr (by omega))
    rw [Nat.shiftRight_eq_div_pow] at hnot
    exact hnot (decide_eq_true hle)
  | some shift =>
    obtain ⟨hshift, hmem, hfirst⟩ := List.find?_range'_eq_some.mp hfind
    rw [List.mem_range'_1] at hmem
    rw [decide_eq_true_eq, Nat.shiftRight_eq_div_pow] at hshift
    rw [Option.map_some, Nat.one_shiftLeft]
    refine ⟨⟨⟨shift, by omega, rfl⟩, hshift⟩, ?_⟩
    rintro _ ⟨⟨other, -, rfl⟩, hother⟩
    refine Nat.pow_le_pow_right Nat.two_pos (not_lt.mp fun hbefore => ?_)
    -- an earlier shift would have been found
    have hnot := hfirst other (shift_pos hlt hother) hbefore
    rw [Nat.shiftRight_eq_div_pow, decide_eq_true hother] at hnot
    cases hnot

/-- What is best as far as whole kilohertz go is the best, unless the fraction of one makes the
difference for some divisor. -/
theorem isBest_iff_of_isBest_div {divisors : Set Nat} {result : Except Error Nat}
    (h : IsBest divisors (base / · ≤ target) result) :
    IsBest divisors (base ≤ target * ·) result ↔
      ∀ divisor ∈ divisors, base / divisor ≤ target → base ≤ target * divisor := by
  have hdiv : ∀ divisor, base ≤ target * divisor → base / divisor ≤ target := by
    intro divisor hle
    exact Nat.div_le_of_le_mul (by rwa [Nat.mul_comm])
  cases result with
  | error cause =>
    refine iff_of_true ⟨h.1, fun divisor hmem hle => ?_⟩ fun divisor hmem hle => ?_
    · exact h.2 divisor hmem (hdiv divisor hle)
    · exact absurd hle (h.2 divisor hmem)
  | ok best =>
    constructor
    · intro hbest divisor hmem hle
      exact hbest.1.2.trans (Nat.mul_le_mul_left _ (h.2 ⟨hmem, hle⟩))
    · intro hexact
      refine ⟨⟨h.1.1, hexact best h.1.1 h.1.2⟩, fun divisor hdivisor => ?_⟩
      exact h.2 ⟨hdivisor.1, hdiv divisor hdivisor.2⟩

end Numbers

/-! ## What is found -/

section Find

variable {base target : Word} {spec : Byte}

theorem run_find_of_le (htarget : target ≠ 0) (hle : base ≤ target) :
    (find base target spec).run = .ok (.ok 1) := by
  rw [find, if_neg htarget, if_pos hle]
  rfl

theorem run_find_of_version3 (htarget : target ≠ 0) (hlt : target < base)
    (hspec : specVersion3 ≤ spec) :
    (find base target spec).run = (even base.toNat target.toNat).map fun divisor =>
      if largest < divisor then .error .notSupported else .ok divisor := by
  rw [find, if_neg htarget, if_neg (BitVec.not_le.mpr hlt), if_neg (BitVec.not_lt.mpr hspec)]
  cases even base.toNat target.toNat with
  | error cause => rfl
  | ok divisor =>
    show ExceptT.run (if largest < divisor then
      throw Error.notSupported >>= fun _ => pure divisor else pure divisor) = _
    rw [Except.map]
    split <;> rfl

theorem run_find_before_version3 (htarget : target ≠ 0) (hlt : target < base)
    (hspec : spec < specVersion3) :
    (find base target spec).run = .ok (match powerOfTwo? base.toNat target.toNat with
      | some divisor => .ok divisor
      | none => .error .notSupported) := by
  rw [find, if_neg htarget, if_neg (BitVec.not_le.mpr hlt), if_pos hspec]
  cases powerOfTwo? base.toNat target.toNat <;> rfl

/-- What a host of version 3 finds is told by the least even number that will do. For one base clock and
one target that number does not fit a word. -/
theorem exists_run_find_of_version3 (htarget : target ≠ 0) (hlt : target < base)
    (hspec : specVersion3 ≤ spec) :
    ∃ divisor, IsLeast {divisor | Even divisor ∧ base.toNat ≤ target.toNat * divisor} divisor ∧
      (find base target spec).run = if base = 0xFFFFFFFF ∧ target = 1 then .error .overflow
        else .ok (if divisor ≤ largest then .ok divisor else .error .notSupported) := by
  have hpos : 0 < target.toNat :=
    Nat.pos_of_ne_zero fun hzero => htarget (BitVec.eq_of_toNat_eq hzero)
  obtain ⟨divisor, hleast, heven⟩ := exists_even hpos base.isLt
  have hoverflow : base = 0xFFFFFFFF ∧ target = 1 ↔ ¬ divisor < 0x100000000 := by
    rw [not_lt, isLeast_even_overflow_iff hpos base.isLt hleast, ← BitVec.toNat_inj,
      ← BitVec.toNat_inj]
    rfl
  refine ⟨divisor, hleast, ?_⟩
  rw [run_find_of_version3 htarget hlt hspec, heven, if_congr hoverflow rfl rfl, ite_not]
  split
  · simp only [Except.map, ← not_lt, ite_not]
  · rfl

end Find

/-- **The divisor of a host that follows version 3.** Take any base clock, any target but zero, and a
host that follows version 3. The base clock is left undivided exactly if it is not above the target. If
it is, what is found is the least even number that brings it down to the target, and if that cannot be
programmed the target is refused. So it is always the best that the host can do.

There is one base clock and one target for which nothing is found, because the number that would be
tried does not fit a word. -/
theorem find_of_version3 {base target : Word} {spec : Byte} (htarget : target ≠ 0)
    (hspec : specVersion3 ≤ spec) :
    ((find base target spec).run = .ok (.ok 1) ↔ base ≤ target) ∧
      (target < base → ∃ divisor,
        IsLeast {divisor | Even divisor ∧ base.toNat ≤ target.toNat * divisor} divisor ∧
        ∀ result, (find base target spec).run = .ok result →
          result = if divisor ≤ largest then .ok divisor else .error .notSupported) ∧
      (∀ result, (find base target spec).run = .ok result →
        IsBest version3 (base.toNat ≤ target.toNat * ·) result) ∧
      ((∃ result, (find base target spec).run = .ok result) ↔
        ¬ (base = 0xFFFFFFFF ∧ target = 1)) := by
  by_cases hle : base ≤ target
  · have hone : IsBest version3 (base.toNat ≤ target.toNat * ·) (.ok 1) := by
      refine isBest_one (.inl rfl) ?_ (by rwa [Nat.mul_one])
      rintro divisor (rfl | ⟨-, hpos, -⟩)
      · exact Nat.one_pos
      · exact hpos
    rw [run_find_of_le htarget hle]
    refine ⟨iff_of_true rfl hle, fun hlt => absurd hle (BitVec.not_le.mpr hlt), ?_, ?_⟩
    · rintro _ ⟨⟩
      exact hone
    · refine iff_of_true ⟨_, rfl⟩ ?_
      rintro ⟨rfl, rfl⟩
      exact absurd hle (by decide)
  have hlt : target < base := BitVec.not_le.mp hle
  obtain ⟨divisor, hleast, hrun⟩ := exists_run_find_of_version3 htarget hlt hspec
  have hresult : ∀ result, (find base target spec).run = .ok result →
      result = if divisor ≤ largest then .ok divisor else .error .notSupported := by
    intro result h
    rw [hrun] at h
    split at h
    · cases h
    · exact (Except.ok.inj h).symm
  refine ⟨iff_of_false (fun h => ?_) hle, fun _ => ⟨divisor, hleast, hresult⟩, fun result h => ?_, ?_⟩
  · -- an even number is not one
    have hone := hresult _ h
    split at hone
    · cases hone
      exact absurd hleast.1.1 (by decide)
    · cases hone
  · rw [hresult result h]
    exact isBest_version3 hlt hleast
  · rw [hrun]
    split
    next hoverflow => exact iff_of_false (by rintro ⟨_, ⟨⟩⟩) (not_not.mpr hoverflow)
    next hfits => exact iff_of_true ⟨_, rfl⟩ hfits

/-- The quotient is three, and the even number below it is too small. -/
theorem find_of_version3_odd_quotient :
    (30000 : Word) ≠ 0 ∧ specVersion3 ≤ 2 ∧ (find 100000 30000 2).run = .ok (.ok 4) ∧
      IsBest version3 (100000 ≤ 30000 * ·) (.ok 4) := by
  have htarget : (30000 : Word) ≠ 0 := by decide
  have hspec : specVersion3 ≤ 2 := by decide
  have hrun : (find 100000 30000 2).run = .ok (.ok 4) := rfl
  obtain ⟨-, -, hbest, -⟩ := @find_of_version3 100000 _ _ htarget hspec
  exact ⟨htarget, hspec, hrun, hbest _ hrun⟩

/-- **The divisor of an older host.** Take any base clock, any target but zero, and a host that does not
follow version 3. There is always a result. It is the least power of two up to 256 with which the card's
clock, cut to whole kilohertz, is not above the target, and the target is refused exactly if the base
clock divided by 256 is above it even so.

This is the best that the host can do exactly if the fraction of a kilohertz that was cut off makes no
difference for any power of two. If it does, the card is clocked faster than asked. -/
theorem find_before_version3 {base target : Word} {spec : Byte} (htarget : target ≠ 0)
    (hspec : spec < specVersion3) :
    ∃ result, (find base target spec).run = .ok result ∧
      IsBest powersOfTwo (base.toNat / · ≤ target.toNat) result ∧
      (result = .error .notSupported ↔ target.toNat < base.toNat / 256) ∧
      (IsBest powersOfTwo (base.toNat ≤ target.toNat * ·) result ↔
        ∀ divisor ∈ powersOfTwo,
          base.toNat / divisor ≤ target.toNat → base.toNat ≤ target.toNat * divisor) := by
  obtain ⟨result, hrun, hbest⟩ : ∃ result, (find base target spec).run = .ok result ∧
      IsBest powersOfTwo (base.toNat / · ≤ target.toNat) result := by
    by_cases hle : base ≤ target
    · refine ⟨_, run_find_of_le htarget hle, ?_⟩
      exact isBest_one one_mem_powersOfTwo (fun _ => pos_of_mem_powersOfTwo) (by rwa [Nat.div_one])
    · have hlt : target < base := BitVec.not_le.mp hle
      exact ⟨_, run_find_before_version3 htarget hlt hspec, isBest_powerOfTwo? hlt⟩
  refine ⟨result, hrun, hbest, ?_, isBest_iff_of_isBest_div hbest⟩
  have hlast : 256 ∈ powersOfTwo := ⟨8, Nat.le_refl 8, rfl⟩
  cases result with
  | error cause =>
    obtain ⟨rfl, hnone⟩ := hbest
    exact iff_of_true rfl (not_le.mp (hnone 256 hlast))
  | ok divisor =>
    refine iff_of_false (by rintro ⟨⟩) (not_lt.mpr ?_)
    obtain ⟨⟨⟨shift, hshift, rfl⟩, hle⟩, -⟩ := hbest
    have hpow : 2 ^ shift ≤ 256 := Nat.pow_le_pow_right Nat.two_pos hshift
    exact (Nat.div_le_div_left hpow (Nat.two_pow_pos shift)).trans hle

/-- The largest power of two brings the base clock down to 390.625 kHz, which is below the target. -/
theorem find_before_version3_largest :
    (400 : Word) ≠ 0 ∧ (1 : Byte) < specVersion3 ∧ (find 100000 400 1).run = .ok (.ok 256) ∧
      IsBest powersOfTwo (100000 / · ≤ 400) (.ok 256) := by
  have htarget : (400 : Word) ≠ 0 := by decide
  have hspec : (1 : Byte) < specVersion3 := by decide
  have hrun : (find 100000 400 1).run = .ok (.ok 256) := rfl
  obtain ⟨result, hresult, hbest, -⟩ := @find_before_version3 100000 _ _ htarget hspec
  obtain rfl : result = .ok 256 := Except.ok.inj (hresult.symm.trans hrun)
  exact ⟨htarget, hspec, hrun, hbest⟩

/-- Half of that base clock needs to be divided by 256 to get to 390 kHz. It is divided by 128, and the
card is clocked with 390.625 kHz. -/
theorem find_above_target :
    (390 : Word) ≠ 0 ∧ (1 : Byte) < specVersion3 ∧ (find 50000 390 1).run = .ok (.ok 128) ∧
      ¬ 50000 ≤ 390 * 128 ∧ IsBest powersOfTwo (50000 ≤ 390 * ·) (.ok 256) := by
  refine ⟨by decide, by decide, rfl, by decide, ⟨⟨8, Nat.le_refl 8, rfl⟩, by decide⟩, ?_⟩
  rintro _ ⟨⟨shift, hshift, rfl⟩, hle⟩
  have hlarge : 8 ≤ shift := by
    by_contra hsmall
    have hpow : 2 ^ shift ≤ 2 ^ 7 := Nat.pow_le_pow_right Nat.two_pos (by omega)
    have := hle.trans (Nat.mul_le_mul_left _ hpow)
    omega
  exact Nat.pow_le_pow_right Nat.two_pos hlarge

end SdHost.ClockDivisor
