import P4475.Lib.HalfEven
import P4475.Lib.Limbs

/-!
# 256-bit numbers

The `U256` of `p4475-core/src/dotnet_decimal.rs`: four 64-bit words. Each operation has one
lemma about the numbers that the words stand for, which its callers use.
-/

namespace P4475

open Lib

/-- What a debug build of the source stops at. -/
inductive Panic
  | indexOrOverflow
  | debugAssertion
  | expectation (message : String)
  | slice
  deriving DecidableEq

/-- `Option::expect`. -/
def expect {α : Type} (message : String) : Option α → Except Panic α
  | some a => .ok a
  | none => .error (.expectation message)

/-- `debug_assert!`. -/
def debugAssert (condition : Bool) : Except Panic Unit :=
  if condition then .ok () else .error .debugAssertion

/-- The words of a `U256`, the lowest first. -/
def U256 : Type := {limbs : List (BitVec 64) // limbs.length = 4}

namespace U256

/-- The number that the words stand for. -/
def toNat (self : U256) : ℕ := Limbs.value self.1

/-- `self.0[index]`, for an index below four. -/
def limb (self : U256) (index : ℕ) : BitVec 64 := self.1.getD index 0

theorem toNat_lt (self : U256) : self.toNat < 2 ^ 256 := by
  have h := Limbs.value_lt self.1
  rw [self.2] at h
  exact h

/-- The derived equality of the words is that of the numbers. -/
theorem toNat_inj {a b : U256} (h : a.toNat = b.toNat) : a = b :=
  Subtype.ext (Limbs.value_inj (a.2.trans b.2.symm) h)

theorem length_add (self other : U256) : (Limbs.add false self.1 other.1).1.length = 4 :=
  (Limbs.value_add (by omega) false (self.2.trans other.2.symm)).1.trans self.2

theorem length_sub (self other : U256) : (Limbs.sub false self.1 other.1).1.length = 4 :=
  (Limbs.value_sub (by omega) false (self.2.trans other.2.symm)).1.trans self.2

theorem length_mulWord (self : U256) (multiplier : BitVec 64) :
    (Limbs.mulWord multiplier 0 self.1).1.length = 4 :=
  (Limbs.value_mulWord multiplier 0 self.1).1.trans self.2

theorem length_divWord (divisor : ℕ) (limbs : List (BitVec 64)) :
    (Limbs.divWord divisor limbs).1.length = limbs.length := by
  induction limbs with
  | nil => rfl
  | cons x rest ih => exact congrArg Nat.succ ih

/-! ## Operations -/

/-- `from_u128`. -/
def fromU128 (value : ℕ) : U256 :=
  ⟨[BitVec.ofNat 64 value, BitVec.ofNat 64 (value >>> 64), 0, 0], rfl⟩

/-- `multiply_u128`. -/
def multiplyU128 (left right : ℕ) : Except Panic U256 :=
  match h : Limbs.multiplyInto [BitVec.ofNat 64 left, BitVec.ofNat 64 (left >>> 64)]
      [BitVec.ofNat 64 right, BitVec.ofNat 64 (right >>> 64)]
      (List.replicate 4 (0 : BitVec 64)) with
  | some product => .ok ⟨product, Limbs.length_multiplyInto h⟩
  | none => .error .indexOrOverflow

/-- `checked_add`. -/
def checkedAdd (self other : U256) : Option U256 :=
  if (Limbs.add false self.1 other.1).2 then none
  else some ⟨(Limbs.add false self.1 other.1).1, length_add self other⟩

/-- `magnitude_cmp`. -/
def magnitudeCmp (self other : U256) : Ordering := Limbs.magnitudeCmp self.1 other.1

/-- `checked_sub`. -/
def checkedSub (self other : U256) : Except Panic (Option U256) :=
  if self.magnitudeCmp other = .lt then .ok none
  else do
    debugAssert (!(Limbs.sub false self.1 other.1).2)
    return some ⟨(Limbs.sub false self.1 other.1).1, length_sub self other⟩

/-- `checked_mul_u64`. -/
def checkedMulU64 (self : U256) (multiplier : BitVec 64) : Option U256 :=
  if (Limbs.mulWord multiplier 0 self.1).2 = 0 then
    some ⟨(Limbs.mulWord multiplier 0 self.1).1, length_mulWord self multiplier⟩
  else none

/-- The loop that multiplies by one number again and again. -/
def checkedMulTimes (multiplier : BitVec 64) : (times : ℕ) → (self : U256) → Option U256
  | 0, self => some self
  | times + 1, self => (self.checkedMulU64 multiplier).bind (checkedMulTimes multiplier times)

/-- `checked_mul_power_of_ten`. -/
def checkedMulPowerOfTen (self : U256) (power : ℕ) : Option U256 := checkedMulTimes 10 power self

/-- `checked_shift_left`. -/
def checkedShiftLeft (self : U256) (shift : ℕ) : Option U256 := checkedMulTimes 2 shift self

/-- `div_rem_u64`. -/
def divRemU64 (self : U256) (divisor : ℕ) : U256 × ℕ :=
  (⟨(Limbs.divWord divisor self.1).1, (length_divWord divisor self.1).trans self.2⟩,
    (Limbs.divWord divisor self.1).2)

/-- What the loop of `round_div_power_of_ten` holds. -/
structure Reduction where
  quotient : U256
  sticky : Bool
  roundDigit : ℕ

/-- One turn of the loop: the last digit decides the rounding, the others are only recorded. -/
def Reduction.step (power : ℕ) (reduction : Reduction) (digit : ℕ) : Reduction :=
  let next := reduction.quotient.divRemU64 10
  if digit + 1 = power then ⟨next.1, reduction.sticky, next.2⟩
  else ⟨next.1, reduction.sticky || next.2 ≠ 0, reduction.roundDigit⟩

/-- `round_div_power_of_ten`. -/
def roundDivPowerOfTen (self : U256) (power : ℕ) : Option U256 :=
  if power = 0 then some self
  else
    let reduction := (List.range power).foldl (Reduction.step power) ⟨self, false, 0⟩
    if 5 < reduction.roundDigit ∨ (reduction.roundDigit = 5 ∧
        (reduction.sticky = true ∨ reduction.quotient.limb 0 &&& 1 ≠ 0)) then
      reduction.quotient.checkedAdd (fromU128 1)
    else some reduction.quotient

/-- `bit_length`. -/
def bitLength (self : U256) : ℕ := Limbs.bitLength self.1

/-- `fits_decimal_mantissa`. -/
def fitsDecimalMantissa (self : U256) : Bool :=
  self.limb 2 == 0 && self.limb 3 == 0 && decide ((self.limb 1).toNat < 2 ^ 32)

/-- `to_u128`. -/
def toU128 (self : U256) : ℕ := (self.limb 0).toNat ||| ((self.limb 1).toNat <<< 64)

/-! ## What the operations compute -/

theorem toNat_words {value : ℕ} (h : value < 2 ^ 128) :
    Limbs.value [BitVec.ofNat 64 value, BitVec.ofNat 64 (value >>> 64)] = value := by
  have hlow := Limbs.ofNat_add_shift (w := 64) value
  have hshift : value >>> 64 < 2 ^ 64 := Limbs.carry_lt h
  have hhigh := Limbs.ofNat_add_shift (w := 64) (value >>> 64)
  have hzero : value >>> 64 >>> 64 = 0 := by
    rw [Nat.shiftRight_eq_div_pow (value >>> 64)]
    exact Nat.div_eq_of_lt hshift
  rw [hzero] at hhigh
  show (BitVec.ofNat 64 value).toNat +
    2 ^ 64 * ((BitVec.ofNat 64 (value >>> 64)).toNat + 2 ^ 64 * 0) = value
  omega

theorem toNat_fromU128 {value : ℕ} (h : value < 2 ^ 128) : (fromU128 value).toNat = value := by
  have hwords := toNat_words h
  show (BitVec.ofNat 64 value).toNat + 2 ^ 64 * ((BitVec.ofNat 64 (value >>> 64)).toNat +
    2 ^ 64 * (0 + 2 ^ 64 * (0 + 2 ^ 64 * 0))) = value
  exact hwords

/-- A product never leaves the four words. -/
theorem multiplyU128_eq {left right : ℕ} (hleft : left < 2 ^ 128) (hright : right < 2 ^ 128) :
    ∃ product, multiplyU128 left right = .ok product ∧ product.toNat = left * right := by
  have hfits : left * right < 2 ^ 256 := by
    calc left * right < 2 ^ 128 * 2 ^ 128 := Nat.mul_lt_mul'' hleft hright
      _ = 2 ^ 256 := by norm_num
  have hzero := Limbs.value_replicate_zero (w := 64) 4
  obtain ⟨out, hout, hlength, hvalue⟩ := @Limbs.multiplyInto_eq 64
    [BitVec.ofNat 64 left, BitVec.ofNat 64 (left >>> 64)]
    [BitVec.ofNat 64 right, BitVec.ofNat 64 (right >>> 64)] (List.replicate 4 0) le_rfl
    (by rw [hzero, toNat_words hleft, toNat_words hright, Nat.zero_add]; exact hfits)
  rw [hzero, toNat_words hleft, toNat_words hright, Nat.zero_add] at hvalue
  refine ⟨⟨out, hlength⟩, ?_, hvalue⟩
  unfold multiplyU128
  split
  next product h =>
    rw [hout, Option.some_inj] at h
    exact congrArg Except.ok (Subtype.ext h.symm)
  next h =>
    rw [hout] at h
    cases h

theorem checkedAdd_eq {a b : U256} (h : a.toNat + b.toNat < 2 ^ 256) :
    ∃ sum, a.checkedAdd b = some sum ∧ sum.toNat = a.toNat + b.toNat := by
  have hvalue := (Limbs.value_add (by omega) false (a.2.trans b.2.symm)).2
  rw [a.2] at hvalue
  unfold checkedAdd
  have hbound := h
  unfold toNat at hbound ⊢
  cases hcarry : (Limbs.add false a.1 b.1).2 with
  | true =>
    rw [hcarry, Bool.toNat_true, Bool.toNat_false] at hvalue
    omega
  | false =>
    rw [hcarry, Bool.toNat_false] at hvalue
    exact ⟨_, if_neg Bool.false_ne_true, hvalue⟩

theorem magnitudeCmp_eq (a b : U256) : a.magnitudeCmp b = compare a.toNat b.toNat :=
  Limbs.magnitudeCmp_eq (a.2.trans b.2.symm)

theorem magnitudeCmp_gt (a b : U256) : a.magnitudeCmp b = .gt ↔ b.toNat < a.toNat := by
  rw [magnitudeCmp_eq]
  exact Nat.compare_eq_gt

theorem magnitudeCmp_lt (a b : U256) : a.magnitudeCmp b = .lt ↔ a.toNat < b.toNat := by
  rw [magnitudeCmp_eq]
  exact Nat.compare_eq_lt

theorem checkedSub_eq {a b : U256} (h : b.toNat ≤ a.toNat) :
    ∃ difference, a.checkedSub b = .ok (some difference) ∧
      difference.toNat = a.toNat - b.toNat := by
  have hvalue := (Limbs.value_sub (by omega) false (a.2.trans b.2.symm)).2
  have hlt : Limbs.value (Limbs.sub false a.1 b.1).1 < 2 ^ 256 :=
    toNat_lt ⟨(Limbs.sub false a.1 b.1).1, length_sub a b⟩
  rw [a.2] at hvalue
  have hle : a.magnitudeCmp b ≠ .lt := by
    rw [Ne, magnitudeCmp_lt]
    omega
  unfold checkedSub
  rw [if_neg hle]
  unfold toNat at h ⊢
  cases hborrow : (Limbs.sub false a.1 b.1).2 with
  | true =>
    rw [hborrow, Bool.toNat_true, Bool.toNat_false] at hvalue
    -- a borrow would make the difference as large as all four words
    exact absurd hlt (by omega)
  | false =>
    rw [hborrow, Bool.toNat_false] at hvalue
    refine ⟨_, rfl, ?_⟩
    show Limbs.value (Limbs.sub false a.1 b.1).1 = _
    omega

theorem checkedMulU64_eq {a : U256} {multiplier : BitVec 64}
    (h : a.toNat * multiplier.toNat < 2 ^ 256) :
    ∃ product, a.checkedMulU64 multiplier = some product ∧
      product.toNat = a.toNat * multiplier.toNat := by
  have hvalue := (Limbs.value_mulWord multiplier 0 a.1).2
  rw [a.2, Nat.add_zero] at hvalue
  have hbound : Limbs.value a.1 * multiplier.toNat < 2 ^ (64 * 4) := h
  have hcarry : (Limbs.mulWord multiplier 0 a.1).2 = 0 := by
    by_contra hne
    have hone : 2 ^ (64 * 4) * 1 ≤ 2 ^ (64 * 4) * (Limbs.mulWord multiplier 0 a.1).2 :=
      Nat.mul_le_mul_left _ (Nat.pos_of_ne_zero hne)
    omega
  rw [hcarry] at hvalue
  exact ⟨_, if_pos hcarry, hvalue⟩

theorem checkedMulTimes_eq {multiplier : BitVec 64} (hpos : 0 < multiplier.toNat) {times : ℕ}
    {a : U256} (h : a.toNat * multiplier.toNat ^ times < 2 ^ 256) :
    ∃ product, checkedMulTimes multiplier times a = some product ∧
      product.toNat = a.toNat * multiplier.toNat ^ times := by
  induction times generalizing a with
  | zero => exact ⟨a, rfl, by rw [Nat.pow_zero, Nat.mul_one]⟩
  | succ times ih =>
    rw [Nat.pow_succ', ← Nat.mul_assoc] at h ⊢
    have hfirst : a.toNat * multiplier.toNat < 2 ^ 256 :=
      lt_of_le_of_lt (Nat.le_mul_of_pos_right _ (Nat.pow_pos hpos)) h
    obtain ⟨next, hnext, hvalue⟩ := checkedMulU64_eq hfirst
    rw [← hvalue] at h ⊢
    obtain ⟨product, hproduct, hresult⟩ := ih h
    refine ⟨product, ?_, hresult⟩
    unfold checkedMulTimes
    rw [hnext]
    exact hproduct

theorem checkedMulPowerOfTen_eq {a : U256} {power : ℕ} (h : a.toNat * 10 ^ power < 2 ^ 256) :
    ∃ product, a.checkedMulPowerOfTen power = some product ∧
      product.toNat = a.toNat * 10 ^ power :=
  @checkedMulTimes_eq 10 (Nat.zero_lt_succ 9) power a h

theorem checkedShiftLeft_eq {a : U256} {shift : ℕ} (h : a.toNat * 2 ^ shift < 2 ^ 256) :
    ∃ product, a.checkedShiftLeft shift = some product ∧
      product.toNat = a.toNat * 2 ^ shift :=
  @checkedMulTimes_eq 2 (Nat.zero_lt_succ 1) shift a h

theorem toNat_divRemU64 (a : U256) {divisor : ℕ} (h : 0 < divisor) :
    (a.divRemU64 divisor).1.toNat = a.toNat / divisor ∧
      (a.divRemU64 divisor).2 = a.toNat % divisor :=
  (Limbs.value_divWord h a.1).2

theorem bitLength_eq (a : U256) : a.bitLength = a.toNat.size := Limbs.bitLength_eq a.1

/-- The words of a number one by one. -/
theorem toNat_limbs (a : U256) : a.toNat = (a.limb 0).toNat + 2 ^ 64 * ((a.limb 1).toNat +
    2 ^ 64 * ((a.limb 2).toNat + 2 ^ 64 * (a.limb 3).toNat)) := by
  obtain ⟨limbs, hlength⟩ := a
  match limbs, hlength with
  | [a, b, c, d], _ => rfl

theorem fitsDecimalMantissa_iff (a : U256) :
    a.fitsDecimalMantissa = true ↔ a.toNat < 2 ^ 96 := by
  have hwords := toNat_limbs a
  have hlow := (a.limb 0).isLt
  have hzero : ∀ limb : BitVec 64, limb = 0 ↔ limb.toNat = 0 := fun limb =>
    ⟨fun h => by rw [h]; rfl, fun h => BitVec.eq_of_toNat_eq h⟩
  unfold fitsDecimalMantissa
  rw [Bool.and_eq_true, Bool.and_eq_true, beq_iff_eq, beq_iff_eq, decide_eq_true_iff, hzero,
    hzero]
  omega

theorem toU128_eq {a : U256} (h : a.toNat < 2 ^ 128) : a.toU128 = a.toNat := by
  have hwords := toNat_limbs a
  have hlow := (a.limb 0).isLt
  unfold toU128
  rw [Nat.or_comm, ← Nat.shiftLeft_add_eq_or_of_lt hlow, Nat.shiftLeft_eq]
  omega

theorem toU128_lt {a : U256} (h : a.fitsDecimalMantissa = true) : a.toU128 < 2 ^ 96 := by
  have hfits := (fitsDecimalMantissa_iff a).mp h
  rw [toU128_eq (by omega)]
  exact hfits

/-! ## Division by a power of ten -/

theorem toNat_step_quotient (power : ℕ) (reduction : Reduction) (digit : ℕ) :
    (reduction.step power digit).quotient.toNat = reduction.quotient.toNat / 10 := by
  have hdiv := (toNat_divRemU64 reduction.quotient (by omega : 0 < 10)).1
  unfold Reduction.step
  dsimp only
  by_cases hlast : digit + 1 = power
  · rw [if_pos hlast]
    exact hdiv
  · rw [if_neg hlast]
    exact hdiv

theorem step_sticky {power digit : ℕ} (h : digit + 1 ≠ power) (reduction : Reduction) :
    (reduction.step power digit).sticky = true ↔
      reduction.sticky = true ∨ reduction.quotient.toNat % 10 ≠ 0 := by
  have hrem := (toNat_divRemU64 reduction.quotient (by omega : 0 < 10)).2
  unfold Reduction.step
  dsimp only
  rw [if_neg h]
  dsimp only
  rw [hrem, Bool.or_eq_true, decide_eq_true_iff]

/-- Before the last turn: the quotient so far, and whether a dropped digit was not zero. -/
theorem foldl_reduction (a : U256) {power n : ℕ} (h : n < power) :
    ((List.range n).foldl (Reduction.step power) ⟨a, false, 0⟩).quotient.toNat =
        a.toNat / 10 ^ n ∧
      (((List.range n).foldl (Reduction.step power) ⟨a, false, 0⟩).sticky = true ↔
        a.toNat % 10 ^ n ≠ 0) := by
  induction n with
  | zero => exact ⟨(Nat.div_one _).symm, by simp [Nat.mod_one]⟩
  | succ n ih =>
    obtain ⟨hquotient, hsticky⟩ := ih (by omega)
    rw [List.range_succ, List.foldl_append, List.foldl_cons, List.foldl_nil,
      toNat_step_quotient, step_sticky (by omega), hquotient, hsticky, Nat.div_div_eq_div_mul,
      ← pow_succ, Nat.mod_pow_succ]
    refine ⟨rfl, ?_⟩
    have hpow := Nat.pow_pos (n := n) (by omega : 0 < 10)
    constructor
    · intro hor hzero
      rcases hor with hlow | hdigit
      · omega
      · have hpos : 0 < 10 ^ n * (a.toNat / 10 ^ n % 10) := Nat.mul_pos hpow (by omega)
        omega
    · intro hne
      by_contra hnone
      push Not at hnone
      rw [hnone.1, hnone.2] at hne
      exact hne rfl

/-- Division by a power of ten rounds the number itself, once, half to even. -/
theorem roundDivPowerOfTen_eq (a : U256) (power : ℕ) :
    ∃ rounded, a.roundDivPowerOfTen power = some rounded ∧
      rounded.toNat = roundDiv a.toNat (10 ^ power) := by
  cases power with
  | zero =>
    refine ⟨a, rfl, ?_⟩
    rw [Nat.pow_zero, roundDiv_one]
  | succ n =>
    obtain ⟨hquotient, hsticky⟩ := foldl_reduction a (Nat.lt_succ_self n)
    obtain ⟨hdiv, hrem⟩ := toNat_divRemU64
      ((List.range n).foldl (Reduction.step (n + 1)) ⟨a, false, 0⟩).quotient (by omega : 0 < 10)
    rw [hquotient, Nat.div_div_eq_div_mul, ← pow_succ] at hdiv
    rw [hquotient] at hrem
    -- the number is its quotient, the digit behind it, and what the earlier turns dropped
    have hsplit : a.toNat = (a.toNat / 10 ^ (n + 1) * (2 * 5) + a.toNat / 10 ^ n % 10) * 10 ^ n +
        a.toNat % 10 ^ n := by
      have hdigits := Nat.div_add_mod (a.toNat / 10 ^ n) 10
      rw [Nat.div_div_eq_div_mul, ← pow_succ] at hdigits
      have hall := Nat.div_add_mod a.toNat (10 ^ n)
      calc a.toNat = 10 ^ n * (a.toNat / 10 ^ n) + a.toNat % 10 ^ n := hall.symm
        _ = 10 ^ n * (10 * (a.toNat / 10 ^ (n + 1)) + a.toNat / 10 ^ n % 10) +
            a.toNat % 10 ^ n := by rw [hdigits]
        _ = (a.toNat / 10 ^ (n + 1) * (2 * 5) + a.toNat / 10 ^ n % 10) * 10 ^ n +
            a.toNat % 10 ^ n := by ring
    have hround : roundDiv a.toNat (10 ^ (n + 1)) =
        if 5 < a.toNat / 10 ^ n % 10 ∨ (a.toNat / 10 ^ n % 10 = 5 ∧
            (a.toNat % 10 ^ n ≠ 0 ∨ a.toNat / 10 ^ (n + 1) % 2 = 1)) then
          a.toNat / 10 ^ (n + 1) + 1 else a.toNat / 10 ^ (n + 1) := by
      have hrule := @roundDiv_digit (a.toNat / 10 ^ (n + 1)) 5 (a.toNat / 10 ^ n % 10)
        (10 ^ n) (a.toNat % 10 ^ n)
        (Nat.mod_lt _ (Nat.zero_lt_succ 9)) (Nat.mod_lt _ (Nat.pow_pos (Nat.zero_lt_succ 9)))
      rw [← hsplit, show 2 * 5 * 10 ^ n = 10 ^ (n + 1) by ring] at hrule
      exact hrule
    unfold roundDivPowerOfTen
    rw [if_neg (Nat.succ_ne_zero n), List.range_succ, List.foldl_append, List.foldl_cons,
      List.foldl_nil]
    generalize (List.range n).foldl (Reduction.step (n + 1)) ⟨a, false, 0⟩ = reduction at *
    have hlast : reduction.step (n + 1) n = ⟨(reduction.quotient.divRemU64 10).1,
        reduction.sticky, (reduction.quotient.divRemU64 10).2⟩ := if_pos rfl
    rw [hlast]
    dsimp only
    have hodd : (reduction.quotient.divRemU64 10).1.limb 0 &&& 1 ≠ 0 ↔
        a.toNat / 10 ^ (n + 1) % 2 = 1 := by
      have hwords := toNat_limbs (reduction.quotient.divRemU64 10).1
      have hbit : ((reduction.quotient.divRemU64 10).1.limb 0 &&& 1).toNat =
          ((reduction.quotient.divRemU64 10).1.limb 0).toNat % 2 := by
        rw [BitVec.toNat_and]
        exact Nat.and_one_is_mod _
      have hzero : (reduction.quotient.divRemU64 10).1.limb 0 &&& 1 = 0 ↔
          ((reduction.quotient.divRemU64 10).1.limb 0 &&& 1).toNat = 0 :=
        ⟨fun h => by rw [h]; rfl, fun h => BitVec.eq_of_toNat_eq h⟩
      rw [Ne, hzero, hbit]
      omega
    have hcondition : (5 < (reduction.quotient.divRemU64 10).2 ∨
          ((reduction.quotient.divRemU64 10).2 = 5 ∧ (reduction.sticky = true ∨
            (reduction.quotient.divRemU64 10).1.limb 0 &&& 1 ≠ 0))) ↔
        (5 < a.toNat / 10 ^ n % 10 ∨ (a.toNat / 10 ^ n % 10 = 5 ∧
          (a.toNat % 10 ^ n ≠ 0 ∨ a.toNat / 10 ^ (n + 1) % 2 = 1))) := by
      rw [hrem, hsticky, hodd]
    rw [hround]
    by_cases hup : 5 < a.toNat / 10 ^ n % 10 ∨ (a.toNat / 10 ^ n % 10 = 5 ∧
        (a.toNat % 10 ^ n ≠ 0 ∨ a.toNat / 10 ^ (n + 1) % 2 = 1))
    · rw [if_pos (hcondition.mpr hup), if_pos hup]
      have hone : (fromU128 1).toNat = 1 := toNat_fromU128 (by norm_num)
      have hsmall : a.toNat / 10 ^ (n + 1) ≤ a.toNat / 10 :=
        Nat.div_le_div_left (Nat.le_self_pow (Nat.succ_ne_zero n) 10) (Nat.zero_lt_succ 9)
      have hlt := a.toNat_lt
      obtain ⟨sum, hsum, hvalue⟩ := checkedAdd_eq (a := (reduction.quotient.divRemU64 10).1)
        (b := fromU128 1) (by rw [hdiv, hone]; omega)
      rw [hdiv, hone] at hvalue
      exact ⟨sum, hsum, hvalue⟩
    · rw [if_neg (fun h => hup (hcondition.mp h)), if_neg hup]
      exact ⟨_, rfl, hdiv⟩

end U256

end P4475
