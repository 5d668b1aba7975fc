import P4475.Core.DotNetDecimal
import P4475.Core.Single
import P4475.Lib.Outcome

/-!
# Decimals as single-precision numbers

`to_f32` of `p4475-core/src/dotnet_decimal.rs`. The exponent is estimated from the lengths of the
mantissa and the power of ten, corrected by one comparison, and the quotient is found by
bisection. The source's function is cut at these steps; each has one lemma that says what it
finds, and the last theorem puts them together.
-/

namespace P4475

open Lib

namespace U256

/-- The bisection of `div_rem_u32_quotient`. -/
def bisect (self divisor : U256) (lower upper : ℕ) : Except Panic ℕ :=
  if lower + 1 < upper then do
    let middle := lower + (upper - lower) / 2
    let product ← expect "bounded decimal-to-f32 quotient fits U256"
      (divisor.checkedMulU64 (BitVec.ofNat 64 middle))
    if product.magnitudeCmp self = .gt then bisect self divisor lower middle
    else bisect self divisor middle upper
  else .ok lower
termination_by upper - lower

/-- `div_rem_u32_quotient`. -/
def divRemU32Quotient (self divisor : U256) : Except Panic (ℕ × U256) := do
  let lower ← bisect self divisor 0 (2 ^ 25)
  let product ← expect "bounded decimal-to-f32 quotient fits U256"
    (divisor.checkedMulU64 (BitVec.ofNat 64 lower))
  let remainder ← expect "the quotient product does not exceed the dividend"
    (← self.checkedSub product)
  return (lower, remainder)

end U256

namespace DotNetDecimal

/-- The mantissa and the power of ten in 256 bits. -/
def numerator (self : DotNetDecimal) : U256 := U256.fromU128 self.mantissa

def denominator (self : DotNetDecimal) : U256 := U256.fromU128 (10 ^ self.scale)

/-- The first part of `to_f32`: the exponent of the leading bit. -/
def singleExponent (self : DotNetDecimal) : Except Panic ℤ := do
  let exponent : ℤ := (self.numerator.bitLength : ℤ) - self.denominator.bitLength
  let belowPower : Bool ←
    if 0 ≤ exponent then do
      let power ← expect "decimal exponent comparison fits U256"
        (self.denominator.checkedShiftLeft exponent.toNat)
      pure (decide (self.numerator.magnitudeCmp power = .lt))
    else do
      let scaled ← expect "decimal exponent comparison fits U256"
        (self.numerator.checkedShiftLeft (-exponent).toNat)
      pure (decide (scaled.magnitudeCmp self.denominator = .lt))
  return if belowPower then exponent - 1 else exponent

/-- The second part: the ratio whose quotient has 24 bits. -/
def scaledRatio (self : DotNetDecimal) (exponent : ℤ) : Except Panic (U256 × U256) :=
  let significandShift := 23 - exponent
  if 0 ≤ significandShift then do
    let scaled ← expect "decimal-to-f32 numerator fits U256"
      (self.numerator.checkedShiftLeft significandShift.toNat)
    return (scaled, self.denominator)
  else do
    let scaled ← expect "decimal-to-f32 denominator fits U256"
      (self.denominator.checkedShiftLeft (-significandShift).toNat)
    return (self.numerator, scaled)

/-- The third part: the rounded quotient. -/
def roundedSignificand (ratio : U256 × U256) : Except Panic ℕ := do
  let (significand, remainder) ← ratio.1.divRemU32Quotient ratio.2
  let doubledRemainder ← expect "decimal-to-f32 remainder fits U256" (remainder.checkedMulU64 2)
  if doubledRemainder.magnitudeCmp ratio.2 = .gt ∨
      (doubledRemainder.1 = ratio.2.1 ∧ significand % 2 ≠ 0) then
    return significand + 1
  else return significand

/-- The last part: a carry into a 25th bit is renormalised, and the fields are put together. -/
def packSingle (negative : Bool) (exponent : ℤ) (significand : ℕ) : Except Panic Single := do
  let carried := significand = 2 ^ 24
  let significand := if carried then significand >>> 1 else significand
  let exponent := if carried then exponent + 1 else exponent
  debugAssert (decide (2 ^ 23 ≤ significand) && decide (significand < 2 ^ 24))
  let biasedExponent := ((exponent + 127) % 2 ^ 32).toNat
  debugAssert (decide (1 ≤ biasedExponent) && decide (biasedExponent < 0xff))
  return Single.pack negative biasedExponent (significand - 2 ^ 23)

/-- `to_f32`. -/
def toF32 (self : DotNetDecimal) : Except Panic Single :=
  if self.mantissa = 0 then .ok (Single.pack self.negative 0 0)
  else do
    let exponent ← self.singleExponent
    let ratio ← self.scaledRatio exponent
    let significand ← roundedSignificand ratio
    packSingle self.negative exponent significand

end DotNetDecimal

namespace U256

/-! ## The quotient -/

/-- Bisection between a factor that is not too large and one that is finds the quotient. -/
theorem bisect_eq {self divisor : U256} (hwide : divisor.toNat * 2 ^ 25 < 2 ^ 256)
    {lower upper : ℕ} (hlt : lower < upper) (hupper : upper ≤ 2 ^ 25)
    (hle : divisor.toNat * lower ≤ self.toNat) (hgt : self.toNat < divisor.toNat * upper) :
    bisect self divisor lower upper = .ok (self.toNat / divisor.toNat) := by
  induction hgap : upper - lower using Nat.strong_induction_on generalizing lower upper with
  | _ gap ih =>
    unfold bisect
    by_cases hmore : lower + 1 < upper
    · rw [if_pos hmore]
      have hmiddle : lower < lower + (upper - lower) / 2 ∧
          lower + (upper - lower) / 2 < upper := by omega
      obtain ⟨product, hproduct, hvalue⟩ : ∃ product,
          divisor.checkedMulU64 (BitVec.ofNat 64 (lower + (upper - lower) / 2)) = some product ∧
            product.toNat = divisor.toNat * (lower + (upper - lower) / 2) := by
        have hword : (BitVec.ofNat 64 (lower + (upper - lower) / 2)).toNat =
            lower + (upper - lower) / 2 := by
          rw [BitVec.toNat_ofNat]
          exact Nat.mod_eq_of_lt (by omega)
        have hbound : divisor.toNat * (lower + (upper - lower) / 2) ≤ divisor.toNat * 2 ^ 25 :=
          Nat.mul_le_mul_left _ (by omega)
        have hmul := @checkedMulU64_eq divisor (BitVec.ofNat 64 (lower + (upper - lower) / 2))
        rw [hword] at hmul
        exact hmul (by omega)
      dsimp only
      rw [hproduct]
      show (if product.magnitudeCmp self = .gt then _ else _) = _
      have hcmp := magnitudeCmp_gt product self
      rw [hvalue] at hcmp
      by_cases hbig : self.toNat < divisor.toNat * (lower + (upper - lower) / 2)
      · rw [if_pos (hcmp.mpr hbig)]
        exact ih _ (by omega) hmiddle.1 (by omega) hle hbig rfl
      · rw [if_neg (fun h => hbig (hcmp.mp h))]
        exact ih _ (by omega) hmiddle.2 hupper (by omega) hgt rfl
    · rw [if_neg hmore]
      have hnext : upper = lower + 1 := by omega
      rw [hnext, Nat.mul_succ] at hgt
      congr 1
      symm
      apply Nat.div_eq_of_lt_le
      · rw [Nat.mul_comm]
        exact hle
      · rw [Nat.mul_comm, Nat.mul_succ]
        exact hgt

/-- A quotient of up to 25 bits, with its remainder. -/
theorem divRemU32Quotient_eq {self divisor : U256} (hwide : divisor.toNat * 2 ^ 25 < 2 ^ 256)
    (hgt : self.toNat < divisor.toNat * 2 ^ 25) :
    ∃ remainder, self.divRemU32Quotient divisor = .ok (self.toNat / divisor.toNat, remainder) ∧
      remainder.toNat = self.toNat % divisor.toNat := by
  have hquotient : self.toNat / divisor.toNat < 2 ^ 25 := Nat.div_lt_of_lt_mul hgt
  have hword : (BitVec.ofNat 64 (self.toNat / divisor.toNat)).toNat =
      self.toNat / divisor.toNat := by
    rw [BitVec.toNat_ofNat]
    exact Nat.mod_eq_of_lt (by omega)
  have hle : divisor.toNat * (self.toNat / divisor.toNat) ≤ self.toNat := Nat.mul_div_le _ _
  have hlt := self.toNat_lt
  obtain ⟨product, hproduct, hvalue⟩ :=
    @checkedMulU64_eq divisor (BitVec.ofNat 64 (self.toNat / divisor.toNat))
      (by rw [hword]; omega)
  rw [hword] at hvalue
  obtain ⟨remainder, hremainder, hrest⟩ := checkedSub_eq (hvalue ▸ hle)
  refine ⟨remainder, ?_, ?_⟩
  · unfold divRemU32Quotient
    rw [bisect_eq hwide (by norm_num) le_rfl (by omega) hgt]
    show (expect _ (divisor.checkedMulU64 _) >>= _) = _
    rw [hproduct]
    show (self.checkedSub product >>= _) = _
    rw [hremainder]
    rfl
  · rw [hrest, hvalue]
    have := Nat.div_add_mod self.toNat divisor.toNat
    omega

end U256

namespace DotNetDecimal

/-! ## The exponent -/

theorem toNat_numerator (self : DotNetDecimal) : self.numerator.toNat = self.mantissa :=
  U256.toNat_fromU128 (by have := self.mantissa_lt; omega)

theorem pow_scale_lt (self : DotNetDecimal) : 10 ^ self.scale < 2 ^ 94 := by
  calc 10 ^ self.scale ≤ 10 ^ 28 := Nat.pow_le_pow_right (by omega) self.scale_le
    _ < 2 ^ 94 := by norm_num

theorem toNat_denominator (self : DotNetDecimal) : self.denominator.toNat = 10 ^ self.scale :=
  U256.toNat_fromU128 (by have := self.pow_scale_lt; omega)

/-- A number is at least the power of two below its length, and below the next one. -/
theorem size_bounds {n : ℕ} (h : 0 < n) : 2 ^ (n.size - 1) ≤ n ∧ n < 2 ^ n.size :=
  ⟨Nat.lt_size.mp (Nat.sub_one_lt (Nat.size_pos.mpr h).ne'), Nat.lt_size_self n⟩

theorem zpow_le_div {a b n d : ℕ} (hd : 0 < d) :
    (2 : ℚ) ^ ((a : ℤ) - b) ≤ (n : ℚ) / d ↔ d * 2 ^ a ≤ n * 2 ^ b := by
  have hd' : (0 : ℚ) < d := by exact_mod_cast hd
  rw [zpow_sub₀ two_ne_zero, zpow_natCast, zpow_natCast, div_le_div_iff₀ (by positivity) hd',
    mul_comm ((2 : ℚ) ^ a)]
  exact_mod_cast Iff.rfl

theorem div_lt_zpow {a b n d : ℕ} (hd : 0 < d) :
    (n : ℚ) / d < (2 : ℚ) ^ ((a : ℤ) - b) ↔ n * 2 ^ b < d * 2 ^ a := by
  rw [← not_le, zpow_le_div hd, not_le]

/-- The difference of two lengths is the binade of the quotient, or one more than it. -/
theorem binade_of_size {n d a b : ℕ} (hn : 0 < n) (hd : 0 < d) (h : n.size + b = d.size + a) :
    d * 2 ^ a < 2 * (n * 2 ^ b) ∧ n * 2 ^ b < 2 * (d * 2 ^ a) := by
  obtain ⟨hnle, hnlt⟩ := size_bounds hn
  obtain ⟨hdle, hdlt⟩ := size_bounds hd
  have hhalfN : 2 ^ n.size = 2 * 2 ^ (n.size - 1) := by
    rw [← pow_succ', Nat.sub_add_cancel (Nat.size_pos.mpr hn)]
  have hhalfD : 2 ^ d.size = 2 * 2 ^ (d.size - 1) := by
    rw [← pow_succ', Nat.sub_add_cancel (Nat.size_pos.mpr hd)]
  have hequal : 2 ^ n.size * 2 ^ b = 2 ^ d.size * 2 ^ a := by
    rw [← pow_add, ← pow_add, h]
  constructor
  · calc d * 2 ^ a < 2 ^ d.size * 2 ^ a := Nat.mul_lt_mul_of_pos_right hdlt (Nat.two_pow_pos a)
      _ = 2 * 2 ^ (n.size - 1) * 2 ^ b := by rw [← hequal, hhalfN]
      _ ≤ 2 * n * 2 ^ b := Nat.mul_le_mul_right _ (Nat.mul_le_mul_left _ hnle)
      _ = 2 * (n * 2 ^ b) := Nat.mul_assoc _ _ _
  · calc n * 2 ^ b < 2 ^ n.size * 2 ^ b := Nat.mul_lt_mul_of_pos_right hnlt (Nat.two_pow_pos b)
      _ = 2 * 2 ^ (d.size - 1) * 2 ^ a := by rw [hequal, hhalfD]
      _ ≤ 2 * d * 2 ^ a := Nat.mul_le_mul_right _ (Nat.mul_le_mul_left _ hdle)
      _ = 2 * (d * 2 ^ a) := Nat.mul_assoc _ _ _

/-- One comparison finds which of the two it is. -/
theorem binade_corrected {n d a b : ℕ} (hn : 0 < n) (hd : 0 < d) (h : n.size + b = d.size + a) :
    let exponent : ℤ := if n * 2 ^ b < d * 2 ^ a then (a : ℤ) - b - 1 else (a : ℤ) - b
    2 ^ exponent ≤ (n : ℚ) / d ∧ (n : ℚ) / d < 2 ^ (exponent + 1) := by
  obtain ⟨hlow, hhigh⟩ := binade_of_size hn hd h
  dsimp only
  by_cases hbelow : n * 2 ^ b < d * 2 ^ a
  · rw [if_pos hbelow]
    have hform : (a : ℤ) - b - 1 = (a : ℤ) - ((b + 1 : ℕ) : ℤ) := by push_cast; ring
    refine ⟨?_, ?_⟩
    · rw [hform, zpow_le_div hd, pow_succ, ← Nat.mul_assoc]
      omega
    · rw [sub_add_cancel, div_lt_zpow hd]
      exact hbelow
  · rw [if_neg hbelow]
    have hform : (a : ℤ) - b + 1 = ((a + 1 : ℕ) : ℤ) - b := by push_cast; ring
    refine ⟨?_, ?_⟩
    · rw [zpow_le_div hd]
      omega
    · rw [hform, div_lt_zpow hd, pow_succ, ← Nat.mul_assoc]
      omega

theorem magnitude_eq (self : DotNetDecimal) :
    self.magnitude = (self.mantissa : ℚ) / ((10 ^ self.scale : ℕ) : ℚ) := by
  unfold magnitude
  push_cast
  rfl

/-- The exponent is the binade of the magnitude, and neither comparison leaves 256 bits. -/
theorem singleExponent_eq {self : DotNetDecimal} (h : self.mantissa ≠ 0) :
    ∃ exponent : ℤ, self.singleExponent = .ok exponent ∧
      2 ^ exponent ≤ self.magnitude ∧ self.magnitude < 2 ^ (exponent + 1) := by
  have hn := Nat.pos_of_ne_zero h
  have hd : 0 < 10 ^ self.scale := Nat.pow_pos (by omega)
  have hnSize : self.mantissa.size ≤ 96 := Nat.size_le.mpr self.mantissa_lt
  have hdSize : (10 ^ self.scale).size ≤ 94 := Nat.size_le.mpr self.pow_scale_lt
  have hnlt := (size_bounds hn).2
  have hdlt := (size_bounds hd).2
  rw [magnitude_eq]
  unfold singleExponent
  rw [U256.bitLength_eq, U256.bitLength_eq, toNat_numerator, toNat_denominator]
  dsimp only
  by_cases hsign : (0 : ℤ) ≤ (self.mantissa.size : ℤ) - (10 ^ self.scale).size
  · rw [if_pos hsign]
    obtain ⟨a, ha⟩ : ∃ a : ℕ, self.mantissa.size = (10 ^ self.scale).size + a :=
      Nat.exists_eq_add_of_le (by omega)
    have hbinade := binade_corrected (b := 0) hn hd ha
    have hexponent : (self.mantissa.size : ℤ) - (10 ^ self.scale).size = a := by omega
    obtain ⟨power, hpower, hvalue⟩ := @U256.checkedShiftLeft_eq self.denominator a (by
      rw [toNat_denominator]
      calc 10 ^ self.scale * 2 ^ a < 2 ^ (10 ^ self.scale).size * 2 ^ a :=
            Nat.mul_lt_mul_of_pos_right hdlt (Nat.two_pow_pos a)
        _ = 2 ^ self.mantissa.size := by rw [ha, pow_add]
        _ < 2 ^ 256 := Nat.pow_lt_pow_right (by omega) (by omega))
    rw [toNat_denominator] at hvalue
    rw [hexponent, Int.toNat_natCast, hpower]
    refine ⟨_, rfl, ?_⟩
    have hcmp := U256.magnitudeCmp_lt self.numerator power
    rw [hvalue, toNat_numerator] at hcmp
    rw [pow_zero, Nat.mul_one, Nat.cast_zero, sub_zero] at hbinade
    rw [← if_congr (decide_eq_true_iff.trans hcmp) rfl rfl] at hbinade
    exact hbinade
  · rw [if_neg hsign]
    obtain ⟨b, hb⟩ : ∃ b : ℕ, (10 ^ self.scale).size = self.mantissa.size + b :=
      Nat.exists_eq_add_of_le (by omega)
    have hbinade := binade_corrected (a := 0) hn hd hb.symm
    have hexponent : (self.mantissa.size : ℤ) - (10 ^ self.scale).size = -b := by omega
    obtain ⟨scaled, hscaled, hvalue⟩ := @U256.checkedShiftLeft_eq self.numerator b (by
      rw [toNat_numerator]
      calc self.mantissa * 2 ^ b < 2 ^ self.mantissa.size * 2 ^ b :=
            Nat.mul_lt_mul_of_pos_right hnlt (Nat.two_pow_pos b)
        _ = 2 ^ (10 ^ self.scale).size := by rw [hb, pow_add]
        _ < 2 ^ 256 := Nat.pow_lt_pow_right (by omega) (by omega))
    rw [toNat_numerator] at hvalue
    rw [hexponent, neg_neg, Int.toNat_natCast, hscaled]
    refine ⟨_, rfl, ?_⟩
    have hcmp := U256.magnitudeCmp_lt scaled self.denominator
    rw [hvalue, toNat_denominator] at hcmp
    rw [pow_zero, Nat.mul_one, Nat.cast_zero, zero_sub] at hbinade
    rw [← if_congr (decide_eq_true_iff.trans hcmp) rfl rfl] at hbinade
    exact hbinade

/-- The binades of decimals: far inside those of normal singles. -/
theorem exponent_bounds {self : DotNetDecimal} {exponent : ℤ} (h : self.mantissa ≠ 0)
    (hle : 2 ^ exponent ≤ self.magnitude) (hlt : self.magnitude < 2 ^ (exponent + 1)) :
    -94 ≤ exponent ∧ exponent ≤ 95 := by
  have hd : 0 < 10 ^ self.scale := Nat.pow_pos (by omega)
  have hone : 1 ≤ 10 ^ self.scale := hd
  have hupper : self.magnitude < 2 ^ ((96 : ℕ) - (0 : ℕ) : ℤ) := by
    rw [magnitude_eq, div_lt_zpow hd, pow_zero, Nat.mul_one]
    have := Nat.mul_le_mul_right (2 ^ 96) hone
    have := self.mantissa_lt
    omega
  have hlower : 2 ^ ((0 : ℕ) - (94 : ℕ) : ℤ) ≤ self.magnitude := by
    rw [magnitude_eq, zpow_le_div hd, pow_zero, Nat.mul_one]
    have := Nat.mul_le_mul_right (2 ^ 94) (Nat.pos_of_ne_zero h)
    have := self.pow_scale_lt
    omega
  have hup := (zpow_lt_zpow_iff_right₀ (one_lt_two (α := ℚ))).mp (hle.trans_lt hupper)
  have hlow := (zpow_lt_zpow_iff_right₀ (one_lt_two (α := ℚ))).mp (hlower.trans_lt hlt)
  omega

/-! ## The significand -/

/-- The scaled ratio is the magnitude in units of the last of 24 bits, and it fits 256 bits with
room for the bisection. -/
theorem scaledRatio_eq {self : DotNetDecimal} {exponent : ℤ} (hlow : -94 ≤ exponent)
    (hhigh : exponent ≤ 95) : ∃ ratio, self.scaledRatio exponent = .ok ratio ∧
      0 < ratio.2.toNat ∧ ratio.2.toNat * 2 ^ 25 < 2 ^ 256 ∧
      (ratio.1.toNat : ℚ) / ratio.2.toNat = self.magnitude * 2 ^ (23 - exponent) := by
  have hd : 0 < 10 ^ self.scale := Nat.pow_pos (by omega)
  have hdlt := self.pow_scale_lt
  have hnlt := self.mantissa_lt
  have hn := self.toNat_numerator
  unfold scaledRatio
  dsimp only
  by_cases hsign : 0 ≤ 23 - exponent
  · rw [if_pos hsign]
    obtain ⟨shift, hshift⟩ := Int.eq_ofNat_of_zero_le hsign
    obtain ⟨scaled, hscaled, hvalue⟩ := @U256.checkedShiftLeft_eq self.numerator shift (by
      rw [hn]
      calc self.mantissa * 2 ^ shift < 2 ^ 96 * 2 ^ shift :=
            Nat.mul_lt_mul_of_pos_right hnlt (Nat.two_pow_pos shift)
        _ ≤ 2 ^ 96 * 2 ^ 117 := Nat.mul_le_mul_left _ (Nat.pow_le_pow_right (by omega) (by omega))
        _ < 2 ^ 256 := by norm_num)
    rw [hshift, Int.toNat_natCast, hscaled]
    refine ⟨(scaled, self.denominator), rfl, ?_, ?_, ?_⟩
    · rw [toNat_denominator]
      exact hd
    · rw [toNat_denominator]
      omega
    · rw [hvalue, hn, toNat_denominator, magnitude_eq, zpow_natCast]
      push_cast
      ring
  · rw [if_neg hsign]
    obtain ⟨shift, hshift⟩ := Int.eq_ofNat_of_zero_le (by omega : 0 ≤ -(23 - exponent))
    have hbound : 10 ^ self.scale * 2 ^ shift < 2 ^ 166 := by
      calc 10 ^ self.scale * 2 ^ shift < 2 ^ 94 * 2 ^ shift :=
            Nat.mul_lt_mul_of_pos_right hdlt (Nat.two_pow_pos shift)
        _ ≤ 2 ^ 94 * 2 ^ 72 := Nat.mul_le_mul_left _ (Nat.pow_le_pow_right (by omega) (by omega))
        _ = 2 ^ 166 := by norm_num
    obtain ⟨scaled, hscaled, hvalue⟩ := @U256.checkedShiftLeft_eq self.denominator shift (by
      rw [toNat_denominator]
      omega)
    rw [toNat_denominator] at hvalue
    rw [hshift, Int.toNat_natCast, hscaled]
    refine ⟨(self.numerator, scaled), rfl, ?_, ?_, ?_⟩
    · rw [hvalue]
      exact Nat.mul_pos hd (Nat.two_pow_pos shift)
    · rw [hvalue]
      omega
    · have hexponent : 23 - exponent = -(shift : ℤ) := by omega
      rw [hvalue, hn, magnitude_eq, hexponent, zpow_neg, zpow_natCast]
      push_cast
      field_simp

/-- The quotient of the ratio, rounded half to even. -/
theorem roundedSignificand_eq {ratio : U256 × U256} (hwide : ratio.2.toNat * 2 ^ 25 < 2 ^ 256)
    (hgt : ratio.1.toNat < ratio.2.toNat * 2 ^ 25) :
    roundedSignificand ratio = .ok (roundDiv ratio.1.toNat ratio.2.toNat) := by
  obtain ⟨remainder, hquotient, hremainder⟩ := U256.divRemU32Quotient_eq hwide hgt
  have hpos : 0 < ratio.2.toNat := by
    by_contra hzero
    rw [Nat.eq_zero_of_not_pos hzero, Nat.zero_mul] at hgt
    exact Nat.not_lt_zero _ hgt
  have hmod := Nat.mod_lt ratio.1.toNat hpos
  obtain ⟨doubled, hdoubled, hvalue⟩ := @U256.checkedMulU64_eq remainder 2 (by
    show remainder.toNat * 2 < 2 ^ 256
    omega)
  have htwo : doubled.toNat = 2 * (ratio.1.toNat % ratio.2.toNat) := by
    rw [hvalue, hremainder]
    exact Nat.mul_comm _ _
  have hcmp := U256.magnitudeCmp_gt doubled ratio.2
  have hequal : doubled.1 = ratio.2.1 ↔ doubled.toNat = ratio.2.toNat :=
    ⟨fun h => congrArg Limbs.value h, fun h => congrArg Subtype.val (U256.toNat_inj h)⟩
  rw [htwo] at hcmp hequal
  unfold roundedSignificand roundDiv
  rw [hquotient]
  show (expect _ (remainder.checkedMulU64 2) >>= _) = _
  rw [hdoubled]
  show (if doubled.magnitudeCmp ratio.2 = .gt ∨ (doubled.1 = ratio.2.1 ∧
    ratio.1.toNat / ratio.2.toNat % 2 ≠ 0) then _ else _) = _
  have hcondition : (doubled.magnitudeCmp ratio.2 = .gt ∨ (doubled.1 = ratio.2.1 ∧
        ratio.1.toNat / ratio.2.toNat % 2 ≠ 0)) ↔
      (ratio.2.toNat < 2 * (ratio.1.toNat % ratio.2.toNat) ∨
        (2 * (ratio.1.toNat % ratio.2.toNat) = ratio.2.toNat ∧
          ratio.1.toNat / ratio.2.toNat % 2 = 1)) := by
    rw [hcmp, hequal]
    omega
  by_cases hup : ratio.2.toNat < 2 * (ratio.1.toNat % ratio.2.toNat) ∨
      (2 * (ratio.1.toNat % ratio.2.toNat) = ratio.2.toNat ∧
        ratio.1.toNat / ratio.2.toNat % 2 = 1)
  · rw [if_pos (hcondition.mpr hup), if_pos hup]
    rfl
  · rw [if_neg (fun h => hup (hcondition.mp h)), if_neg hup]
    rfl

/-- What the last part makes of an exponent and a rounded significand. -/
structure Packed (negative : Bool) (exponent : ℤ) (significand : ℕ) (single : Single) : Prop where
  sign : single.negative = negative
  normal : 1 ≤ single.exponentField ∧ single.exponentField < 255
  value : single.magnitude = significand * 2 ^ (exponent - 23)
  even : Even significand → single.significand % 2 = 0

/-- The fields of a significand of 24 bits. -/
theorem pack_eq {negative : Bool} {exponent : ℤ} {significand : ℕ} (hlow : -94 ≤ exponent)
    (hhigh : exponent ≤ 96) (hle : 2 ^ 23 ≤ significand) (hlt : significand < 2 ^ 24) :
    1 ≤ ((exponent + 127) % 2 ^ 32).toNat ∧ ((exponent + 127) % 2 ^ 32).toNat < 0xff ∧
      Packed negative exponent significand
        (Single.pack negative ((exponent + 127) % 2 ^ 32).toNat (significand - 2 ^ 23)) := by
  have hmod : (exponent + 127) % 2 ^ 32 = exponent + 127 :=
    Int.emod_eq_of_lt (by omega) (by omega)
  have hbiased : (((exponent + 127).toNat : ℕ) : ℤ) = exponent + 127 :=
    Int.toNat_of_nonneg (by omega)
  rw [hmod]
  have hb : (exponent + 127).toNat < 2 ^ 8 := by omega
  have hf : significand - 2 ^ 23 < 2 ^ 23 := by omega
  have hfield := Single.exponentField_pack negative hb hf
  have hsignificand : (Single.pack negative (exponent + 127).toNat
      (significand - 2 ^ 23)).significand = significand := by
    unfold Single.significand
    rw [hfield, Single.fraction_pack negative hb hf, if_neg (by omega)]
    omega
  refine ⟨by omega, by omega, Single.negative_pack negative hb hf, ?_, ?_, fun heven => ?_⟩
  · rw [hfield]
    omega
  · unfold Single.magnitude Single.unitExponent
    rw [hsignificand, hfield, max_eq_right (by omega), hbiased]
    congr 2
    omega
  · rw [hsignificand]
    exact Nat.even_iff.mp heven

/-- A carry out of 24 bits moves to the exponent, so that the value stays. -/
theorem packSingle_eq {negative : Bool} {exponent : ℤ} {significand : ℕ} (hlow : -94 ≤ exponent)
    (hhigh : exponent ≤ 95) (hle : 2 ^ 23 ≤ significand) (hge : significand ≤ 2 ^ 24) :
    ∃ single, packSingle negative exponent significand = .ok single ∧
      Packed negative exponent significand single := by
  unfold packSingle
  dsimp only
  by_cases hcarry : significand = 2 ^ 24
  · have hhalf : significand >>> 1 = 2 ^ 23 := by
      rw [hcarry, Nat.shiftRight_eq_div_pow]
      norm_num
    obtain ⟨hone, hless, hpacked⟩ := @pack_eq negative (exponent + 1) (2 ^ 23) (by omega)
      (by omega) le_rfl (by norm_num)
    simp only [hcarry, if_true] at hhalf ⊢
    rw [hhalf]
    refine ⟨_, ?_, hpacked.sign, hpacked.normal, ?_, fun _ => hpacked.even (by decide)⟩
    · unfold debugAssert
      rw [decide_eq_true hone, decide_eq_true hless]
      rfl
    · rw [hpacked.value]
      have hmove : exponent + 1 - 23 = 1 + (exponent - 23) := by ring
      rw [hmove, zpow_add₀ two_ne_zero, zpow_one, ← mul_assoc]
      norm_num
  · obtain ⟨hone, hless, hpacked⟩ := @pack_eq negative exponent significand hlow
      (by omega) hle (by omega)
    simp only [hcarry, if_false]
    refine ⟨_, ?_, hpacked⟩
    unfold debugAssert
    rw [decide_eq_true hle, decide_eq_true (by omega : significand < 2 ^ 24),
      decide_eq_true hone, decide_eq_true hless]
    rfl

/-- What `to_f32` goes through on the way to a single: the binade of the magnitude, a ratio that
is the magnitude in units of its last bit, the floor of the ratio, and that rounded. -/
structure SingleSteps (self : DotNetDecimal) (single : Single) (exponent : ℤ)
    (ratio : U256 × U256) (remainder : U256) : Prop where
  estimated : self.singleExponent = .ok exponent
  binade : 2 ^ exponent ≤ self.magnitude ∧ self.magnitude < 2 ^ (exponent + 1)
  fits : self.scaledRatio exponent = .ok ratio
  scaled : (ratio.1.toNat : ℚ) / ratio.2.toNat = self.magnitude * 2 ^ (23 - exponent)
  quotient : ratio.1.divRemU32Quotient ratio.2 =
    .ok (ratio.1.toNat / ratio.2.toNat, remainder)
  rest : remainder.toNat = ratio.1.toNat % ratio.2.toNat
  bits : 2 ^ 23 ≤ ratio.1.toNat / ratio.2.toNat ∧ ratio.1.toNat / ratio.2.toNat < 2 ^ 24
  normal : 1 ≤ single.exponentField ∧ single.exponentField < 255
  value : single.magnitude =
    halfEven (self.magnitude * 2 ^ (23 - exponent)) * 2 ^ (exponent - 23)

theorem toF32_zero {self : DotNetDecimal} (h : self.mantissa = 0) :
    ∃ single, self.toF32 = .ok single ∧ single.negative = self.negative ∧
      single.exponentField = 0 ∧ single.fraction = 0 ∧ Single.Nearest self.value single := by
  have hnegative := Single.negative_pack self.negative (Nat.two_pow_pos 8) (Nat.two_pow_pos 23)
  have hfield := Single.exponentField_pack self.negative (Nat.two_pow_pos 8) (Nat.two_pow_pos 23)
  have hfraction := Single.fraction_pack self.negative (Nat.two_pow_pos 8) (Nat.two_pow_pos 23)
  have hsignificand : (Single.pack self.negative 0 0).significand = 0 := by
    unfold Single.significand
    rw [if_pos hfield, hfraction]
  have hmagnitude : (Single.pack self.negative 0 0).magnitude = 0 := by
    unfold Single.magnitude
    rw [hsignificand, Nat.cast_zero, zero_mul]
  have hvalue : self.value = 0 := by
    unfold value magnitude
    rw [h, Nat.cast_zero, zero_div, signed_zero]
  have hrat : (Single.pack self.negative 0 0).toRat = 0 := by
    unfold Single.toRat
    rw [hmagnitude, neg_zero, ite_self]
  refine ⟨Single.pack self.negative 0 0, if_pos h, hnegative, hfield, hfraction, ?_, ?_, ?_⟩
  · show Single.exponentField _ < 255
    omega
  · intro other _
    rw [hvalue, hrat, sub_self, abs_zero]
    exact abs_nonneg _
  · intro other _ _ _
    rw [hsignificand]

theorem toF32_nonzero {self : DotNetDecimal} (h : self.mantissa ≠ 0) :
    ∃ single, self.toF32 = .ok single ∧ single.negative = self.negative ∧
      Single.Nearest self.value single ∧
      ∃ exponent ratio remainder, SingleSteps self single exponent ratio remainder := by
  obtain ⟨exponent, hexponent, hle, hlt⟩ := singleExponent_eq h
  obtain ⟨hlow, hhigh⟩ := exponent_bounds h hle hlt
  obtain ⟨ratio, hratio, hpos, hwide, hscaled⟩ := @scaledRatio_eq self exponent hlow hhigh
  have hunit : (0 : ℚ) < 2 ^ (23 - exponent) := by positivity
  have hposK : (0 : ℚ) < ratio.2.toNat := by exact_mod_cast hpos
  -- in units of the last bit the binade has numbers of 24 bits
  have hfrom : ratio.2.toNat * 2 ^ 23 ≤ ratio.1.toNat := by
    have hmul := mul_le_mul_of_nonneg_right hle hunit.le
    rw [← hscaled, ← zpow_add₀ two_ne_zero, le_div_iff₀ hposK] at hmul
    have hexp : exponent + (23 - exponent) = ((23 : ℕ) : ℤ) := by push_cast; ring
    rw [hexp, zpow_natCast, mul_comm] at hmul
    exact_mod_cast hmul
  have hto : ratio.1.toNat < ratio.2.toNat * 2 ^ 24 := by
    have hmul := mul_lt_mul_of_pos_right hlt hunit
    rw [← hscaled, ← zpow_add₀ two_ne_zero, div_lt_iff₀ hposK] at hmul
    have hexp : exponent + 1 + (23 - exponent) = ((24 : ℕ) : ℤ) := by push_cast; ring
    rw [hexp, zpow_natCast, mul_comm] at hmul
    exact_mod_cast hmul
  have hgt : ratio.1.toNat < ratio.2.toNat * 2 ^ 25 :=
    hto.trans_le (Nat.mul_le_mul_left _ (by norm_num))
  have hquotient : 2 ^ 23 ≤ ratio.1.toNat / ratio.2.toNat ∧
      ratio.1.toNat / ratio.2.toNat < 2 ^ 24 :=
    ⟨(Nat.le_div_iff_mul_le hpos).mpr (by rw [Nat.mul_comm]; exact hfrom),
      Nat.div_lt_of_lt_mul hto⟩
  have hround : HalfEven (self.magnitude * 2 ^ (23 - exponent))
      (roundDiv ratio.1.toNat ratio.2.toNat) := by
    rw [← hscaled]
    exact halfEven_roundDiv _ hpos
  have hrounded : 2 ^ 23 ≤ roundDiv ratio.1.toNat ratio.2.toNat ∧
      roundDiv ratio.1.toNat ratio.2.toNat ≤ 2 ^ 24 := by
    unfold roundDiv
    split <;> omega
  obtain ⟨single, hsingle, hpacked⟩ := @packSingle_eq self.negative exponent
    (roundDiv ratio.1.toNat ratio.2.toNat) hlow hhigh hrounded.1 hrounded.2
  obtain ⟨remainder, hdivision, hremainder⟩ :=
    @U256.divRemU32Quotient_eq ratio.1 ratio.2 hwide hgt
  refine ⟨single, ?_, hpacked.sign, ?_, exponent, ratio, remainder, hexponent, ⟨hle, hlt⟩, hratio,
    hscaled, hdivision, hremainder, hquotient, hpacked.normal, ?_⟩
  · unfold toF32
    rw [if_neg h, hexponent]
    show (self.scaledRatio exponent >>= _) = _
    rw [hratio]
    show (roundedSignificand ratio >>= _) = _
    rw [roundedSignificand_eq hwide hgt]
    exact hsingle
  · have hnearest := Single.nearest_of_halfEven hpacked.normal.2 hle hround hpacked.value
      hpacked.even
    rw [hpacked.sign] at hnearest
    exact hnearest
  · rw [hpacked.value, halfEven_eq]
    rw [abs_of_nonneg (mul_nonneg self.magnitude_nonneg hunit.le)]
    exact hround

/-- **The conversion to single precision is exactly rounded.** It never panics, its result is
nearest to the decimal among all finite singles with ties to even, and zero keeps its sign. -/
theorem toF32_nearest (self : DotNetDecimal) :
    ∃ single, self.toF32 = .ok single ∧ single.negative = self.negative ∧
      Single.Nearest self.value single ∧
      (self.mantissa = 0 → single.exponentField = 0 ∧ single.fraction = 0) ∧
      (self.mantissa ≠ 0 → ∃ exponent ratio remainder,
        SingleSteps self single exponent ratio remainder) := by
  by_cases h : self.mantissa = 0
  · obtain ⟨single, hsingle, hsign, hfield, hfraction, hnearest⟩ := toF32_zero h
    exact ⟨single, hsingle, hsign, hnearest, fun _ => ⟨hfield, hfraction⟩, fun hne => absurd h hne⟩
  · obtain ⟨single, hsingle, hsign, hnearest, hsteps⟩ := toF32_nonzero h
    exact ⟨single, hsingle, hsign, hnearest, fun hzero => absurd hzero h, fun _ => hsteps⟩

end DotNetDecimal

end P4475
