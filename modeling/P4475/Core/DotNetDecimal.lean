import P4475.Core.U256

/-!
# The 96-bit decimal

`p4475-core/src/dotnet_decimal.rs`: a mantissa below `2 ^ 96`, a scale up to 28 and a sign.
`Rounds` says what its operations make of an exact result: the magnitude rounded half to even at
the largest scale at which it fits. Both searches of the source for that scale are one loop over
the scale that is kept, `firstScale`, with a lemma that what it finds is what `Rounds` asks.
-/

namespace P4475

open Lib

/-- `DotNetDecimal`. -/
structure DotNetDecimal where
  mantissa : ℕ
  scale : ℕ
  negative : Bool
  mantissa_lt : mantissa < 2 ^ 96
  scale_le : scale ≤ 28

namespace DotNetDecimal

/-- `ZERO`. -/
def zero : DotNetDecimal := ⟨0, 0, false, by norm_num, by omega⟩

/-- The magnitude that a decimal stands for. -/
def magnitude (self : DotNetDecimal) : ℚ := self.mantissa / 10 ^ self.scale

/-- A magnitude with a sign. -/
def signed (negative : Bool) (magnitude : ℚ) : ℚ := if negative then -magnitude else magnitude

/-- The number that a decimal stands for. -/
def value (self : DotNetDecimal) : ℚ := signed self.negative self.magnitude

/-- A rounded mantissa with its scale; zero is always `ZERO`. -/
def canonical (mantissa scale : ℕ) (negative : Bool) (hm : mantissa < 2 ^ 96) (hk : scale ≤ 28) :
    DotNetDecimal :=
  if mantissa = 0 then zero else ⟨mantissa, scale, negative, hm, hk⟩

/-- The result of rounding an exact number whose digits end at the natural scale. -/
inductive Rounds (exact : ℚ) (natural : ℕ) : Option DotNetDecimal → Prop
  | overflow (h : ∀ scale ≤ min 28 natural, 2 ^ 96 ≤ halfEven (exact * 10 ^ scale)) :
    Rounds exact natural none
  | fits (scale : ℕ) (hk : scale ≤ 28) (hnatural : scale ≤ natural)
      (hm : halfEven (exact * 10 ^ scale) < 2 ^ 96)
      (hlargest : ∀ larger ≤ min 28 natural, scale < larger →
        2 ^ 96 ≤ halfEven (exact * 10 ^ larger)) :
    Rounds exact natural (some
      (canonical (halfEven (exact * 10 ^ scale)) scale (decide (exact < 0)) hm hk))

/-- The loop over the scales that may be kept, from the largest: an attempt either ends it with
a result or passes on to the next scale. -/
def firstScale (attempt : (kept : ℕ) → kept ≤ 28 → Option (Option DotNetDecimal)) :
    (kept : ℕ) → kept ≤ 28 → Option DotNetDecimal
  | 0, h => (attempt 0 h).getD none
  | kept + 1, h => (attempt (kept + 1) h).getD (firstScale attempt kept (Nat.le_of_succ_le h))

/-- One turn of the loop of `from_wide`; `kept` is `scale - removed`. -/
def fromWideAttempt (value : U256) (scale : ℕ) (negative : Bool) (kept : ℕ) (h : kept ≤ 28) :
    Option (Option DotNetDecimal) :=
  match value.roundDivPowerOfTen (scale - kept) with
  | none => some none
  | some rounded =>
    if hfits : rounded.fitsDecimalMantissa = true then
      some (some (canonical rounded.toU128 kept negative (U256.toU128_lt hfits) h))
    else none

/-- `from_wide`: what is removed grows from `scale - 28`, so what is kept falls from 28. -/
def fromWide (value : U256) (scale : ℕ) (negative : Bool) : Option DotNetDecimal :=
  firstScale (fromWideAttempt value scale negative) (min 28 scale) (Nat.min_le_left _ _)

/-- `?` on an option, where a panic is not one. -/
def orNone {α β : Type} (result : Option α) (rest : α → Except Panic (Option β)) :
    Except Panic (Option β) :=
  match result with
  | none => .ok none
  | some a => rest a

/-- `checked_mul`. -/
def checkedMul (self other : DotNetDecimal) : Except Panic (Option DotNetDecimal) := do
  let product ← U256.multiplyU128 self.mantissa other.mantissa
  return fromWide product (self.scale + other.scale) (self.negative ^^ other.negative)

/-- `checked_add`. -/
def checkedAdd (self other : DotNetDecimal) : Except Panic (Option DotNetDecimal) :=
  let scale := max self.scale other.scale
  orNone ((U256.fromU128 self.mantissa).checkedMulPowerOfTen (scale - self.scale)) fun left =>
  orNone ((U256.fromU128 other.mantissa).checkedMulPowerOfTen (scale - other.scale)) fun right =>
  if self.negative = other.negative then
    orNone (left.checkedAdd right) fun magnitude => .ok (fromWide magnitude scale self.negative)
  else
    match left.magnitudeCmp right with
    | .lt => do
      orNone (← right.checkedSub left) fun magnitude =>
        .ok (fromWide magnitude scale other.negative)
    | .eq => .ok (some zero)
    | .gt => do
      orNone (← left.checkedSub right) fun magnitude =>
        .ok (fromWide magnitude scale self.negative)

/-! ## Rounding -/

theorem magnitude_nonneg (self : DotNetDecimal) : 0 ≤ self.magnitude := by
  unfold magnitude
  positivity

theorem canonical_congr {m m' scale : ℕ} {negative negative' : Bool} {hm : m < 2 ^ 96}
    {hm' : m' < 2 ^ 96} {hk : scale ≤ 28} (h : m = m') (hsign : m ≠ 0 → negative = negative') :
    canonical m scale negative hm hk = canonical m' scale negative' hm' hk := by
  subst h
  unfold canonical
  by_cases hzero : m = 0
  · rw [if_pos hzero, if_pos hzero]
  · rw [if_neg hzero, if_neg hzero]
    congr 1
    exact hsign hzero

/-- A number that does not fit at a scale does not fit at a larger one. -/
theorem halfEven_scale_mono (x : ℚ) {j k : ℕ} (h : j ≤ k) :
    halfEven (x * 10 ^ j) ≤ halfEven (x * 10 ^ k) := by
  apply halfEven_mono
  rw [abs_mul, abs_mul]
  apply mul_le_mul_of_nonneg_left _ (abs_nonneg x)
  rw [abs_of_pos (by positivity), abs_of_pos (by positivity)]
  exact pow_le_pow_right₀ (by norm_num) h

/-- There is no result exactly where the number does not fit even without digits behind the
point. -/
theorem Rounds.none_iff {exact : ℚ} {natural : ℕ} {result : Option DotNetDecimal}
    (h : Rounds exact natural result) : result = none ↔ 2 ^ 96 ≤ halfEven exact := by
  cases h with
  | overflow h =>
    have hzero := h 0 (Nat.zero_le _)
    rw [pow_zero, mul_one] at hzero
    exact iff_of_true rfl hzero
  | fits scale hk hnatural hm hlargest =>
    have hmono := halfEven_scale_mono exact (Nat.zero_le scale)
    rw [pow_zero, mul_one] at hmono
    exact iff_of_false (Option.some_ne_none _) (by omega)

/-- Rounding has one result. -/
theorem Rounds.unique {exact : ℚ} {natural : ℕ} {r r' : Option DotNetDecimal}
    (h : Rounds exact natural r) (h' : Rounds exact natural r') : r = r' := by
  cases h with
  | overflow h =>
    cases h' with
    | overflow h' => rfl
    | fits scale hk hnatural hm hlargest =>
      have := h scale (by omega)
      omega
  | fits scale hk hnatural hm hlargest =>
    cases h' with
    | overflow h' =>
      have := h' scale (by omega)
      omega
    | fits scale' hk' hnatural' hm' hlargest' =>
      -- neither scale is larger, for the other number would not fit
      rcases Nat.lt_trichotomy scale scale' with hless | hsame | hmore
      · have := hlargest scale' (by omega) hless
        omega
      · subst hsame
        rfl
      · have := hlargest' scale (by omega) hmore
        omega

/-- Zero is `ZERO`, whatever its digits. -/
theorem Rounds.zero (natural : ℕ) : Rounds 0 natural (some DotNetDecimal.zero) := by
  have hzero : ∀ scale : ℕ, halfEven (0 * 10 ^ scale) = 0 := fun scale => by
    rw [zero_mul, halfEven_zero]
  have hfits : halfEven (0 * 10 ^ min 28 natural) < 2 ^ 96 := by
    rw [hzero]
    norm_num
  have hround := @Rounds.fits 0 natural (min 28 natural) (Nat.min_le_left _ _)
    (Nat.min_le_right _ _) hfits (by omega)
  unfold canonical at hround
  rw [if_pos (hzero _)] at hround
  exact hround

/-- A loop whose attempts are those of the rounding finds the rounded number. -/
theorem firstScale_rounds {exact : ℚ} {natural : ℕ}
    {attempt : (kept : ℕ) → kept ≤ 28 → Option (Option DotNetDecimal)} {kept : ℕ}
    (hattempt : ∀ smaller (h : smaller ≤ 28), smaller ≤ kept → attempt smaller h =
      if hm : halfEven (exact * 10 ^ smaller) < 2 ^ 96 then
        some (some (canonical (halfEven (exact * 10 ^ smaller)) smaller (decide (exact < 0)) hm h))
      else none)
    (h : kept ≤ 28) (hnatural : kept ≤ natural)
    (hlarger : ∀ larger ≤ min 28 natural, kept < larger →
      2 ^ 96 ≤ halfEven (exact * 10 ^ larger)) :
    Rounds exact natural (firstScale attempt kept h) := by
  induction kept with
  | zero =>
    unfold firstScale
    rw [hattempt 0 h le_rfl]
    by_cases hm : halfEven (exact * 10 ^ 0) < 2 ^ 96
    · rw [dif_pos hm]
      exact Rounds.fits 0 h hnatural hm hlarger
    · rw [dif_neg hm]
      refine Rounds.overflow fun scale hscale => ?_
      have hmono := halfEven_scale_mono exact (Nat.zero_le scale)
      omega
  | succ kept ih =>
    unfold firstScale
    rw [hattempt (kept + 1) h le_rfl]
    by_cases hm : halfEven (exact * 10 ^ (kept + 1)) < 2 ^ 96
    · rw [dif_pos hm]
      exact Rounds.fits (kept + 1) h hnatural hm hlarger
    · rw [dif_neg hm]
      refine ih (fun smaller h hle => hattempt smaller h (Nat.le_succ_of_le hle))
        (Nat.le_of_succ_le h) (Nat.le_of_succ_le hnatural) fun larger hle hlt => ?_
      have hmono := @halfEven_scale_mono exact (kept + 1) larger hlt
      omega

/-! ## Signs -/

theorem abs_signed {magnitude : ℚ} (h : 0 ≤ magnitude) (negative : Bool) :
    |signed negative magnitude| = magnitude := by
  cases negative with
  | true => exact (abs_neg magnitude).trans (abs_of_nonneg h)
  | false => exact abs_of_nonneg h

/-- The sign of a number that is not zero. -/
theorem signed_lt_zero {magnitude : ℚ} (h : 0 < magnitude) (negative : Bool) :
    negative = decide (signed negative magnitude < 0) := by
  cases negative with
  | true => exact (decide_eq_true (neg_neg_of_pos h)).symm
  | false => exact (decide_eq_false (not_lt.mpr h.le)).symm

theorem signed_zero (negative : Bool) : signed negative 0 = 0 := by
  cases negative with
  | true => exact neg_zero
  | false => rfl

theorem signed_mul (n m : Bool) (x y : ℚ) :
    signed n x * signed m y = signed (n ^^ m) (x * y) := by
  cases n <;> cases m <;> simp [signed]

theorem signed_add (n : Bool) (x y : ℚ) : signed n x + signed n y = signed n (x + y) := by
  cases n with
  | true => exact (neg_add x y).symm
  | false => rfl

theorem signed_sub {n m : Bool} (h : n ≠ m) (x y : ℚ) :
    signed n x + signed m y = signed n (x - y) := by
  cases n <;> cases m <;> simp_all [signed] <;> ring

/-! ## Reduction of a 256-bit magnitude -/

/-- What is removed from the digits is what the kept scale leaves of the scale. -/
theorem halfEven_signed (n : ℕ) {scale kept : ℕ} (hkept : kept ≤ scale) (negative : Bool) :
    halfEven (signed negative (n / 10 ^ scale) * 10 ^ kept) =
      roundDiv n (10 ^ (scale - kept)) := by
  have hnonneg : (0 : ℚ) ≤ n / 10 ^ scale := by positivity
  have hsplit : (10 : ℚ) ^ scale = 10 ^ (scale - kept) * 10 ^ kept := by
    rw [← pow_add, Nat.sub_add_cancel hkept]
  have hquotient : |signed negative (n / 10 ^ scale) * 10 ^ kept| =
      (n : ℚ) / ((10 ^ (scale - kept) : ℕ) : ℚ) := by
    rw [abs_mul, abs_signed hnonneg, abs_of_pos (by positivity), hsplit]
    push_cast
    field_simp
  apply halfEven_eq
  rw [hquotient]
  exact halfEven_roundDiv _ (Nat.pow_pos (by omega))

/-- The sign of a rounded number that is not zero is the sign of the number. -/
theorem sign_of_rounded {magnitude : ℚ} (h : 0 ≤ magnitude) {negative : Bool} {factor : ℚ}
    (hne : halfEven (signed negative magnitude * factor) ≠ 0) :
    negative = decide (signed negative magnitude < 0) := by
  apply signed_lt_zero
  refine lt_of_le_of_ne h fun hzero => hne ?_
  rw [← hzero, signed_zero, zero_mul, halfEven_zero]

/-- `from_wide` rounds the number that its digits stand for. -/
theorem fromWide_rounds (value : U256) (scale : ℕ) (negative : Bool) :
    Rounds (signed negative (value.toNat / 10 ^ scale)) scale
      (fromWide value scale negative) := by
  have hnonneg : (0 : ℚ) ≤ value.toNat / 10 ^ scale := by positivity
  unfold fromWide
  refine firstScale_rounds (fun kept h hmin => ?_) _ (Nat.min_le_right _ _) (by omega)
  have hscaled := @halfEven_signed value.toNat scale kept (by omega) negative
  obtain ⟨rounded, hrounded, hresult⟩ := U256.roundDivPowerOfTen_eq value (scale - kept)
  rw [← hresult] at hscaled
  unfold fromWideAttempt
  rw [hrounded]
  dsimp only
  by_cases hfits : rounded.fitsDecimalMantissa = true
  · have hlt := (U256.fitsDecimalMantissa_iff rounded).mp hfits
    have hword : rounded.toU128 = rounded.toNat := U256.toU128_eq (by omega)
    rw [dif_pos hfits, dif_pos (hscaled.trans_lt hlt)]
    refine congrArg (fun decimal => some (some decimal)) (canonical_congr ?_ fun hne => ?_)
    · rw [hword, hscaled]
    · rw [hword, ← hscaled] at hne
      exact sign_of_rounded hnonneg hne
  · have hlt := fun h => hfits ((U256.fitsDecimalMantissa_iff rounded).mpr h)
    rw [dif_neg hfits, dif_neg (hscaled ▸ hlt)]

/-! ## Arithmetic -/

/-- `checked_mul` rounds the exact product. -/
theorem checkedMul_rounds (a b : DotNetDecimal) : ∃ result, a.checkedMul b = .ok result ∧
    Rounds (a.value * b.value) (a.scale + b.scale) result := by
  have ha := a.mantissa_lt
  have hb := b.mantissa_lt
  obtain ⟨product, hproduct, hvalue⟩ :=
    U256.multiplyU128_eq (by omega : a.mantissa < 2 ^ 128) (by omega : b.mantissa < 2 ^ 128)
  refine ⟨fromWide product (a.scale + b.scale) (a.negative ^^ b.negative), ?_, ?_⟩
  · unfold checkedMul
    rw [hproduct]
    rfl
  · have hexact : a.value * b.value =
        signed (a.negative ^^ b.negative) (product.toNat / 10 ^ (a.scale + b.scale)) := by
      unfold value magnitude
      rw [signed_mul, hvalue, pow_add, div_mul_div_comm]
      push_cast
      rfl
    rw [hexact]
    exact fromWide_rounds product _ _

/-- A mantissa brought to a larger scale, as the 256-bit numbers hold it. -/
theorem aligned (self : DotNetDecimal) {scale : ℕ} (h : self.scale ≤ scale) (h28 : scale ≤ 28) :
    ∃ wide, (U256.fromU128 self.mantissa).checkedMulPowerOfTen (scale - self.scale) = some wide ∧
      wide.toNat = self.mantissa * 10 ^ (scale - self.scale) ∧ wide.toNat < 2 ^ 190 ∧
      self.value = signed self.negative (wide.toNat / 10 ^ scale) := by
  have hm := self.mantissa_lt
  have hword : (U256.fromU128 self.mantissa).toNat = self.mantissa :=
    U256.toNat_fromU128 (by omega)
  have hpow : 10 ^ (scale - self.scale) ≤ 10 ^ 28 :=
    Nat.pow_le_pow_right (by omega) (by omega)
  have hbound : self.mantissa * 10 ^ (scale - self.scale) < 2 ^ 190 := by
    calc self.mantissa * 10 ^ (scale - self.scale) ≤ (2 ^ 96 - 1) * 10 ^ 28 :=
          Nat.mul_le_mul (by omega) hpow
      _ < 2 ^ 190 := by norm_num
  obtain ⟨wide, hwide, hvalue⟩ := @U256.checkedMulPowerOfTen_eq (U256.fromU128 self.mantissa)
    (scale - self.scale) (by rw [hword]; omega)
  rw [hword] at hvalue
  refine ⟨wide, hwide, hvalue, hvalue ▸ hbound, ?_⟩
  have hsplit : (10 : ℚ) ^ scale = 10 ^ (scale - self.scale) * 10 ^ self.scale := by
    rw [← pow_add, Nat.sub_add_cancel h]
  unfold value magnitude
  rw [hvalue, hsplit]
  push_cast
  field_simp

/-- `checked_add` rounds the exact sum. -/
theorem checkedAdd_rounds (a b : DotNetDecimal) : ∃ result, a.checkedAdd b = .ok result ∧
    Rounds (a.value + b.value) (max a.scale b.scale) result := by
  have hle : max a.scale b.scale ≤ 28 := max_le a.scale_le b.scale_le
  obtain ⟨left, hleft, -, hleftLt, hleftValue⟩ := a.aligned (le_max_left _ _) hle
  obtain ⟨right, hright, -, hrightLt, hrightValue⟩ := b.aligned (le_max_right _ _) hle
  unfold checkedAdd
  dsimp only
  rw [hleft, hright, hleftValue, hrightValue]
  dsimp only [orNone]
  by_cases hsame : a.negative = b.negative
  · obtain ⟨sum, hsum, hvalue⟩ :=
      U256.checkedAdd_eq (by omega : left.toNat + right.toNat < 2 ^ 256)
    rw [if_pos hsame, hsum]
    refine ⟨_, rfl, ?_⟩
    have hround := fromWide_rounds sum (max a.scale b.scale) a.negative
    rw [hvalue] at hround
    rw [← hsame, signed_add, ← add_div]
    push_cast at hround
    exact hround
  · rw [if_neg hsame, U256.magnitudeCmp_eq]
    rcases Nat.lt_trichotomy left.toNat right.toNat with hless | hequal | hmore
    · -- the sign is that of the larger magnitude
      obtain ⟨difference, hdifference, hvalue⟩ := U256.checkedSub_eq hless.le
      rw [Nat.compare_eq_lt.mpr hless]
      dsimp only
      rw [hdifference]
      refine ⟨_, rfl, ?_⟩
      have hround := fromWide_rounds difference (max a.scale b.scale) b.negative
      rw [hvalue, Nat.cast_sub hless.le] at hround
      rw [add_comm, signed_sub (Ne.symm hsame), ← sub_div]
      exact hround
    · rw [Nat.compare_eq_eq.mpr hequal]
      refine ⟨_, rfl, ?_⟩
      rw [signed_sub hsame, hequal, sub_self, signed_zero]
      exact Rounds.zero _
    · obtain ⟨difference, hdifference, hvalue⟩ := U256.checkedSub_eq hmore.le
      rw [Nat.compare_eq_gt.mpr hmore]
      dsimp only
      rw [hdifference]
      refine ⟨_, rfl, ?_⟩
      have hround := fromWide_rounds difference (max a.scale b.scale) a.negative
      rw [hvalue, Nat.cast_sub hmore.le] at hround
      rw [signed_sub hsame, ← sub_div]
      exact hround

/-- The 256-bit steps of the arithmetic on two decimals compute the exact numbers: nothing is
lost in them, and a division by a power of ten rounds once. -/
structure ExactSteps (a b : DotNetDecimal) : Prop where
  multiply : ∃ product, U256.multiplyU128 a.mantissa b.mantissa = .ok product ∧
    product.toNat = a.mantissa * b.mantissa
  align : ∀ self ∈ [a, b], ∃ wide,
    (U256.fromU128 self.mantissa).checkedMulPowerOfTen (max a.scale b.scale - self.scale) =
      some wide ∧
    wide.toNat = self.mantissa * 10 ^ (max a.scale b.scale - self.scale)
  add : ∀ left right : U256,
    left.toNat = a.mantissa * 10 ^ (max a.scale b.scale - a.scale) →
    right.toNat = b.mantissa * 10 ^ (max a.scale b.scale - b.scale) →
      ∃ sum, left.checkedAdd right = some sum ∧ sum.toNat = left.toNat + right.toNat
  subtract : ∀ left right : U256, right.toNat ≤ left.toNat →
    ∃ difference, left.checkedSub right = .ok (some difference) ∧
      difference.toNat = left.toNat - right.toNat
  divide : ∀ (value : U256) (power : ℕ), ∃ rounded, value.roundDivPowerOfTen power = some rounded ∧
    HalfEven ((value.toNat : ℚ) / 10 ^ power) rounded.toNat

theorem exactSteps (a b : DotNetDecimal) : ExactSteps a b := by
  have ha := a.mantissa_lt
  have hb := b.mantissa_lt
  have hle : max a.scale b.scale ≤ 28 := max_le a.scale_le b.scale_le
  obtain ⟨wideA, hwideA, hvalueA, hltA, -⟩ := a.aligned (le_max_left _ _) hle
  obtain ⟨wideB, hwideB, hvalueB, hltB, -⟩ := b.aligned (le_max_right _ _) hle
  refine ⟨U256.multiplyU128_eq (by omega) (by omega), ?_, ?_, fun _ _ => U256.checkedSub_eq, ?_⟩
  · intro self hself
    rcases List.mem_cons.mp hself with rfl | hself
    · exact ⟨wideA, hwideA, hvalueA⟩
    · rw [List.mem_singleton.mp hself]
      exact ⟨wideB, hwideB, hvalueB⟩
  · intro left right hleft hright
    apply U256.checkedAdd_eq
    omega
  · intro value power
    obtain ⟨rounded, hrounded, hvalue⟩ := U256.roundDivPowerOfTen_eq value power
    refine ⟨rounded, hrounded, ?_⟩
    have hround := halfEven_roundDiv (K := ℚ) value.toNat
      (Nat.pow_pos (n := power) (by omega : 0 < 10))
    rw [hvalue]
    push_cast at hround
    exact hround

/-- **Multiplication and addition round once.** Both return the exact result rounded half to even
at the largest scale that fits, and nothing exactly where not even its whole part fits; they
are commutative, and every 256-bit step on the way is exact. -/
theorem arithmetic_rounds (a b : DotNetDecimal) :
    (∃ result, a.checkedMul b = .ok result ∧ b.checkedMul a = .ok result ∧
      Rounds (a.value * b.value) (a.scale + b.scale) result ∧
      (result = none ↔ 2 ^ 96 ≤ halfEven (a.value * b.value))) ∧
    (∃ result, a.checkedAdd b = .ok result ∧ b.checkedAdd a = .ok result ∧
      Rounds (a.value + b.value) (max a.scale b.scale) result ∧
      (result = none ↔ 2 ^ 96 ≤ halfEven (a.value + b.value))) ∧
    ExactSteps a b := by
  refine ⟨?_, ?_, exactSteps a b⟩
  · obtain ⟨result, hresult, hround⟩ := checkedMul_rounds a b
    obtain ⟨flipped, hflipped, hround'⟩ := checkedMul_rounds b a
    rw [mul_comm, Nat.add_comm] at hround'
    exact ⟨result, hresult, hround'.unique hround ▸ hflipped, hround, hround.none_iff⟩
  · obtain ⟨result, hresult, hround⟩ := checkedAdd_rounds a b
    obtain ⟨flipped, hflipped, hround'⟩ := checkedAdd_rounds b a
    rw [add_comm, Nat.max_comm] at hround'
    exact ⟨result, hresult, hround'.unique hround ▸ hflipped, hround, hround.none_iff⟩

end DotNetDecimal

end P4475
