import Mathlib.Algebra.Order.Field.Power
import P4475.Lib.HalfEven

/-!
# Single-precision numbers

A Rust `f32` as its bits, and the rational number that they stand for. A number rounded half to
even to 24 binary digits in its own binade is the nearest of all of them.
-/

namespace P4475

open Lib

/-- `f32`. -/
structure Single where
  bits : UInt32
  deriving DecidableEq

namespace Single

/-- The sign bit. -/
def negative (self : Single) : Bool := decide (2 ^ 31 ≤ self.bits.toNat)

/-- The eight exponent bits. -/
def exponentField (self : Single) : ℕ := self.bits.toNat / 2 ^ 23 % 2 ^ 8

/-- The fraction bits. -/
def fraction (self : Single) : ℕ := self.bits.toNat % 2 ^ 23

/-- The significand; the leading one is not stored, and subnormal numbers have none. -/
def significand (self : Single) : ℕ :=
  if self.exponentField = 0 then self.fraction else 2 ^ 23 + self.fraction

/-- The exponent of the last bit of the significand. -/
def unitExponent (self : Single) : ℤ := max 1 self.exponentField - 150

def magnitude (self : Single) : ℚ := self.significand * 2 ^ self.unitExponent

/-- The number that the bits of a finite single stand for. -/
def toRat (self : Single) : ℚ := if self.negative then -self.magnitude else self.magnitude

/-- Neither infinite nor a NaN. -/
def Finite (self : Single) : Prop := self.exponentField < 255

/-- A single is nearest to a number where no finite one is nearer, and of two as near it is the
one whose last bit is zero. -/
structure Nearest (x : ℚ) (self : Single) : Prop where
  finite : self.Finite
  near : ∀ other : Single, other.Finite → |x - self.toRat| ≤ |x - other.toRat|
  tie : ∀ other : Single, other.Finite → other.toRat ≠ self.toRat →
    |x - other.toRat| = |x - self.toRat| → self.significand % 2 = 0

theorem significand_lt (self : Single) : self.significand < 2 ^ 24 := by
  unfold significand fraction
  have hmod := Nat.mod_lt self.bits.toNat (Nat.two_pow_pos 23)
  by_cases hsub : self.exponentField = 0
  · rw [if_pos hsub]
    omega
  · rw [if_neg hsub]
    omega

theorem magnitude_nonneg (self : Single) : 0 ≤ self.magnitude := by
  unfold magnitude
  positivity

/-- A single is a whole number of units of a finer binade, or below the binade. -/
theorem magnitude_cases (self : Single) (e : ℤ) :
    (∃ m : ℕ, self.magnitude = m * 2 ^ (e - 23)) ∨ self.magnitude < 2 ^ e := by
  rcases le_or_gt (e - 23) self.unitExponent with hcoarse | hfine
  · left
    obtain ⟨n, hn⟩ := Int.le.dest hcoarse
    refine ⟨self.significand * 2 ^ n, ?_⟩
    unfold magnitude
    rw [← hn, zpow_add₀ two_ne_zero, zpow_natCast]
    push_cast
    ring
  · right
    have hlt : (self.significand : ℚ) < 2 ^ (24 : ℤ) := by exact_mod_cast self.significand_lt
    have hpos : (0 : ℚ) < 2 ^ self.unitExponent := by positivity
    unfold magnitude
    calc (self.significand : ℚ) * 2 ^ self.unitExponent < 2 ^ (24 : ℤ) * 2 ^ self.unitExponent :=
          mul_lt_mul_of_pos_right hlt hpos
      _ = 2 ^ (24 + self.unitExponent) := (zpow_add₀ two_ne_zero _ _).symm
      _ ≤ 2 ^ e := zpow_le_zpow_right₀ one_le_two (by omega)

/-- Numbers of one sign are as far apart as their magnitudes; of two signs, farther apart than
the first from zero. -/
theorem distance (negative : Bool) {x : ℚ} (hx : 0 ≤ x) (other : Single) :
    (|(if negative then -x else x) - other.toRat| = |x - other.magnitude| ∧
        other.toRat = if negative then -other.magnitude else other.magnitude) ∨
      |(if negative then -x else x) - other.toRat| = x + other.magnitude := by
  have hm := other.magnitude_nonneg
  unfold toRat
  cases negative with
  | false =>
    cases other.negative with
    | false => exact Or.inl ⟨rfl, rfl⟩
    | true =>
      right
      show |x - -other.magnitude| = _
      rw [sub_neg_eq_add, abs_of_nonneg (by linarith)]
  | true =>
    cases other.negative with
    | false =>
      right
      show |-x - other.magnitude| = _
      rw [abs_of_nonpos (by linarith)]
      ring
    | true =>
      left
      refine ⟨?_, rfl⟩
      show |-x - -other.magnitude| = _
      rw [neg_sub_neg, abs_sub_comm]

/-- **Rounding in the right binade is nearest.** -/
theorem nearest_of_halfEven {self : Single} {x : ℚ} {e : ℤ} {n : ℕ} (hfinite : self.Finite)
    (hbinade : 2 ^ e ≤ x) (hround : HalfEven (x * 2 ^ (23 - e)) n)
    (hvalue : self.magnitude = n * 2 ^ (e - 23)) (heven : Even n → self.significand % 2 = 0) :
    Nearest (if self.negative then -x else x) self := by
  have hunit : (0 : ℚ) < 2 ^ (e - 23) := by positivity
  have hinverse : (2 : ℚ) ^ (23 - e) * 2 ^ (e - 23) = 1 := by
    rw [← zpow_add₀ two_ne_zero]
    have : 23 - e + (e - 23) = 0 := by ring
    rw [this, zpow_zero]
  have hpow : (2 : ℚ) ^ e = (2 ^ 23 : ℕ) * 2 ^ (e - 23) := by
    calc (2 : ℚ) ^ e = 2 ^ ((23 : ℕ) : ℤ) * 2 ^ (e - 23) := by
          rw [← zpow_add₀ two_ne_zero]
          congr 1
          push_cast
          ring
      _ = (2 ^ 23 : ℕ) * 2 ^ (e - 23) := by
          rw [zpow_natCast]
          norm_num
  have hxpos : 0 < x := lt_of_lt_of_le (by positivity) hbinade
  -- distances are counted in units of the binade
  have hcount : ∀ m : ℕ, |x - m * 2 ^ (e - 23)| = |x * 2 ^ (23 - e) - m| * 2 ^ (e - 23) := by
    intro m
    rw [← abs_of_pos hunit, ← abs_mul, abs_of_pos hunit, sub_mul, mul_assoc, hinverse, mul_one]
  have hown : |(if self.negative then -x else x) - self.toRat| =
      |x * 2 ^ (23 - e) - n| * 2 ^ (e - 23) := by
    rw [← hcount, ← hvalue]
    unfold toRat
    cases self.negative with
    | false => rfl
    | true =>
      show |-x - -self.magnitude| = _
      rw [neg_sub_neg, abs_sub_comm]
  have hbase := mul_le_mul_of_nonneg_right (hround.nearest (2 ^ 23)) hunit.le
  rw [← hown, ← hcount, ← hpow, abs_of_nonneg (sub_nonneg.mpr hbinade)] at hbase
  have hhalf := mul_le_mul_of_nonneg_right hround.near hunit.le
  rw [← hown] at hhalf
  have hunitLt : (1 : ℚ) / 2 * 2 ^ (e - 23) < x := by
    have : (1 : ℚ) / 2 * 2 ^ (e - 23) < 2 ^ 23 * 2 ^ (e - 23) := by
      apply mul_lt_mul_of_pos_right _ hunit
      norm_num
    rw [hpow] at hbinade
    push_cast at hbinade
    linarith
  -- every other finite single is on the grid of the binade, or farther away than its start
  have hother : ∀ other : Single,
      (∃ m : ℕ, |(if self.negative then -x else x) - other.toRat| =
          |x * 2 ^ (23 - e) - m| * 2 ^ (e - 23) ∧ other.magnitude = m * 2 ^ (e - 23) ∧
          other.toRat = if self.negative then -other.magnitude else other.magnitude) ∨
        |(if self.negative then -x else x) - self.toRat| <
          |(if self.negative then -x else x) - other.toRat| := by
    intro other
    have hm := other.magnitude_nonneg
    rcases distance self.negative hxpos.le other with ⟨hsame, hsign⟩ | hacross
    · rcases other.magnitude_cases e with ⟨m, hgrid⟩ | hbelow
      · left
        refine ⟨m, ?_, hgrid, hsign⟩
        rw [hsame, hgrid, hcount]
      · right
        have hpos : 0 < x - other.magnitude := by linarith
        rw [hsame, abs_of_pos hpos]
        linarith
    · right
      rw [hacross]
      linarith
  refine ⟨hfinite, fun other _ => ?_, fun other _ hne hequal => ?_⟩
  · rcases hother other with ⟨m, hm, -⟩ | hfar
    · rw [hown, hm]
      exact mul_le_mul_of_nonneg_right (hround.nearest m) hunit.le
    · exact hfar.le
  · rcases hother other with ⟨m, hm, hmagnitude, hsign⟩ | hfar
    · apply heven
      rw [hown, hm] at hequal
      refine hround.even_of_as_near (m := m) (fun hmn => hne ?_)
        (mul_right_cancel₀ hunit.ne' hequal)
      rw [hsign, hmagnitude, hmn, ← hvalue]
      rfl
    · exact absurd hequal hfar.ne'

/-! ## The fields -/

/-- The bits of a sign, a biased exponent and the fraction bits. -/
def pack (negative : Bool) (biased fraction : ℕ) : Single :=
  ⟨UInt32.ofNat ((negative.toNat <<< 31) ||| (biased <<< 23) ||| fraction)⟩

theorem toNat_pack (negative : Bool) {biased fraction : ℕ} (hb : biased < 2 ^ 8)
    (hf : fraction < 2 ^ 23) : (pack negative biased fraction).bits.toNat =
      negative.toNat * 2 ^ 31 + biased * 2 ^ 23 + fraction := by
  have hsign := Bool.toNat_le negative
  have hhigh : biased <<< 23 < 2 ^ 31 := by
    rw [Nat.shiftLeft_eq]
    omega
  have hwide : negative.toNat * 2 ^ 31 + biased * 2 ^ 23 + fraction < 2 ^ 32 := by omega
  have hlow : negative.toNat * 2 ^ 31 + biased * 2 ^ 23 =
      (negative.toNat * 2 ^ 8 + biased) <<< 23 := by
    rw [Nat.shiftLeft_eq]
    omega
  show (UInt32.ofNat _).toNat = _
  rw [UInt32.toNat_ofNat', ← Nat.shiftLeft_add_eq_or_of_lt hhigh, Nat.shiftLeft_eq,
    Nat.shiftLeft_eq, hlow, ← Nat.shiftLeft_add_eq_or_of_lt hf, ← hlow]
  exact Nat.mod_eq_of_lt hwide

section Fields

variable (negative : Bool) {biased fraction : ℕ} (hb : biased < 2 ^ 8) (hf : fraction < 2 ^ 23)

include hb hf

theorem negative_pack : (pack negative biased fraction).negative = negative := by
  unfold Single.negative
  rw [toNat_pack negative hb hf]
  cases negative with
  | true =>
    rw [Bool.toNat_true]
    exact decide_eq_true (by omega)
  | false =>
    rw [Bool.toNat_false]
    exact decide_eq_false (by omega)

theorem exponentField_pack : (pack negative biased fraction).exponentField = biased := by
  have hsign := Bool.toNat_le negative
  unfold exponentField
  rw [toNat_pack negative hb hf]
  omega

theorem fraction_pack : (pack negative biased fraction).fraction = fraction := by
  unfold Single.fraction
  rw [toNat_pack negative hb hf]
  omega

end Fields

end Single

end P4475
