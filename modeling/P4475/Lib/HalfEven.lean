import Mathlib.Algebra.Order.Field.Basic
import Mathlib.Algebra.Order.Ring.Abs
import Mathlib.Algebra.Ring.Parity
import Mathlib.Data.Nat.Cast.Order.Field
import Mathlib.Data.Rat.Cast.Order
import Mathlib.Tactic.FieldSimp
import Mathlib.Tactic.Linarith
import Mathlib.Tactic.Ring

/-!
# Rounding half to even

`HalfEven x n` says that `n` is the natural number nearest to `x`, and the even one where two are
equally near. It determines `n`, and it is monotone. `roundDiv` computes it for a quotient of
natural numbers, from the quotient and the remainder; `roundDiv_digit` computes it from the
first digit that is dropped and from whether anything is dropped behind it.
-/

namespace P4475.Lib

section Nearest

variable {K : Type*} [Field K] [LinearOrder K] [IsStrictOrderedRing K] {x y : K} {n m : ℕ}

/-- `n` is the natural number nearest to `x`, and even where two are as near. -/
structure HalfEven (x : K) (n : ℕ) : Prop where
  near : |x - n| ≤ 1 / 2
  tie : |x - n| = 1 / 2 → Even n

namespace HalfEven

theorem natCast (n : ℕ) : HalfEven (n : K) n := by
  refine ⟨?_, fun h => ?_⟩
  · rw [sub_self, abs_zero]
    positivity
  · rw [sub_self, abs_zero] at h
    exact absurd h.symm (by positivity)

/-- Rounding keeps the order. -/
theorem mono (hx : HalfEven x n) (hy : HalfEven y m) (h : x ≤ y) : n ≤ m := by
  by_contra hlt
  have hlt' : (m : K) + 1 ≤ n := by exact_mod_cast Nat.lt_of_not_le hlt
  have hx' := abs_le.mp hx.near
  have hy' := abs_le.mp hy.near
  -- there is room only for neighbours with both numbers in the middle, and one of them is odd
  have hxn : x - n = -(1 / 2) := by linarith
  have hym : y - m = 1 / 2 := by linarith
  have hnext : (n : K) = (m + 1 : ℕ) := by
    push_cast
    linarith
  have hn := hx.tie (by rw [hxn, abs_neg, abs_of_pos (by positivity)])
  have hm := hy.tie (by rw [hym, abs_of_pos (by positivity)])
  rw [Nat.cast_injective hnext] at hn
  exact (Nat.even_add_one.mp hn) hm

theorem unique (h : HalfEven x n) (h' : HalfEven x m) : n = m :=
  Nat.le_antisymm (h.mono h' le_rfl) (h'.mono h le_rfl)

/-- No natural number is nearer. -/
theorem nearest (h : HalfEven x n) (m : ℕ) : |x - n| ≤ |x - m| := by
  by_cases hm : m = n
  · rw [hm]
  · have hstep : (1 : K) ≤ |(n : K) - m| := by
      rcases Nat.lt_or_gt_of_ne hm with hlt | hgt
      · have hlt' : (m : K) + 1 ≤ n := by exact_mod_cast hlt
        exact le_trans (by linarith) (le_abs_self _)
      · have hgt' : (n : K) + 1 ≤ m := by exact_mod_cast hgt
        exact le_trans (by linarith) (neg_le_abs _)
    have htriangle := abs_sub_le (n : K) x m
    rw [abs_sub_comm (n : K) x] at htriangle
    have hnear := h.near
    linarith

/-- Where another number is as near, `n` is even. -/
theorem even_of_as_near (h : HalfEven x n) (hm : m ≠ n) (hnear : |x - m| = |x - n|) :
    Even n := by
  apply h.tie
  have hstep : (1 : K) ≤ |(n : K) - m| := by
    rcases Nat.lt_or_gt_of_ne hm with hlt | hgt
    · have hlt' : (m : K) + 1 ≤ n := by exact_mod_cast hlt
      exact le_trans (by linarith) (le_abs_self _)
    · have hgt' : (n : K) + 1 ≤ m := by exact_mod_cast hgt
      exact le_trans (by linarith) (neg_le_abs _)
  have htriangle := abs_sub_le (n : K) x m
  rw [abs_sub_comm (n : K) x] at htriangle
  have hle := h.near
  linarith

end HalfEven

end Nearest

section Quotients

/-- The quotient of two natural numbers, rounded half to even. -/
def roundDiv (n d : ℕ) : ℕ :=
  if d < 2 * (n % d) ∨ (2 * (n % d) = d ∧ n / d % 2 = 1) then n / d + 1 else n / d

theorem roundDiv_one (n : ℕ) : roundDiv n 1 = n := by
  unfold roundDiv
  rw [Nat.mod_one, Nat.div_one, if_neg (by omega)]

variable {K : Type*} [Field K] [LinearOrder K] [IsStrictOrderedRing K]

theorem halfEven_roundDiv (n : ℕ) {d : ℕ} (hd : 0 < d) :
    HalfEven ((n : K) / d) (roundDiv n d) := by
  have hdK : (0 : K) < d := by exact_mod_cast hd
  have hsplit : (n : K) / d = (n / d : ℕ) + ((n % d : ℕ) : K) / d := by
    have hn : ((d * (n / d) + n % d : ℕ) : K) = n := by rw [Nat.div_add_mod]
    push_cast at hn
    rw [← hn]
    field_simp
  have hlt : (n % d : ℕ) < d := Nat.mod_lt n hd
  have hpos : (0 : K) ≤ ((n % d : ℕ) : K) / d := by positivity
  unfold roundDiv
  by_cases hup : d < 2 * (n % d) ∨ (2 * (n % d) = d ∧ n / d % 2 = 1)
  · rw [if_pos hup, hsplit]
    have hhalf : (1 : K) / 2 ≤ ((n % d : ℕ) : K) / d := by
      rw [div_le_div_iff₀ two_pos hdK]
      have : d ≤ (n % d) * 2 := by omega
      calc (1 : K) * d = d := one_mul _
        _ ≤ ((n % d * 2 : ℕ) : K) := by exact_mod_cast this
        _ = ((n % d : ℕ) : K) * 2 := by push_cast; rfl
    have hone : ((n % d : ℕ) : K) / d ≤ 1 := by
      rw [div_le_one hdK]
      exact_mod_cast hlt.le
    have habs : |((n / d : ℕ) : K) + ((n % d : ℕ) : K) / d - ((n / d + 1 : ℕ) : K)| =
        1 - ((n % d : ℕ) : K) / d := by
      push_cast
      rw [abs_of_nonpos (by linarith)]
      ring
    refine ⟨by rw [habs]; linarith, fun htie => ?_⟩
    rw [habs] at htie
    -- a tie leaves the remainder at one half, so the quotient was odd
    have hmid : ((n % d : ℕ) : K) / d = 1 / 2 := by linarith
    rw [div_eq_div_iff hdK.ne' two_ne_zero] at hmid
    have hmid' : n % d * 2 = 1 * d := by exact_mod_cast hmid
    have hodd : n / d % 2 = 1 := by omega
    exact Nat.even_iff.mpr (by omega)
  · rw [if_neg hup, hsplit]
    push Not at hup
    have hhalf : ((n % d : ℕ) : K) / d ≤ 1 / 2 := by
      rw [div_le_div_iff₀ hdK two_pos]
      have : n % d * 2 ≤ 1 * d := by omega
      exact_mod_cast this
    have habs : |((n / d : ℕ) : K) + ((n % d : ℕ) : K) / d - ((n / d : ℕ) : K)| =
        ((n % d : ℕ) : K) / d := by
      rw [add_sub_cancel_left, abs_of_nonneg hpos]
    refine ⟨by rw [habs]; exact hhalf, fun htie => ?_⟩
    rw [habs, div_eq_div_iff hdK.ne' two_ne_zero] at htie
    have hmid : n % d * 2 = 1 * d := by exact_mod_cast htie
    have heven := hup.2 (by omega)
    exact Nat.even_iff.mpr (by omega)

/-- Rounding to a multiple of an even base, from the dropped digit and from what is below it. -/
theorem roundDiv_digit {q half digit unit low : ℕ} (hdigit : digit < 2 * half)
    (hlow : low < unit) :
    roundDiv ((q * (2 * half) + digit) * unit + low) (2 * half * unit) =
      if half < digit ∨ (digit = half ∧ (low ≠ 0 ∨ q % 2 = 1)) then q + 1 else q := by
  have hform : (q * (2 * half) + digit) * unit + low =
      digit * unit + low + 2 * half * unit * q := by ring
  have hbelow : digit * unit + low < 2 * half * unit := by
    calc digit * unit + low < digit * unit + unit := by omega
      _ = (digit + 1) * unit := by ring
      _ ≤ 2 * half * unit := Nat.mul_le_mul_right _ hdigit
  have hmod : ((q * (2 * half) + digit) * unit + low) % (2 * half * unit) =
      digit * unit + low := by
    rw [hform, Nat.add_mul_mod_self_left, Nat.mod_eq_of_lt hbelow]
  have hdiv : ((q * (2 * half) + digit) * unit + low) / (2 * half * unit) = q := by
    rw [hform, Nat.add_mul_div_left _ _ (by omega), Nat.div_eq_of_lt hbelow, Nat.zero_add]
  unfold roundDiv
  rw [hmod, hdiv]
  refine if_congr ?_ rfl rfl
  -- compare the digit with one half: the rest decides only where they agree
  rcases Nat.lt_trichotomy digit half with hless | hsame | hmore
  · have hmul : (digit + 1) * unit ≤ half * unit := Nat.mul_le_mul_right _ hless
    have hexpand : (digit + 1) * unit = digit * unit + unit := by ring
    have hassoc : 2 * half * unit = 2 * (half * unit) := by ring
    omega
  · subst hsame
    have hassoc : 2 * digit * unit = 2 * (digit * unit) := by ring
    omega
  · have hmul : (half + 1) * unit ≤ digit * unit := Nat.mul_le_mul_right _ hmore
    have hexpand : (half + 1) * unit = half * unit + unit := by ring
    have hassoc : 2 * half * unit = 2 * (half * unit) := by ring
    omega

/-- The natural number nearest to the magnitude of a rational one. -/
def halfEven (x : ℚ) : ℕ := roundDiv x.num.natAbs x.den

theorem halfEven_spec (x : ℚ) : HalfEven |x| (halfEven x) := by
  have habs : |x| = ((x.num.natAbs : ℕ) : ℚ) / (x.den : ℕ) := by
    rw [Nat.cast_natAbs, Int.cast_abs]
    conv_lhs => rw [← Rat.num_div_den x]
    rw [abs_div, Nat.abs_cast]
  rw [habs]
  exact halfEven_roundDiv _ x.den_pos

theorem halfEven_eq {x : ℚ} {n : ℕ} (h : HalfEven |x| n) : halfEven x = n :=
  (halfEven_spec x).unique h

theorem halfEven_natCast (n : ℕ) : halfEven (n : ℚ) = n := by
  apply halfEven_eq
  rw [Nat.abs_cast]
  exact HalfEven.natCast n

theorem halfEven_zero : halfEven 0 = 0 := halfEven_natCast 0

theorem halfEven_mono {x y : ℚ} (h : |x| ≤ |y|) : halfEven x ≤ halfEven y :=
  (halfEven_spec x).mono (halfEven_spec y) h

end Quotients

end P4475.Lib
