import Mathlib.Data.Nat.Size
import Mathlib.Tactic.Linarith
import Mathlib.Tactic.Ring

/-!
# Numbers as words

A natural number as a little-endian list of words of `w` bits, and the school-book operations on
such lists, each with the equation between the values that says it is exact. What leaves the
last word is returned as a carry; an operation that has nowhere to put it fails.
-/

namespace P4475.Lib.Limbs

variable {w : ℕ}

/-- The number that the words stand for, the lowest first. -/
def value : List (BitVec w) → ℕ
  | [] => 0
  | x :: rest => x.toNat + 2 ^ w * value rest

theorem value_lt (xs : List (BitVec w)) : value xs < 2 ^ (w * xs.length) := by
  induction xs with
  | nil => exact Nat.one_pos
  | cons x rest ih =>
    have hx := x.isLt
    have hpow : 2 ^ (w * (x :: rest).length) = 2 ^ w * 2 ^ (w * rest.length) := by
      rw [List.length_cons, Nat.mul_succ, Nat.add_comm, Nat.pow_add]
    have hmul : 2 ^ w * (value rest + 1) ≤ 2 ^ w * 2 ^ (w * rest.length) :=
      Nat.mul_le_mul_left _ ih
    rw [hpow]
    show x.toNat + 2 ^ w * value rest < _
    have hexpand : 2 ^ w * (value rest + 1) = 2 ^ w * value rest + 2 ^ w := Nat.mul_succ _ _
    omega

/-- A word and a number above it are in lexicographic order, the number first. -/
theorem cons_lt_cons {x y m n : ℕ} (hx : x < 2 ^ w) (h : m < n) :
    x + 2 ^ w * m < y + 2 ^ w * n := by
  have hmul : 2 ^ w * (m + 1) ≤ 2 ^ w * n := Nat.mul_le_mul_left _ h
  have hexpand : 2 ^ w * (m + 1) = 2 ^ w * m + 2 ^ w := Nat.mul_succ _ _
  omega

/-- As many words with the same value are the same words. -/
theorem value_inj {xs ys : List (BitVec w)} (hlen : xs.length = ys.length)
    (h : value xs = value ys) : xs = ys := by
  induction xs generalizing ys with
  | nil => exact (List.length_eq_zero_iff.mp hlen.symm).symm
  | cons x xs ih =>
    cases ys with
    | nil => cases hlen
    | cons y ys =>
      have hvalue : x.toNat + 2 ^ w * value xs = y.toNat + 2 ^ w * value ys := h
      rcases Nat.lt_trichotomy (value xs) (value ys) with hless | hsame | hmore
      · have := cons_lt_cons (y := y.toNat) x.isLt hless
        omega
      · rw [hsame] at hvalue
        have hword : x = y := BitVec.eq_of_toNat_eq (by omega)
        rw [ih (Nat.succ.inj hlen) hsame, hword]
      · have := cons_lt_cons (y := x.toNat) y.isLt hmore
        omega

/-- A number is its low word and what is shifted out of it. -/
theorem ofNat_add_shift (n : ℕ) : (BitVec.ofNat w n).toNat + 2 ^ w * (n >>> w) = n := by
  rw [BitVec.toNat_ofNat, Nat.shiftRight_eq_div_pow]
  exact Nat.mod_add_div n (2 ^ w)

theorem value_replicate_zero (n : ℕ) : value (List.replicate n (0 : BitVec w)) = 0 := by
  induction n with
  | zero => rfl
  | succ n ih =>
    show (0 : BitVec w).toNat + 2 ^ w * value (List.replicate n 0) = 0
    rw [ih]
    rfl

/-! ## Addition and subtraction -/

/-- `overflowing_add`. -/
def overflowingAdd (x y : BitVec w) : BitVec w × Bool := (x + y, decide (2 ^ w ≤ x.toNat + y.toNat))

/-- `overflowing_sub`. -/
def overflowingSub (x y : BitVec w) : BitVec w × Bool := (x - y, decide (x.toNat < y.toNat))

/-- The carry as a word. -/
def carryWord (carry : Bool) : BitVec w := BitVec.ofNat w carry.toNat

/-- Word by word from the lowest; the carry of the last word is returned. -/
def add : (carry : Bool) → List (BitVec w) → List (BitVec w) → List (BitVec w) × Bool
  | carry, x :: xs, y :: ys =>
    let first := overflowingAdd x y
    let second := overflowingAdd first.1 (carryWord carry)
    let rest := add (first.2 || second.2) xs ys
    (second.1 :: rest.1, rest.2)
  | carry, _, _ => ([], carry)

/-- Word by word from the lowest; the borrow of the last word is returned. -/
def sub : (borrow : Bool) → List (BitVec w) → List (BitVec w) → List (BitVec w) × Bool
  | borrow, x :: xs, y :: ys =>
    let first := overflowingSub x y
    let second := overflowingSub first.1 (carryWord borrow)
    let rest := sub (first.2 || second.2) xs ys
    (second.1 :: rest.1, rest.2)
  | borrow, _, _ => ([], borrow)

theorem toNat_overflowingAdd (x y : BitVec w) :
    (overflowingAdd x y).1.toNat + 2 ^ w * (overflowingAdd x y).2.toNat = x.toNat + y.toNat := by
  have hx := x.isLt
  have hy := y.isLt
  unfold overflowingAdd
  rw [BitVec.toNat_add]
  by_cases hover : 2 ^ w ≤ x.toNat + y.toNat
  · rw [decide_eq_true hover, Bool.toNat_true, Nat.mod_eq_sub_mod hover, Nat.mod_eq_of_lt (by omega)]
    omega
  · rw [decide_eq_false hover, Bool.toNat_false, Nat.mod_eq_of_lt (by omega)]
    omega

theorem toNat_overflowingSub (x y : BitVec w) :
    (overflowingSub x y).1.toNat + y.toNat =
      x.toNat + 2 ^ w * (overflowingSub x y).2.toNat := by
  have hx := x.isLt
  have hy := y.isLt
  unfold overflowingSub
  rw [BitVec.toNat_sub]
  by_cases hunder : x.toNat < y.toNat
  · rw [decide_eq_true hunder, Bool.toNat_true, Nat.mod_eq_of_lt (by omega)]
    omega
  · have hform : 2 ^ w - y.toNat + x.toNat = 2 ^ w + (x.toNat - y.toNat) := by omega
    rw [decide_eq_false hunder, Bool.toNat_false, hform, Nat.add_mod_left,
      Nat.mod_eq_of_lt (by omega)]
    omega

theorem toNat_carryWord (hw : 0 < w) (carry : Bool) :
    (carryWord carry : BitVec w).toNat = carry.toNat := by
  unfold carryWord
  rw [BitVec.toNat_ofNat]
  exact Nat.mod_eq_of_lt (lt_of_le_of_lt (Bool.toNat_le carry) (Nat.one_lt_two_pow (by omega)))

/-- Two carries of one word are never both set, so their disjunction is their sum. -/
theorem toNat_or {a b : Bool} (h : a.toNat + b.toNat ≤ 1) :
    (a || b).toNat = a.toNat + b.toNat := by
  cases a <;> cases b <;> simp_all

theorem le_one_of_mul_lt {b n : ℕ} (h : b * n < b * 2) : n ≤ 1 :=
  Nat.le_of_lt_succ (Nat.lt_of_mul_lt_mul_left h)

theorem value_add (hw : 0 < w) (carry : Bool) {xs ys : List (BitVec w)}
    (hlen : xs.length = ys.length) : (add carry xs ys).1.length = xs.length ∧
    value (add carry xs ys).1 + 2 ^ (w * xs.length) * (add carry xs ys).2.toNat =
      value xs + value ys + carry.toNat := by
  induction xs generalizing carry ys with
  | nil =>
    cases ys with
    | nil => exact ⟨rfl, by simp [add, value]⟩
    | cons y ys => cases hlen
  | cons x xs ih =>
    cases ys with
    | nil => cases hlen
    | cons y ys =>
      have hfirst := toNat_overflowingAdd x y
      have hsecond := toNat_overflowingAdd (overflowingAdd x y).1 (carryWord carry)
      rw [toNat_carryWord hw] at hsecond
      have hx := x.isLt
      have hy := y.isLt
      have hout := (overflowingAdd (overflowingAdd x y).1 (carryWord carry)).1.isLt
      have hcarry := Bool.toNat_le carry
      have hone : (overflowingAdd x y).2.toNat +
          (overflowingAdd (overflowingAdd x y).1 (carryWord carry)).2.toNat ≤ 1 := by
        apply le_one_of_mul_lt (b := 2 ^ w)
        rw [Nat.mul_add]
        omega
      obtain ⟨hlength, hrest⟩ := ih ((overflowingAdd x y).2 ||
        (overflowingAdd (overflowingAdd x y).1 (carryWord carry)).2) (Nat.succ.inj hlen)
      rw [toNat_or hone] at hrest
      refine ⟨congrArg Nat.succ hlength, ?_⟩
      have hpow : 2 ^ (w * (x :: xs).length) = 2 ^ w * 2 ^ (w * xs.length) := by
        rw [List.length_cons, Nat.mul_succ, Nat.add_comm, Nat.pow_add]
      rw [hpow]
      show (overflowingAdd (overflowingAdd x y).1 (carryWord carry)).1.toNat +
          2 ^ w * value (add ((overflowingAdd x y).2 ||
            (overflowingAdd (overflowingAdd x y).1 (carryWord carry)).2) xs ys).1 +
          2 ^ w * 2 ^ (w * xs.length) * (add ((overflowingAdd x y).2 ||
            (overflowingAdd (overflowingAdd x y).1 (carryWord carry)).2) xs ys).2.toNat =
        x.toNat + 2 ^ w * value xs + (y.toNat + 2 ^ w * value ys) + carry.toNat
      have hmul := congrArg (2 ^ w * ·) hrest
      simp only [Nat.mul_add, ← Nat.mul_assoc] at hmul
      omega

theorem value_sub (hw : 0 < w) (borrow : Bool) {xs ys : List (BitVec w)}
    (hlen : xs.length = ys.length) : (sub borrow xs ys).1.length = xs.length ∧
    value (sub borrow xs ys).1 + value ys + borrow.toNat =
      value xs + 2 ^ (w * xs.length) * (sub borrow xs ys).2.toNat := by
  induction xs generalizing borrow ys with
  | nil =>
    cases ys with
    | nil => exact ⟨rfl, by simp [sub, value]⟩
    | cons y ys => cases hlen
  | cons x xs ih =>
    cases ys with
    | nil => cases hlen
    | cons y ys =>
      have hfirst := toNat_overflowingSub x y
      have hsecond := toNat_overflowingSub (overflowingSub x y).1 (carryWord borrow)
      rw [toNat_carryWord hw] at hsecond
      have hx := x.isLt
      have hy := y.isLt
      have hout := (overflowingSub (overflowingSub x y).1 (carryWord borrow)).1.isLt
      have hborrow := Bool.toNat_le borrow
      have hone : (overflowingSub x y).2.toNat +
          (overflowingSub (overflowingSub x y).1 (carryWord borrow)).2.toNat ≤ 1 := by
        apply le_one_of_mul_lt (b := 2 ^ w)
        rw [Nat.mul_add]
        omega
      obtain ⟨hlength, hrest⟩ := ih ((overflowingSub x y).2 ||
        (overflowingSub (overflowingSub x y).1 (carryWord borrow)).2) (Nat.succ.inj hlen)
      rw [toNat_or hone] at hrest
      refine ⟨congrArg Nat.succ hlength, ?_⟩
      have hpow : 2 ^ (w * (x :: xs).length) = 2 ^ w * 2 ^ (w * xs.length) := by
        rw [List.length_cons, Nat.mul_succ, Nat.add_comm, Nat.pow_add]
      rw [hpow]
      show (overflowingSub (overflowingSub x y).1 (carryWord borrow)).1.toNat +
          2 ^ w * value (sub ((overflowingSub x y).2 ||
            (overflowingSub (overflowingSub x y).1 (carryWord borrow)).2) xs ys).1 +
          (y.toNat + 2 ^ w * value ys) + borrow.toNat =
        x.toNat + 2 ^ w * value xs + 2 ^ w * 2 ^ (w * xs.length) *
          (sub ((overflowingSub x y).2 ||
            (overflowingSub (overflowingSub x y).1 (carryWord borrow)).2) xs ys).2.toNat
      have hmul := congrArg (2 ^ w * ·) hrest
      simp only [Nat.mul_add, ← Nat.mul_assoc] at hmul
      omega

/-! ## Comparison and size -/

/-- From the highest word down: the first difference decides. -/
def magnitudeCmp : List (BitVec w) → List (BitVec w) → Ordering
  | x :: xs, y :: ys => (magnitudeCmp xs ys).then (compare x.toNat y.toNat)
  | _, _ => .eq

theorem magnitudeCmp_eq {xs ys : List (BitVec w)} (hlen : xs.length = ys.length) :
    magnitudeCmp xs ys = compare (value xs) (value ys) := by
  induction xs generalizing ys with
  | nil =>
    cases ys with
    | nil => exact (Nat.compare_eq_eq.mpr rfl).symm
    | cons y ys => cases hlen
  | cons x xs ih =>
    cases ys with
    | nil => cases hlen
    | cons y ys =>
      show (magnitudeCmp xs ys).then (compare x.toNat y.toNat) =
        compare (x.toNat + 2 ^ w * value xs) (y.toNat + 2 ^ w * value ys)
      rw [ih (Nat.succ.inj hlen)]
      rcases Nat.lt_trichotomy (value xs) (value ys) with hless | hsame | hmore
      · rw [Nat.compare_eq_lt.mpr hless, Nat.compare_eq_lt.mpr (cons_lt_cons x.isLt hless)]
        rfl
      · rw [Nat.compare_eq_eq.mpr hsame, hsame]
        show compare x.toNat y.toNat = _
        rcases Nat.lt_trichotomy x.toNat y.toNat with hx | hx | hx
        · rw [Nat.compare_eq_lt.mpr hx, Nat.compare_eq_lt.mpr (by omega)]
        · rw [Nat.compare_eq_eq.mpr hx, Nat.compare_eq_eq.mpr (by omega)]
        · rw [Nat.compare_eq_gt.mpr hx, Nat.compare_eq_gt.mpr (by omega)]
      · rw [Nat.compare_eq_gt.mpr hmore, Nat.compare_eq_gt.mpr (cons_lt_cons y.isLt hmore)]
        rfl

/-- `leading_zeros`. -/
def leadingZeros (x : BitVec w) : ℕ := w - x.toNat.size

/-- The bits up to the highest one of the highest word that is not zero. -/
def bitLength : List (BitVec w) → ℕ
  | [] => 0
  | x :: rest =>
    if bitLength rest ≠ 0 then bitLength rest + w
    else if x ≠ 0 then w - leadingZeros x else 0

theorem bitLength_eq (xs : List (BitVec w)) : bitLength xs = (value xs).size := by
  induction xs with
  | nil => rfl
  | cons x rest ih =>
    unfold bitLength
    rw [ih]
    show _ = (x.toNat + 2 ^ w * value rest).size
    by_cases hrest : value rest = 0
    · rw [hrest, Nat.size_zero, if_neg (by omega), Nat.mul_zero, Nat.add_zero]
      by_cases hx : x = 0
      · rw [if_neg (by rw [hx]; simp), hx]
        exact Nat.size_zero.symm
      · rw [if_pos hx]
        have hsize : x.toNat.size ≤ w := Nat.size_le.mpr x.isLt
        unfold leadingZeros
        omega
    · have hpos : 0 < value rest := Nat.pos_of_ne_zero hrest
      rw [if_pos (Nat.size_pos.mpr hpos).ne']
      apply Nat.le_antisymm
      · -- the highest bit of the rest is in place `size - 1`, and `w` higher in the whole
        have hbit : 2 ^ ((value rest).size - 1) ≤ value rest :=
          Nat.lt_size.mp (Nat.sub_one_lt (Nat.size_pos.mpr hpos).ne')
        have hmul := Nat.mul_le_mul_left (2 ^ w) hbit
        rw [← Nat.pow_add] at hmul
        have hlt : w + ((value rest).size - 1) < (x.toNat + 2 ^ w * value rest).size :=
          Nat.lt_size.mpr (by omega)
        omega
      · apply Nat.size_le.mpr
        have hlt := cons_lt_cons (y := 0) x.isLt (Nat.lt_size_self (value rest))
        rw [Nat.zero_add, ← Nat.pow_add, Nat.add_comm w] at hlt
        exact hlt

/-! ## Multiplication -/

/-- By one word, from the lowest; the carry of the last word is returned. -/
def mulWord (multiplier : BitVec w) : (carry : ℕ) → List (BitVec w) → List (BitVec w) × ℕ
  | carry, [] => ([], carry)
  | carry, x :: rest =>
    let product := x.toNat * multiplier.toNat + carry
    let high := mulWord multiplier (product >>> w) rest
    (BitVec.ofNat w product :: high.1, high.2)

theorem value_mulWord (multiplier : BitVec w) (carry : ℕ) (xs : List (BitVec w)) :
    (mulWord multiplier carry xs).1.length = xs.length ∧
      value (mulWord multiplier carry xs).1 +
          2 ^ (w * xs.length) * (mulWord multiplier carry xs).2 =
        value xs * multiplier.toNat + carry := by
  induction xs generalizing carry with
  | nil => exact ⟨rfl, by simp [mulWord, value]⟩
  | cons x rest ih =>
    obtain ⟨hlength, hrest⟩ := ih ((x.toNat * multiplier.toNat + carry) >>> w)
    refine ⟨congrArg Nat.succ hlength, ?_⟩
    have hword := ofNat_add_shift (w := w) (x.toNat * multiplier.toNat + carry)
    have hpow : 2 ^ (w * (x :: rest).length) = 2 ^ w * 2 ^ (w * rest.length) := by
      rw [List.length_cons, Nat.mul_succ, Nat.add_comm, Nat.pow_add]
    have hmul := congrArg (2 ^ w * ·) hrest
    simp only [Nat.mul_add, ← Nat.mul_assoc] at hmul
    rw [hpow]
    show (BitVec.ofNat w (x.toNat * multiplier.toNat + carry)).toNat +
        2 ^ w * value (mulWord multiplier ((x.toNat * multiplier.toNat + carry) >>> w) rest).1 +
        2 ^ w * 2 ^ (w * rest.length) *
          (mulWord multiplier ((x.toNat * multiplier.toNat + carry) >>> w) rest).2 =
      (x.toNat + 2 ^ w * value rest) * multiplier.toNat + carry
    rw [Nat.add_mul]
    omega

/-- What a step adds up has at most twice the bits of a word. -/
theorem accumulator_lt {p a b c : ℕ} (hp : p < 2 ^ w) (ha : a < 2 ^ w) (hb : b < 2 ^ w)
    (hc : c < 2 ^ w) : p + a * b + c < 2 ^ (2 * w) := by
  have hmul := Nat.mul_le_mul (Nat.le_sub_one_of_lt ha) (Nat.le_sub_one_of_lt hb)
  have hsquare : 2 ^ (2 * w) = (2 ^ w - 1) * (2 ^ w - 1) + 2 * (2 ^ w - 1) + 1 := by
    obtain ⟨n, hn⟩ := Nat.exists_eq_succ_of_ne_zero (Nat.two_pow_pos w).ne'
    rw [Nat.two_mul, Nat.pow_add, hn]
    simp only [Nat.succ_eq_add_one, Nat.add_sub_cancel]
    ring
  omega

/-- What is carried on has the bits of a word. -/
theorem carry_lt {n : ℕ} (h : n < 2 ^ (2 * w)) : n >>> w < 2 ^ w := by
  rw [Nat.shiftRight_eq_div_pow]
  apply Nat.div_lt_of_lt_mul
  rw [← Nat.pow_add, ← Nat.two_mul]
  exact h

/-- Carry on from a word: it fails where the words end before the carry does. -/
def propagate : (carry : ℕ) → List (BitVec w) → Option (List (BitVec w))
  | carry, [] => if carry = 0 then some [] else none
  | carry, p :: ps =>
    if carry = 0 then some (p :: ps)
    else (propagate ((p.toNat + carry) >>> w) ps).map (BitVec.ofNat w (p.toNat + carry) :: ·)

/-- Add the product of a word with the others, from the lowest. The accumulator has twice the
bits of a word: it fails where that overflows or the words end. -/
def addRow (left : BitVec w) : (carry : ℕ) → (right product : List (BitVec w)) →
    Option (List (BitVec w))
  | carry, [], product => propagate carry product
  | _, _ :: _, [] => none
  | carry, r :: rest, p :: ps =>
    let sum := p.toNat + left.toNat * r.toNat + carry
    if sum < 2 ^ (2 * w) then
      (addRow left (sum >>> w) rest ps).map (BitVec.ofNat w sum :: ·)
    else none

/-- Add the product of two numbers, row by row: each row starts one word higher. -/
def multiplyInto : (left right product : List (BitVec w)) → Option (List (BitVec w))
  | [], _, product => some product
  | l :: left, right, product =>
    match addRow l 0 right product with
    | none => none
    | some [] => some []
    | some (p :: ps) => (multiplyInto left right ps).map (p :: ·)

theorem length_propagate {carry : ℕ} {ps out : List (BitVec w)}
    (h : propagate carry ps = some out) : out.length = ps.length := by
  induction ps generalizing carry out with
  | nil =>
    unfold propagate at h
    by_cases hzero : carry = 0
    · rw [if_pos hzero, Option.some_inj] at h
      rw [← h]
    · rw [if_neg hzero] at h
      cases h
  | cons p ps ih =>
    unfold propagate at h
    by_cases hzero : carry = 0
    · rw [if_pos hzero, Option.some_inj] at h
      rw [← h]
    · rw [if_neg hzero, Option.map_eq_some_iff] at h
      obtain ⟨rest, hrest, rfl⟩ := h
      exact congrArg Nat.succ (ih hrest)

theorem length_addRow {left : BitVec w} {carry : ℕ} {right product out : List (BitVec w)}
    (h : addRow left carry right product = some out) : out.length = product.length := by
  induction right generalizing carry product out with
  | nil => exact length_propagate h
  | cons r right ih =>
    cases product with
    | nil => cases h
    | cons p ps =>
      unfold addRow at h
      dsimp only at h
      by_cases hsum : p.toNat + left.toNat * r.toNat + carry < 2 ^ (2 * w)
      · rw [if_pos hsum, Option.map_eq_some_iff] at h
        obtain ⟨rest, hrest, rfl⟩ := h
        exact congrArg Nat.succ (ih hrest)
      · rw [if_neg hsum] at h
        cases h

theorem length_multiplyInto {left right product out : List (BitVec w)}
    (h : multiplyInto left right product = some out) : out.length = product.length := by
  induction left generalizing product out with
  | nil => exact congrArg List.length (Option.some_inj.mp h).symm
  | cons l left ih =>
    unfold multiplyInto at h
    cases hrow : addRow l 0 right product with
    | none =>
      rw [hrow] at h
      cases h
    | some row =>
      rw [hrow] at h
      have hlength := length_addRow hrow
      cases row with
      | nil => exact (congrArg List.length (Option.some_inj.mp h).symm).trans hlength
      | cons p ps =>
        obtain ⟨rest, hrest, rfl⟩ := Option.map_eq_some_iff.mp h
        exact (congrArg Nat.succ (ih hrest)).trans hlength

theorem propagate_eq {carry : ℕ} {ps : List (BitVec w)}
    (h : value ps + carry < 2 ^ (w * ps.length)) :
    ∃ out, propagate carry ps = some out ∧ out.length = ps.length ∧
      value out = value ps + carry := by
  induction ps generalizing carry with
  | nil =>
    have hzero : carry = 0 := by
      have : 2 ^ (w * ([] : List (BitVec w)).length) = 1 := rfl
      omega
    exact ⟨[], if_pos hzero, rfl, by omega⟩
  | cons p ps ih =>
    unfold propagate
    by_cases hzero : carry = 0
    · rw [if_pos hzero]
      exact ⟨p :: ps, rfl, rfl, by omega⟩
    · rw [if_neg hzero]
      have hword := ofNat_add_shift (w := w) (p.toNat + carry)
      have hvalue : value (p :: ps) = p.toNat + 2 ^ w * value ps := rfl
      have hbound : value ps + (p.toNat + carry) >>> w < 2 ^ (w * ps.length) := by
        rw [List.length_cons, Nat.mul_succ, Nat.add_comm (w * ps.length), Nat.pow_add] at h
        apply Nat.lt_of_mul_lt_mul_left (a := 2 ^ w)
        rw [Nat.mul_add]
        omega
      obtain ⟨out, hout, hlength, hrest⟩ := ih hbound
      rw [hout]
      refine ⟨_, rfl, congrArg Nat.succ hlength, ?_⟩
      show (BitVec.ofNat w (p.toNat + carry)).toNat + 2 ^ w * value out = _
      rw [hrest, Nat.mul_add]
      omega

/-- A row is exact, and neither the accumulator nor the words overflow where the sum fits. -/
theorem addRow_eq {left : BitVec w} {carry : ℕ} {right product : List (BitVec w)}
    (hcarry : carry < 2 ^ w) (hlen : right.length ≤ product.length)
    (h : value product + left.toNat * value right + carry < 2 ^ (w * product.length)) :
    ∃ out, addRow left carry right product = some out ∧ out.length = product.length ∧
      value out = value product + left.toNat * value right + carry := by
  induction right generalizing carry product with
  | nil => exact propagate_eq h
  | cons r right ih =>
    cases product with
    | nil => exact absurd hlen (Nat.not_succ_le_zero _)
    | cons p ps =>
      have hsum := accumulator_lt p.isLt left.isLt r.isLt hcarry
      have hshift := carry_lt hsum
      have hword := ofNat_add_shift (w := w) (p.toNat + left.toNat * r.toNat + carry)
      have hvalue : value (p :: ps) = p.toNat + 2 ^ w * value ps := rfl
      have hright : left.toNat * value (r :: right) =
          left.toNat * r.toNat + 2 ^ w * (left.toNat * value right) := by
        show left.toNat * (r.toNat + 2 ^ w * value right) = _
        ring
      have hbound : value ps + left.toNat * value right +
          (p.toNat + left.toNat * r.toNat + carry) >>> w < 2 ^ (w * ps.length) := by
        rw [List.length_cons, Nat.mul_succ, Nat.add_comm (w * ps.length), Nat.pow_add] at h
        apply Nat.lt_of_mul_lt_mul_left (a := 2 ^ w)
        rw [Nat.mul_add, Nat.mul_add]
        omega
      obtain ⟨out, hout, hlength, hrest⟩ := ih hshift (Nat.le_of_succ_le_succ hlen) hbound
      unfold addRow
      dsimp only
      rw [if_pos hsum, hout]
      refine ⟨_, rfl, congrArg Nat.succ hlength, ?_⟩
      show (BitVec.ofNat w (p.toNat + left.toNat * r.toNat + carry)).toNat + 2 ^ w * value out = _
      rw [hrest, Nat.mul_add, Nat.mul_add]
      omega

/-- The product of two numbers fits into as many words as both have. -/
theorem multiplyInto_eq {left right product : List (BitVec w)}
    (hlen : left.length + right.length ≤ product.length)
    (h : value product + value left * value right < 2 ^ (w * product.length)) :
    ∃ out, multiplyInto left right product = some out ∧ out.length = product.length ∧
      value out = value product + value left * value right := by
  induction left generalizing product with
  | nil =>
    refine ⟨product, rfl, rfl, ?_⟩
    show value product = value product + 0 * value right
    omega
  | cons l left ih =>
    have hleft : value (l :: left) * value right =
        l.toNat * value right + 2 ^ w * (value left * value right) := by
      show (l.toNat + 2 ^ w * value left) * value right = _
      ring
    rw [List.length_cons] at hlen
    obtain ⟨row, hrow, hrowLength, hrowValue⟩ := @addRow_eq w l 0 right product
      (Nat.two_pow_pos w) (by omega) (by omega)
    unfold multiplyInto
    rw [hrow]
    cases row with
    | nil => exact absurd hrowLength (by rw [List.length_nil]; omega)
    | cons p ps =>
      have hps : ps.length + 1 = product.length := hrowLength
      have hvalue : value (p :: ps) = p.toNat + 2 ^ w * value ps := rfl
      have hbound : value ps + value left * value right < 2 ^ (w * ps.length) := by
        rw [← hps, Nat.mul_succ, Nat.add_comm (w * ps.length), Nat.pow_add] at h
        apply Nat.lt_of_mul_lt_mul_left (a := 2 ^ w)
        rw [Nat.mul_add]
        omega
      obtain ⟨out, hout, hlength, hrest⟩ := ih (by omega) hbound
      dsimp only
      rw [hout]
      refine ⟨_, rfl, by rw [List.length_cons, hlength, hps], ?_⟩
      show p.toNat + 2 ^ w * value out = _
      rw [hrest, Nat.mul_add]
      omega

/-! ## Division -/

/-- By one number, from the highest word; the quotient and the remainder. -/
def divWord (divisor : ℕ) : List (BitVec w) → List (BitVec w) × ℕ
  | [] => ([], 0)
  | x :: rest =>
    let high := divWord divisor rest
    let dividend := (high.2 <<< w) ||| x.toNat
    (BitVec.ofNat w (dividend / divisor) :: high.1, dividend % divisor)

theorem value_divWord {divisor : ℕ} (hd : 0 < divisor) (xs : List (BitVec w)) :
    (divWord divisor xs).1.length = xs.length ∧
      value (divWord divisor xs).1 = value xs / divisor ∧
      (divWord divisor xs).2 = value xs % divisor := by
  induction xs with
  | nil => exact ⟨rfl, (Nat.zero_div _).symm, (Nat.zero_mod _).symm⟩
  | cons x rest ih =>
    obtain ⟨hlength, hquotient, hremainder⟩ := ih
    have hlt : value rest % divisor < divisor := Nat.mod_lt _ hd
    have hdividend : ((divWord divisor rest).2 <<< w) ||| x.toNat =
        2 ^ w * (value rest % divisor) + x.toNat := by
      rw [hremainder, ← Nat.shiftLeft_add_eq_or_of_lt x.isLt, Nat.shiftLeft_eq, Nat.mul_comm]
    have hvalue : x.toNat + 2 ^ w * value rest =
        2 ^ w * (value rest % divisor) + x.toNat + divisor * (2 ^ w * (value rest / divisor)) := by
      conv_lhs => rw [← Nat.div_add_mod (value rest) divisor]
      ring
    -- the remainder of the higher words is below the divisor, so the quotient is one word
    have hword : (2 ^ w * (value rest % divisor) + x.toNat) / divisor < 2 ^ w := by
      apply Nat.div_lt_of_lt_mul
      have hmul : 2 ^ w * (value rest % divisor + 1) ≤ 2 ^ w * divisor :=
        Nat.mul_le_mul_left _ hlt
      have hx := x.isLt
      rw [Nat.mul_succ, Nat.mul_comm _ divisor] at hmul
      omega
    refine ⟨congrArg Nat.succ hlength, ?_, ?_⟩
    · show (BitVec.ofNat w ((((divWord divisor rest).2 <<< w) ||| x.toNat) / divisor)).toNat +
        2 ^ w * value (divWord divisor rest).1 = (x.toNat + 2 ^ w * value rest) / divisor
      rw [hdividend, BitVec.toNat_ofNat, Nat.mod_eq_of_lt hword, hquotient, hvalue,
        Nat.add_mul_div_left _ _ hd]
    · show (((divWord divisor rest).2 <<< w) ||| x.toNat) % divisor =
        (x.toNat + 2 ^ w * value rest) % divisor
      rw [hdividend, hvalue, Nat.add_mul_mod_self_left]

end P4475.Lib.Limbs
