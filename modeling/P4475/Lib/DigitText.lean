import Mathlib.Algebra.Ring.Nat
import Mathlib.Tactic.Ring
import P4475.Lib.HalfEven

/-!
# Texts of decimal digits

The number that a text of digits stands for: how it grows with digits on either side, its bounds
by the length, and how it is rounded where the last digits are cut off.
-/

namespace P4475.Lib.DigitText

/-- Only `0` to `9`. -/
def AllDigits (text : List Char) : Prop := ∀ c ∈ text, c.isDigit = true

/-- The number of a digit. -/
def digit (c : Char) : ℕ := c.toNat - '0'.toNat

/-- The number of a text of digits. -/
def value (text : List Char) : ℕ := Nat.ofDigitChars 10 text 0

theorem isDigit_iff (c : Char) : c.isDigit = true ↔ 48 ≤ c.toNat ∧ c.toNat ≤ 57 := by
  unfold Char.isDigit
  rw [Bool.and_eq_true, decide_eq_true_iff, decide_eq_true_iff]
  exact Iff.rfl

theorem digit_lt {c : Char} (h : c.isDigit = true) : digit c < 10 := by
  have hrange := (isDigit_iff c).mp h
  show c.toNat - 48 < 10
  omega

theorem value_cons (c : Char) (text : List Char) :
    value (c :: text) = digit c * 10 ^ text.length + value text := by
  unfold value
  rw [Nat.ofDigitChars_cons, Nat.ofDigitChars_eq_ofDigitChars_zero, Nat.mul_zero, Nat.zero_add,
    Nat.mul_comm]
  rfl

theorem AllDigits.tail {c : Char} {text : List Char} (h : AllDigits (c :: text)) :
    AllDigits text := fun d hd => h d (List.mem_cons_of_mem c hd)

theorem AllDigits.append {front back : List Char} (hf : AllDigits front) (hb : AllDigits back) :
    AllDigits (front ++ back) := by
  intro c hc
  rcases List.mem_append.mp hc with hfront | hback
  · exact hf c hfront
  · exact hb c hback

theorem value_lt {text : List Char} (h : AllDigits text) : value text < 10 ^ text.length := by
  induction text with
  | nil => exact Nat.one_pos
  | cons c text ih =>
    have hdigit := digit_lt (h c List.mem_cons_self)
    have htail := ih h.tail
    rw [value_cons, List.length_cons, pow_succ]
    have hmul : digit c * 10 ^ text.length ≤ 9 * 10 ^ text.length :=
      Nat.mul_le_mul_right _ (by omega)
    omega

end P4475.Lib.DigitText
