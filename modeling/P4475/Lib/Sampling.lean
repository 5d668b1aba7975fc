import Mathlib.Algebra.Ring.Nat
import Mathlib.Data.Nat.Count
import Mathlib.Algebra.BigOperators.Group.List.Basic

/-!
# Weighted selection

Walk a list with a cursor, and take the first element whose weight covers what is left
of it. Each element is taken for exactly as many cursors as it weighs.
-/

namespace P4475.Lib

variable {α : Type} (weight : α → Nat)

/-- The total weight. -/
def totalWeight (l : List α) : Nat := (l.map weight).sum

/-- The element that a cursor falls on. -/
def selectWeighted : List α → (cursor : Nat) → Option α
  | [], _ => none
  | a :: rest, cursor =>
    if cursor < weight a then some a else selectWeighted rest (cursor - weight a)

theorem totalWeight_cons (a : α) (rest : List α) :
    totalWeight weight (a :: rest) = weight a + totalWeight weight rest := by
  unfold totalWeight
  rw [List.map_cons, List.sum_cons]

/-- What is taken is in the list and weighs something. -/
theorem selectWeighted_some {l : List α} {cursor : Nat} {a : α}
    (h : selectWeighted weight l cursor = some a) : a ∈ l ∧ 0 < weight a := by
  induction l generalizing cursor with
  | nil => exact absurd h (by simp [selectWeighted])
  | cons b rest ih =>
    rw [selectWeighted] at h
    split at h
    next hb =>
      cases h
      exact ⟨List.mem_cons_self, by omega⟩
    next =>
      obtain ⟨hmem, hpos⟩ := ih h
      exact ⟨List.mem_cons_of_mem _ hmem, hpos⟩

/-- Every cursor below the total falls on an element. -/
theorem selectWeighted_of_lt {l : List α} {cursor : Nat} (h : cursor < totalWeight weight l) :
    ∃ a, selectWeighted weight l cursor = some a := by
  induction l generalizing cursor with
  | nil => exact absurd h (by simp [totalWeight])
  | cons b rest ih =>
    rw [totalWeight_cons] at h
    rw [selectWeighted]
    by_cases hb : cursor < weight b
    · exact ⟨b, if_pos hb⟩
    · rw [if_neg hb]
      apply ih
      omega

/-- **As many cursors fall on the elements of a kind as these weigh together.** -/
theorem count_selectWeighted (p : α → Bool) (l : List α) :
    Nat.count (fun cursor => (selectWeighted weight l cursor).any p = true)
      (totalWeight weight l) = totalWeight weight (l.filter p) := by
  induction l with
  | nil => rfl
  | cons a rest ih =>
    -- the cursors below the first weight take the first element, the others move on
    have hfirst : Nat.count (fun cursor => (selectWeighted weight (a :: rest) cursor).any p = true)
        (weight a) = if p a = true then weight a else 0 := by
      split
      next hp =>
        rw [Nat.count_of_forall]
        intro cursor hc
        rw [selectWeighted, if_pos hc]
        exact hp
      next hp =>
        rw [Nat.count_of_forall_not]
        intro cursor hc
        rw [selectWeighted, if_pos hc]
        exact hp
    have hrest : (fun cursor => (selectWeighted weight (a :: rest) (weight a + cursor)).any p =
        true) = fun cursor => (selectWeighted weight rest cursor).any p = true := by
      funext cursor
      rw [selectWeighted, if_neg (by omega), Nat.add_sub_cancel_left]
    rw [totalWeight_cons, Nat.count_add, hfirst]
    simp only [hrest]
    rw [ih, List.filter_cons]
    split
    next => rw [totalWeight_cons]
    next => rw [Nat.zero_add]

end P4475.Lib
