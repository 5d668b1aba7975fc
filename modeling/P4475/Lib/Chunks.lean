import Mathlib.Data.List.Basic
import Mathlib.Algebra.Ring.Nat

/-!
# Chunks

A list cut into pieces of one size, the last of which may be shorter, and the number of these
pieces. The pieces put together again are the list, and none is empty.
-/

namespace P4475.Lib

variable {α β : Type}

/-- Quotient, rounded up. -/
def divCeil (a b : Nat) : Nat := if 0 < a % b then a / b + 1 else a / b

/-- The pieces of a list: all of `size` elements but the last one, which may have fewer. -/
def chunks (size : Nat) : List α → List (List α)
  | [] => []
  | a :: rest => (a :: rest.take (size - 1)) :: chunks size (rest.drop (size - 1))
termination_by l => l.length
decreasing_by
  rw [List.length_drop, List.length_cons]
  omega

@[simp] theorem chunks_nil (size : Nat) : chunks size ([] : List α) = [] := by
  unfold chunks
  rfl

theorem chunks_cons (size : Nat) (a : α) (rest : List α) :
    chunks size (a :: rest) =
      (a :: rest.take (size - 1)) :: chunks size (rest.drop (size - 1)) := by
  rw [chunks]

/-- Nothing is left out, and nothing comes twice. -/
theorem chunks_flatten (size : Nat) (l : List α) : (chunks size l).flatten = l := by
  induction l using chunks.induct size with
  | case1 => rw [chunks_nil, List.flatten_nil]
  | case2 a rest ih =>
    rw [chunks_cons, List.flatten_cons, ih, List.cons_append, List.take_append_drop]

theorem length_le_of_mem_chunks {size : Nat} (hsize : 0 < size) {l piece : List α}
    (h : piece ∈ chunks size l) : piece.length ≤ size := by
  induction l using chunks.induct size with
  | case1 =>
    rw [chunks_nil] at h
    cases h
  | case2 a rest ih =>
    rw [chunks_cons] at h
    rcases List.mem_cons.mp h with rfl | h
    · rw [List.length_cons, List.length_take]
      omega
    · exact ih h

/-- The piece of each number. -/
theorem getElem?_chunks {size : Nat} (hsize : 0 < size) (l : List α) (i : Nat) :
    (chunks size l)[i]? =
      if i * size < l.length then some ((l.drop (i * size)).take size) else none := by
  induction l using chunks.induct size generalizing i with
  | case1 =>
    rw [chunks_nil, List.getElem?_nil, List.length_nil, if_neg (Nat.not_lt_zero _)]
  | case2 a rest ih =>
    rw [chunks_cons]
    cases i with
    | zero =>
      rw [List.getElem?_cons_zero, Nat.zero_mul, List.drop_zero, List.length_cons, if_pos (Nat.succ_pos _)]
      obtain ⟨size', rfl⟩ := Nat.exists_eq_add_of_lt hsize
      rw [Nat.zero_add, Nat.add_sub_cancel, List.take_succ_cons]
    | succ i =>
      have hdrop : (a :: rest).drop ((i + 1) * size) = (rest.drop (size - 1)).drop (i * size) := by
        rw [List.drop_drop, show (i + 1) * size = (size - 1 + i * size) + 1 by
          rw [Nat.succ_mul]; omega, List.drop_succ_cons]
      rw [List.getElem?_cons_succ, ih, hdrop, List.length_drop, List.length_cons]
      congr 1
      rw [eq_iff_iff, Nat.succ_mul]
      omega

/-! ## How many there are -/

theorem divCeil_mul_ge {b : Nat} (hb : 0 < b) (a : Nat) : a ≤ b * divCeil a b := by
  have hdiv := Nat.div_add_mod a b
  have hmod := Nat.mod_lt a hb
  unfold divCeil
  split
  · rw [Nat.mul_succ]
    omega
  · omega

theorem divCeil_eq_zero {a b : Nat} : divCeil a b = 0 ↔ a = 0 := by
  constructor
  · intro h
    unfold divCeil at h
    split at h
    next => cases h
    next hmod =>
      have hdiv := Nat.div_add_mod a b
      rw [h, Nat.mul_zero] at hdiv
      omega
  · rintro rfl
    unfold divCeil
    rw [Nat.zero_mod, Nat.zero_div, if_neg (Nat.lt_irrefl 0)]

theorem divCeil_succ {size : Nat} (hsize : 0 < size) (n : Nat) :
    divCeil (n + 1) size = divCeil (n - (size - 1)) size + 1 := by
  rcases Nat.lt_or_ge n size with hlt | hge
  · have hzero : n - (size - 1) = 0 := by omega
    rw [hzero, divCeil_eq_zero.mpr rfl]
    rcases Nat.lt_or_ge (n + 1) size with hlt' | hge'
    · unfold divCeil
      rw [Nat.mod_eq_of_lt hlt', Nat.div_eq_of_lt hlt', if_pos (Nat.succ_pos n)]
    · obtain rfl : size = n + 1 := by omega
      unfold divCeil
      rw [Nat.mod_self, Nat.div_self (Nat.succ_pos n), if_neg (Nat.lt_irrefl 0)]
  · obtain ⟨m, hm⟩ : ∃ m, n + 1 = m + size := ⟨n + 1 - size, by omega⟩
    have hrest : n - (size - 1) = m := by omega
    rw [hm, hrest]
    unfold divCeil
    rw [Nat.add_mod_right, Nat.add_div_right m hsize]
    split <;> rfl

theorem length_chunks {size : Nat} (hsize : 0 < size) (l : List α) :
    (chunks size l).length = divCeil l.length size := by
  induction l using chunks.induct size with
  | case1 => rw [chunks_nil, List.length_nil, List.length_nil, divCeil_eq_zero.mpr rfl]
  | case2 a rest ih =>
    rw [chunks_cons, List.length_cons, List.length_cons, ih, List.length_drop,
      divCeil_succ hsize]

/-! ## Blocks of bytes, a header and a record for each element -/

theorem length_flatMap_of_width {f : α → List β} {width : Nat} (h : ∀ a, (f a).length = width)
    (l : List α) : (l.flatMap f).length = width * l.length := by
  induction l with
  | nil => rfl
  | cons a rest ih =>
    rw [List.flatMap_cons, List.length_append, h, ih, List.length_cons, Nat.mul_succ]
    omega

/-- The lengths of blocks that have a fixed overhead and records of one width. -/
theorem sum_blocks {γ : Type} {block : γ → List β} {records : γ → List α} {overhead width : Nat}
    (h : ∀ piece, (block piece).length = overhead + width * (records piece).length)
    (pieces : List γ) : ((pieces.map block).map List.length).sum =
      pieces.length * overhead + (pieces.map records).flatten.length * width := by
  induction pieces with
  | nil => simp
  | cons piece pieces ih =>
    rw [List.map_cons, List.map_cons, List.sum_cons, ih, h, List.map_cons, List.flatten_cons,
      List.length_append, List.length_cons, Nat.succ_mul, Nat.add_mul, Nat.mul_comm width]
    omega

end P4475.Lib
