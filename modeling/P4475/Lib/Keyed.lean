import Mathlib.Data.Finset.Insert
import Mathlib.Data.List.Nodup

/-!
# Tables with keys

A table is a list of rows, each with a key. `upsert` replaces the row with the key of the
new one where it stands, or appends the new one; `deduplicateLast` builds a table from rows
in which a key may occur again, and the last one counts. A `Spot` is a row that a table is
about to be changed at: its index, or a row just pushed. `keepFirst` filters rows and
leaves out what occurred before.
-/

namespace P4475.Lib

variable {α κ : Type} [DecidableEq κ] {key : α → κ} {rows : List α} {x : α} {k : κ}

/-- The rows with `x` in the place of the first one with its key, or else at the end. -/
def upsert (key : α → κ) : List α → α → List α
  | [], x => [x]
  | row :: rest, x => if key row = key x then x :: rest else row :: upsert key rest x

/-- The table of these rows, of which a later one replaces an earlier one with its key. -/
def deduplicateLast (key : α → κ) (rows : List α) : List α :=
  rows.foldl (upsert key) []

/-- No two rows have one key. -/
def Keyed (key : α → κ) (rows : List α) : Prop := (rows.map key).Nodup

theorem keys_upsert (key : α → κ) (rows : List α) (x : α) :
    (upsert key rows x).map key =
      if key x ∈ rows.map key then rows.map key else rows.map key ++ [key x] := by
  induction rows with
  | nil => simp [upsert]
  | cons row rest ih =>
    unfold upsert
    by_cases hrow : key row = key x
    · rw [if_pos hrow, if_pos (by simp [hrow])]
      simp [hrow]
    · rw [if_neg hrow, List.map_cons, List.map_cons, ih]
      by_cases hrest : key x ∈ rest.map key
      · rw [if_pos hrest, if_pos (List.mem_cons_of_mem _ hrest)]
      · rw [if_neg hrest, if_neg, List.cons_append]
        intro hmem
        rcases List.mem_cons.mp hmem with h | h
        · exact hrow h.symm
        · exact hrest h

theorem Keyed.upsert (h : Keyed key rows) (x : α) : Keyed key (upsert key rows x) := by
  unfold Keyed
  rw [keys_upsert]
  by_cases hx : key x ∈ rows.map key
  · rw [if_pos hx]
    exact h
  · rw [if_neg hx]
    refine List.nodup_append.mpr ⟨h, List.nodup_singleton _, ?_⟩
    intro a ha b hb hab
    rw [List.mem_singleton.mp hb] at hab
    exact hx (hab ▸ ha)

theorem length_upsert_le (key : α → κ) (rows : List α) (x : α) :
    (upsert key rows x).length ≤ rows.length + 1 := by
  have hkeys := congrArg List.length (keys_upsert key rows x)
  rw [List.length_map] at hkeys
  split at hkeys
  · rw [List.length_map] at hkeys
    omega
  · rw [List.length_append, List.length_map, List.length_singleton] at hkeys
    omega

/-- A key that is there already takes no room. -/
theorem length_upsert_of_mem (h : key x ∈ rows.map key) :
    (upsert key rows x).length = rows.length := by
  have hkeys := congrArg List.length (keys_upsert key rows x)
  rw [List.length_map, if_pos h, List.length_map] at hkeys
  exact hkeys

theorem mem_upsert {y : α} (h : y ∈ upsert key rows x) : y = x ∨ y ∈ rows := by
  induction rows with
  | nil => exact .inl (List.mem_singleton.mp h)
  | cons row rest ih =>
    unfold Lib.upsert at h
    split at h
    · rcases List.mem_cons.mp h with hy | hy
      · exact .inl hy
      · exact .inr (List.mem_cons_of_mem _ hy)
    · rcases List.mem_cons.mp h with hy | hy
      · exact .inr (hy ▸ List.mem_cons_self)
      · exact (ih hy).imp_right (List.mem_cons_of_mem _)

/-- The other rows stay, in their order. -/
theorem filter_upsert (rows : List α) (x : α) :
    (upsert key rows x).filter (fun row => key row ≠ key x) =
      rows.filter (fun row => key row ≠ key x) := by
  induction rows with
  | nil => simp [upsert]
  | cons row rest ih =>
    unfold upsert
    by_cases hrow : key row = key x
    · rw [if_pos hrow, List.filter_cons_of_neg (by simp), List.filter_cons_of_neg (by simp [hrow])]
    · rw [if_neg hrow, List.filter_cons_of_pos (by simp [hrow]),
        List.filter_cons_of_pos (by simp [hrow]), ih]

theorem find_upsert (rows : List α) (x : α) :
    (upsert key rows x).find? (fun row => key row = key x) = some x := by
  induction rows with
  | nil => simp [upsert]
  | cons row rest ih =>
    unfold upsert
    by_cases hrow : key row = key x
    · rw [if_pos hrow, List.find?_cons_of_pos (by simp)]
    · rw [if_neg hrow, List.find?_cons_of_neg (by simp [hrow]), ih]

theorem find_upsert_ne (rows : List α) (h : k ≠ key x) :
    (upsert key rows x).find? (fun row => key row = k) =
      rows.find? (fun row => key row = k) := by
  induction rows with
  | nil => simp [upsert, h.symm]
  | cons row rest ih =>
    unfold upsert
    by_cases hrow : key row = key x
    · rw [if_pos hrow, List.find?_cons_of_neg (by simp [h.symm]),
        List.find?_cons_of_neg (by simp [hrow, h.symm])]
    · rw [if_neg hrow]
      by_cases hk : key row = k
      · rw [List.find?_cons_of_pos (by simp [hk]), List.find?_cons_of_pos (by simp [hk])]
      · rw [List.find?_cons_of_neg (by simp [hk]), List.find?_cons_of_neg (by simp [hk]), ih]

theorem key_of_find {row : α} (h : (rows.find? fun row => key row = k) = some row) :
    key row = k := by
  have hrow := List.find?_some h
  exact of_decide_eq_true hrow

/-- A new key goes to the end. -/
theorem upsert_of_notMem (h : key x ∉ rows.map key) : upsert key rows x = rows ++ [x] := by
  induction rows with
  | nil => rfl
  | cons row rest ih =>
    rw [List.map_cons, List.mem_cons, not_or] at h
    rw [upsert, if_neg (Ne.symm h.1), ih h.2, List.cons_append]

/-- A row in its own place changes nothing. -/
theorem upsert_self (h : (rows.find? fun row => key row = key x) = some x) :
    upsert key rows x = rows := by
  induction rows with
  | nil => exact absurd h (by simp)
  | cons row rest ih =>
    unfold Lib.upsert
    by_cases hrow : key row = key x
    · rw [List.find?_cons_of_pos (by simp [hrow])] at h
      rw [if_pos hrow, Option.some.inj h]
    · rw [List.find?_cons_of_neg (by simp [hrow])] at h
      rw [if_neg hrow, ih h]

/-! ## Building a table -/

/-- What every upsert keeps holds of the built table. -/
theorem foldl_upsert {P : List α → Prop} (hstep : ∀ table x, P table → P (upsert key table x))
    (rows : List α) {table : List α} (h : P table) : P (rows.foldl (upsert key) table) := by
  induction rows generalizing table with
  | nil => exact h
  | cons row rest ih => exact ih (hstep table row h)

theorem keyed_deduplicateLast (rows : List α) : Keyed key (deduplicateLast key rows) :=
  foldl_upsert (fun _ x h => h.upsert x) rows List.nodup_nil

theorem length_deduplicateLast_le (key : α → κ) (rows : List α) :
    (deduplicateLast key rows).length ≤ rows.length := by
  have hfold : ∀ table : List α,
      (rows.foldl (Lib.upsert key) table).length ≤ table.length + rows.length := by
    induction rows with
    | nil => exact fun table => Nat.le_refl _
    | cons row rest ih =>
      intro table
      have hstep := length_upsert_le key table row
      have hrest := ih (Lib.upsert key table row)
      rw [List.foldl_cons, List.length_cons]
      omega
  simpa [deduplicateLast] using hfold []

theorem mem_deduplicateLast {y : α} (h : y ∈ deduplicateLast key rows) : y ∈ rows := by
  have hmem : ∀ table : List α, y ∈ rows.foldl (Lib.upsert key) table → y ∈ table ∨ y ∈ rows := by
    clear h
    induction rows with
    | nil => exact fun table h => .inl h
    | cons row rest ih =>
      intro table h
      rcases ih _ h with h | h
      · rcases mem_upsert h with rfl | h
        · exact .inr List.mem_cons_self
        · exact .inl h
      · exact .inr (List.mem_cons_of_mem _ h)
  rcases hmem [] h with h | h
  · exact absurd h List.not_mem_nil
  · exact h

/-- A table is its own. -/
theorem deduplicateLast_of_keyed (h : Keyed key rows) : deduplicateLast key rows = rows := by
  have hfold : ∀ table : List α, Keyed key (table ++ rows) →
      rows.foldl (Lib.upsert key) table = table ++ rows := by
    clear h
    induction rows with
    | nil => intro table _; simp
    | cons row rest ih =>
      intro table hkeyed
      have hnew : key row ∉ table.map key := by
        unfold Keyed at hkeyed
        rw [List.map_append] at hkeyed
        intro hmem
        exact (List.nodup_append.mp hkeyed).2.2 _ hmem _ (by simp) rfl
      rw [List.foldl_cons, upsert_of_notMem hnew, ih, List.append_assoc, List.singleton_append]
      rw [List.append_assoc, List.singleton_append]
      exact hkeyed
  exact hfold [] h

/-! ## Changing a table at one row -/

/-- A row of a table, by its index. -/
structure Spot (α : Type) where
  rows : List α
  index : Fin rows.length
  /-- Whether the row was in the table, or was pushed just now. -/
  existed : Bool

namespace Spot

/-- The first row with the key. -/
def find? (key : α → κ) (rows : List α) (k : κ) : Option (Spot α) :=
  (rows.findFinIdx? fun row => key row = k).map fun index => ⟨rows, index, true⟩

theorem last_lt (rows : List α) (x : α) : rows.length < (rows ++ [x]).length := by
  rw [List.length_append]
  exact Nat.lt_succ_self _

/-- The row is pushed. -/
def push (rows : List α) (x : α) : Spot α := ⟨rows ++ [x], ⟨rows.length, last_lt rows x⟩, false⟩

def row (spot : Spot α) : α := spot.rows.get spot.index

def set (spot : Spot α) (x : α) : List α := spot.rows.set spot.index x

/-- What a spot of the key `k` is: the first row with it, or a row pushed for want of one. -/
structure At (key : α → κ) (rows : List α) (k : κ) (fresh : Option α) (spot : Spot α) : Prop where
  existed : spot.existed = (rows.find? fun row => key row = k).isSome
  row : (rows.find? fun row => key row = k).or fresh = some spot.row
  set : ∀ x, key x = k → spot.set x = upsert key rows x

/-- The found row, and the table with `x` in its place. -/
theorem found_spec {i : Fin rows.length}
    (h : (rows.findFinIdx? fun row => key row = k) = some i) :
    (rows.find? fun row => key row = k) = some (rows.get i) ∧
      ∀ x, key x = k → rows.set i x = upsert key rows x := by
  induction rows with
  | nil => exact i.elim0
  | cons row rest ih =>
    rw [List.findFinIdx?_cons] at h
    by_cases hrow : key row = k
    · rw [if_pos (decide_eq_true hrow)] at h
      cases h
      refine ⟨List.find?_cons_of_pos (decide_eq_true hrow), fun x hx => ?_⟩
      rw [upsert, if_pos (hrow.trans hx.symm)]
      rfl
    · have hno : ¬decide (key row = k) = true := by simp [hrow]
      rw [if_neg hno] at h
      obtain ⟨j, hj, rfl⟩ := Option.map_eq_some_iff.mp h
      obtain ⟨hfind, hset⟩ := ih hj
      refine ⟨?_, fun x hx => ?_⟩
      · rw [List.find?_cons_of_neg (by simp [hrow]), hfind]
        rfl
      · rw [upsert, if_neg (hx ▸ hrow), ← hset x hx]
        rfl

theorem find?_at {spot : Spot α} (h : find? key rows k = some spot) (fresh : Option α) :
    spot.At key rows k fresh := by
  obtain ⟨i, hi, rfl⟩ := Option.map_eq_some_iff.mp h
  obtain ⟨hfind, hset⟩ := found_spec hi
  exact ⟨by rw [hfind]; rfl, by rw [hfind]; rfl, hset⟩

theorem find?_mem {spot : Spot α} (h : find? key rows k = some spot) : k ∈ rows.map key := by
  obtain ⟨i, hi, _⟩ := Option.map_eq_some_iff.mp h
  have hfind := (found_spec hi).1
  exact List.mem_map.mpr ⟨_, List.mem_of_find?_eq_some hfind, key_of_find hfind⟩

theorem find?_none (h : find? key rows k = none) : k ∉ rows.map key := by
  have hnone := List.findFinIdx?_eq_none_iff.mp (Option.map_eq_none_iff.mp h)
  intro hmem
  obtain ⟨row, hrow, hk⟩ := List.mem_map.mp hmem
  exact hnone row hrow (decide_eq_true hk)

theorem push_at (h : k ∉ rows.map key) (fresh : α) :
    (push rows fresh).At key rows k (some fresh) := by
  have hfind : (rows.find? fun row => key row = k) = none := by
    refine List.find?_eq_none.mpr fun row hrow hk => h ?_
    exact List.mem_map.mpr ⟨row, hrow, of_decide_eq_true hk⟩
  refine ⟨by rw [hfind]; rfl, ?_, fun x hx => ?_⟩
  · rw [hfind]
    show some fresh = some ((rows ++ [fresh]).get ⟨rows.length, last_lt rows fresh⟩)
    simp
  · rw [upsert_of_notMem (hx ▸ h)]
    show (rows ++ [fresh]).set rows.length x = rows ++ [x]
    simp

end Spot

/-! ## First occurrences -/

/-- The rows that pass, each of them once; `seen` are the ones that went before. -/
def keepFirst [DecidableEq α] (accepts : α → Bool) : (seen : Finset α) → List α → List α
  | _, [] => []
  | seen, row :: rest =>
    if accepts row = true ∧ row ∉ seen then
      row :: keepFirst accepts (insert row seen) rest
    else keepFirst accepts seen rest

theorem mem_keepFirst [DecidableEq α] {accepts : α → Bool} {seen : Finset α} :
    x ∈ keepFirst accepts seen rows ↔ x ∈ rows ∧ accepts x = true ∧ x ∉ seen := by
  induction rows generalizing seen with
  | nil => simp [keepFirst]
  | cons row rest ih =>
    unfold keepFirst
    by_cases hrow : accepts row = true ∧ row ∉ seen
    · rw [if_pos hrow, List.mem_cons, ih, List.mem_cons]
      by_cases hx : x = row
      · subst hx
        simp [hrow]
      · simp [hx]
    · rw [if_neg hrow, ih, List.mem_cons]
      by_cases hx : x = row
      · subst hx
        simp only [hrow, and_false]
      · simp [hx]

theorem keepFirst_nodup [DecidableEq α] (accepts : α → Bool) (seen : Finset α) (rows : List α) :
    (keepFirst accepts seen rows).Nodup := by
  induction rows generalizing seen with
  | nil => exact List.nodup_nil
  | cons row rest ih =>
    unfold keepFirst
    by_cases hrow : accepts row = true ∧ row ∉ seen
    · rw [if_pos hrow]
      apply List.nodup_cons.mpr
      refine ⟨fun hm => ?_, ih _⟩
      exact (mem_keepFirst.mp hm).2.2 (Finset.mem_insert_self row seen)
    · rw [if_neg hrow]
      exact ih seen

end P4475.Lib
