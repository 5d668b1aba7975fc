import Mathlib.Data.List.FinRange
import Mathlib.Data.Fintype.Card
import Mathlib.Data.Fintype.Pi
import Mathlib.Data.Prod.Lex
import Mathlib.Data.List.Sort

/-!
# Fixed arrays of optional entries

An array `[Option<T>; n]` is a function on `Fin n`, so an index out of range
cannot be written. `occupied` walks the filled entries in index order, and the
two searches `position` and `vacant` are the iterator's `position` calls.

The second half is about compaction: the ids of a list are handed the ranks
`0, 1, …` in the order of a key. With an injective key the ranks are a
permutation of an initial segment and compare as the keys do.
-/

namespace P4475.Lib

/-- `[Option<α>; n]`. -/
abbrev Slots (n : Nat) (α : Type) := Fin n → Option α

namespace Slots

variable {n : Nat} {α β : Type}

/-- An array without entries. -/
def empty : Slots n α := fun _ => none

/-- Write one entry. -/
def put (s : Slots n α) (i : Fin n) (v : Option α) : Slots n α := Function.update s i v

/-- The indices of the filled entries, in order. -/
def occupied (s : Slots n α) : List (Fin n) := (List.finRange n).filter fun i => (s i).isSome

/-- `iter().position(p)`. -/
def position (s : Slots n α) (p : α → Bool) : Option (Fin n) :=
  (List.finRange n).find? fun i => (s i).any p

/-- `iter().position(Option::is_none)`. -/
def vacant (s : Slots n α) : Option (Fin n) := (List.finRange n).find? fun i => (s i).isNone

/-- `iter().flatten()`. -/
def entries (s : Slots n α) : List α := (List.finRange n).filterMap s

/-- Change every filled entry. -/
def modify (s : Slots n α) (f : Fin n → α → α) : Slots n α := fun i => (s i).map (f i)

/-- Every entry is empty. -/
def IsEmpty (s : Slots n α) : Prop := ∀ i, s i = none

instance (s : Slots n α) : Decidable s.IsEmpty :=
  decidable_of_iff (∀ i, (s i).isNone) ⟨fun h i => by simpa using h i, fun h i => by simpa using h i⟩

theorem put_apply (s : Slots n α) (i j : Fin n) (v : Option α) :
    s.put i v j = if j = i then v else s j := by
  unfold put
  rw [Function.update_apply]

@[simp] theorem put_same (s : Slots n α) (i : Fin n) (v : Option α) : s.put i v i = v := by
  simp [put]

theorem put_ne (s : Slots n α) {i j : Fin n} (v : Option α) (h : j ≠ i) : s.put i v j = s j := by
  rw [put_apply, if_neg h]

@[simp] theorem modify_apply (s : Slots n α) (f : Fin n → α → α) (i : Fin n) :
    s.modify f i = (s i).map (f i) := rfl

@[simp] theorem mem_occupied {s : Slots n α} {i : Fin n} :
    i ∈ s.occupied ↔ (s i).isSome = true := by
  simp [occupied]

theorem nodup_occupied (s : Slots n α) : s.occupied.Nodup :=
  (List.nodup_finRange n).filter _

theorem position_some {s : Slots n α} {p : α → Bool} {i : Fin n} (h : s.position p = some i) :
    ∃ v, s i = some v ∧ p v = true := by
  have hi := List.find?_some h
  cases hs : s i with
  | none => simp [hs] at hi
  | some v => exact ⟨v, rfl, by simpa [hs] using hi⟩

theorem position_none {s : Slots n α} {p : α → Bool} (h : s.position p = none) {i : Fin n} {v : α}
    (hv : s i = some v) : p v = false := by
  have := List.find?_eq_none.mp h i (List.mem_finRange i)
  simpa [hv] using this

theorem position_isSome {s : Slots n α} {p : α → Bool} {i : Fin n} {v : α}
    (hv : s i = some v) (hp : p v = true) : ∃ j, s.position p = some j := by
  cases h : s.position p with
  | some j => exact ⟨j, rfl⟩
  | none => exact absurd (position_none h hv) (by simp [hp])

theorem vacant_some {s : Slots n α} {i : Fin n} (h : s.vacant = some i) : s i = none := by
  have hi := List.find?_some h
  simpa using hi

theorem mem_entries {s : Slots n α} {v : α} : v ∈ s.entries ↔ ∃ i, s i = some v := by
  simp [entries]

/-- Two arrays filled at the same places list the same indices. -/
theorem occupied_congr {s : Slots n α} {t : Slots n β} (h : ∀ i, (s i).isSome = (t i).isSome) :
    s.occupied = t.occupied := by
  unfold occupied
  exact List.filter_congr fun i _ => h i

theorem length_entries (s : Slots n α) : s.entries.length = s.occupied.length := by
  unfold entries occupied
  induction List.finRange n with
  | nil => rfl
  | cons i is ih =>
    cases h : s i with
    | none => simp [h, ih]
    | some v => simp [h, ih]

theorem length_occupied_le (s : Slots n α) : s.occupied.length ≤ n := by
  unfold occupied
  calc ((List.finRange n).filter fun i => (s i).isSome).length
      ≤ (List.finRange n).length := List.length_filter_le _ _
    _ = n := List.length_finRange

theorem isEmpty_iff {s : Slots n α} : s.IsEmpty ↔ s.occupied = [] := by
  constructor
  · intro h
    refine List.eq_nil_iff_forall_not_mem.mpr fun i => ?_
    rw [mem_occupied, h i]
    simp
  · intro h i
    by_contra hi
    have : i ∈ s.occupied := mem_occupied.mpr (Option.isSome_iff_ne_none.mpr hi)
    simp [h] at this

/-! ## Entries as a multiset -/

theorem entries_map (s : Slots n α) (f : α → β) (d : β) :
    s.entries.map f = s.occupied.map fun i => (s i).elim d f := by
  unfold entries occupied
  induction List.finRange n with
  | nil => rfl
  | cons i is ih =>
    cases h : s i with
    | none => simpa [h] using ih
    | some v => simpa [h] using ih

theorem map_entries_congr {s : Slots n α} {t : Slots n β} {γ : Type} (f : α → γ) (g : β → γ)
    (h : ∀ i, (s i).map f = (t i).map g) : s.entries.map f = t.entries.map g := by
  unfold entries
  induction List.finRange n with
  | nil => rfl
  | cons i is ih =>
    have hi := h i
    cases hs : s i with
    | none =>
      cases ht : t i with
      | none => simpa [hs, ht] using ih
      | some w => simp [hs, ht] at hi
    | some v =>
      cases ht : t i with
      | none => simp [hs, ht] at hi
      | some w =>
        simp only [hs, ht, Option.map_some, Option.some.injEq] at hi
        simpa [hs, ht, hi] using ih

/-- Emptying a filled place takes its entry out. -/
theorem entries_put_none {s : Slots n α} {i : Fin n} {v : α} (h : s i = some v) :
    s.entries.Perm (v :: (s.put i none).entries) := by
  obtain ⟨l₁, l₂, hl⟩ := List.append_of_mem (List.mem_finRange i)
  have hnd : (l₁ ++ i :: l₂).Nodup := hl ▸ List.nodup_finRange n
  have hni : i ∉ l₁ ∧ i ∉ l₂ := by
    have := List.nodup_middle.mp hnd
    simpa using (List.nodup_cons.mp this).1
  have hsame : ∀ l : List (Fin n), i ∉ l → l.filterMap (s.put i none) = l.filterMap s := by
    intro l hil
    refine List.filterMap_congr fun j hj => ?_
    exact put_ne s none fun he => hil (he ▸ hj)
  unfold entries
  rw [hl, List.filterMap_append, List.filterMap_append, List.filterMap_cons_some h,
    List.filterMap_cons_none (put_same s i none), hsame l₁ hni.1, hsame l₂ hni.2]
  exact List.perm_middle

/-- Filling an empty place adds its entry. -/
theorem entries_put_some {s : Slots n α} {i : Fin n} (v : α) (h : s i = none) :
    (s.put i (some v)).entries.Perm (v :: s.entries) := by
  have hback : (s.put i (some v)).put i none = s := by
    funext j
    rw [put_apply]
    split
    next he => rw [he, h]
    next he => exact put_ne s _ he
  have := entries_put_none (put_same s i (some v))
  rwa [hback] at this

/-! ## Placements -/

/-- The places hold exactly the ids of a set, each id once. -/
structure Places {ι : Type} (pos : Slots n ι) (used : Set ι) : Prop where
  inj : ∀ {s t i}, pos s = some i → pos t = some i → s = t
  iff : ∀ i, (∃ s, pos s = some i) ↔ i ∈ used

variable {ι : Type} {pos : Slots n ι} {used : Set ι}

theorem Places.place (h : Places pos used) {s : Fin n} {i : ι} (hs : pos s = none)
    (hi : i ∉ used) : Places (pos.put s (some i)) (insert i used) where
  inj := by
    intro a b j ha hb
    rw [put_apply] at ha hb
    split at ha
    next hea =>
      split at hb
      next heb => rw [hea, heb]
      next =>
        cases ha
        exact absurd ((h.iff _).mp ⟨b, hb⟩) hi
    next =>
      split at hb
      next =>
        cases hb
        exact absurd ((h.iff _).mp ⟨a, ha⟩) hi
      next => exact h.inj ha hb
  iff := by
    intro j
    constructor
    · rintro ⟨a, ha⟩
      rw [put_apply] at ha
      split at ha
      next =>
        cases ha
        exact Set.mem_insert _ _
      next => exact Set.mem_insert_of_mem _ ((h.iff j).mp ⟨a, ha⟩)
    · rintro (rfl | hj)
      · exact ⟨s, put_same pos s _⟩
      · obtain ⟨a, ha⟩ := (h.iff j).mpr hj
        refine ⟨a, ?_⟩
        rw [put_ne pos _ fun he => by rw [he, hs] at ha; exact absurd ha (by simp)]
        exact ha

theorem Places.clear (h : Places pos used) {s : Fin n} {i : ι} (hs : pos s = some i) :
    Places (pos.put s none) (used \ {i}) where
  inj := by
    intro a b j ha hb
    rw [put_apply] at ha hb
    split at ha
    next => exact absurd ha (by simp)
    next =>
      split at hb
      next => exact absurd hb (by simp)
      next => exact h.inj ha hb
  iff := by
    intro j
    constructor
    · rintro ⟨a, ha⟩
      rw [put_apply] at ha
      split at ha
      next => exact absurd ha (by simp)
      next hne =>
        refine ⟨(h.iff j).mp ⟨a, ha⟩, ?_⟩
        rintro rfl
        exact hne (h.inj ha hs)
    · rintro ⟨hj, hji⟩
      obtain ⟨a, ha⟩ := (h.iff j).mpr hj
      refine ⟨a, ?_⟩
      rw [put_ne pos _ fun he => by rw [he, hs] at ha; cases ha; exact hji rfl]
      exact ha

/-- Move an id to a place that is free, or to its own. -/
theorem Places.move (h : Places pos used) {s t : Fin n} {i : ι} (hs : pos s = some i)
    (ht : (pos.put s none) t = none) : Places ((pos.put s none).put t (some i)) used := by
  have hplaced := (h.clear hs).place ht (i := i) (by simp)
  have hi : i ∈ used := (h.iff i).mp ⟨s, hs⟩
  rwa [Set.insert_sdiff_singleton, Set.insert_eq_of_mem hi] at hplaced

/-- With an unused id there is a free place. -/
theorem Places.vacancy {pos : Slots n (Fin n)} {used : Set (Fin n)} (h : Places pos used)
    {i : Fin n} (hi : i ∉ used) : ∃ s, pos s = none := by
  by_contra hfull
  push Not at hfull
  let at_ (s : Fin n) : Fin n := (pos s).get (Option.isSome_iff_ne_none.mpr (hfull s))
  have hat : ∀ s, pos s = some (at_ s) := fun s => (Option.some_get _).symm
  have hinj : Function.Injective at_ := fun s t he => h.inj (hat s) (he ▸ hat t)
  obtain ⟨s, hs⟩ := (Finite.injective_iff_surjective.mp hinj) i
  exact hi ((h.iff i).mp ⟨s, hs ▸ hat s⟩)

end Slots

/-! ## Compaction -/

section Compact

variable {ι κ : Type} [DecidableEq ι] [LinearOrder κ]

/-- `sort_unstable_by_key`, for keys that tell the ids apart. -/
def sortByKey (key : ι → κ) (ids : List ι) : List ι :=
  ids.insertionSort fun a b => key a ≤ key b

omit [DecidableEq ι] in
theorem sortByKey_perm (key : ι → κ) (ids : List ι) : (sortByKey key ids).Perm ids :=
  List.perm_insertionSort _ ids

omit [DecidableEq ι] in
@[simp] theorem mem_sortByKey {key : ι → κ} {ids : List ι} {i : ι} :
    i ∈ sortByKey key ids ↔ i ∈ ids := (sortByKey_perm key ids).mem_iff

omit [DecidableEq ι] in
theorem sortByKey_pairwise (key : ι → κ) (ids : List ι) :
    (sortByKey key ids).Pairwise fun a b => key a ≤ key b := by
  have : Std.Total fun a b : ι => key a ≤ key b := ⟨fun a b => le_total _ _⟩
  have : IsTrans ι fun a b : ι => key a ≤ key b := ⟨fun _ _ _ => le_trans⟩
  exact List.pairwise_insertionSort _ ids

/-- The ranks of distinct ids are a permutation of an initial segment. -/
theorem idxOf_perm_range {order ids : List ι} (hp : order.Perm ids) (hn : ids.Nodup) :
    (ids.map order.idxOf).Perm (List.range ids.length) := by
  have hno : order.Nodup := hp.nodup_iff.mpr hn
  have hself : order.map order.idxOf = List.range order.length := by
    refine List.ext_getElem (by simp) fun k h₁ h₂ => ?_
    simp [List.Nodup.idxOf_getElem hno]
  calc (ids.map order.idxOf).Perm (order.map order.idxOf) := (hp.map _).symm
    _ = List.range order.length := hself
    _ = List.range ids.length := by rw [hp.length_eq]

/-- With a key that tells the ids apart, ranks compare as keys do. -/
theorem idxOf_sortByKey_lt {key : ι → κ} {ids : List ι} (hn : ids.Nodup)
    (hk : ∀ a ∈ ids, ∀ b ∈ ids, key a = key b → a = b) {a b : ι} (ha : a ∈ ids) (hb : b ∈ ids) :
    (sortByKey key ids).idxOf a < (sortByKey key ids).idxOf b ↔ key a < key b := by
  have hsort := sortByKey_pairwise key ids
  have hnd : (sortByKey key ids).Nodup := (sortByKey_perm key ids).nodup_iff.mpr hn
  have hge : ∀ {x y : ι}, x ∈ ids → y ∈ ids →
      (sortByKey key ids).idxOf x < (sortByKey key ids).idxOf y → key x < key y := by
    intro x y hx hy hlt
    have hys : y ∈ sortByKey key ids := mem_sortByKey.mpr hy
    have hyl := List.idxOf_lt_length_of_mem hys
    have hle := List.pairwise_iff_getElem.mp hsort _ _ (hlt.trans hyl) hyl hlt
    rw [List.getElem_idxOf, List.getElem_idxOf] at hle
    refine lt_of_le_of_ne hle fun he => ?_
    rw [hk x hx y hy he] at hlt
    exact absurd hlt (lt_irrefl _)
  constructor
  · exact hge ha hb
  · intro hlt
    rcases Nat.lt_trichotomy ((sortByKey key ids).idxOf a) ((sortByKey key ids).idxOf b) with
      h | h | h
    · exact h
    · have hab := (List.idxOf_inj (mem_sortByKey.mpr ha)).mp h
      exact absurd (hab ▸ hlt) (lt_irrefl _)
    · exact absurd (hge hb ha h) (not_lt.mpr hlt.le)

end Compact

end P4475.Lib
