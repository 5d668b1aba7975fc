import Mathlib.Data.Finmap

/-!
# Finite maps, non-dependently

A hash table is its graph: Mathlib's `Finmap`, whose equality is extensional,
so nothing here can depend on a bucket order. The lemmas restate lookups after
one update as an `if`, which is what case splits on keys want, and `values` is the
multiset of values, with the rules that say how one update changes it.
-/

namespace P4475.Lib

variable {κ β : Type} [DecidableEq κ]

/-- A finite map with values of one type. -/
abbrev Map (κ β : Type) := Finmap (fun _ : κ => β)

namespace Map

@[simp] theorem lookup_insert_ite (m : Map κ β) (k k' : κ) (v : β) :
    (Finmap.insert k v m).lookup k' = if k' = k then some v else m.lookup k' := by
  by_cases h : k' = k
  · subst h; rw [if_pos rfl, Finmap.lookup_insert]
  · rw [if_neg h, Finmap.lookup_insert_of_ne m h]

@[simp] theorem lookup_erase_ite (m : Map κ β) (k k' : κ) :
    (Finmap.erase k m).lookup k' = if k' = k then none else m.lookup k' := by
  by_cases h : k' = k
  · subst h; rw [if_pos rfl, Finmap.lookup_erase]
  · rw [if_neg h, Finmap.lookup_erase_ne h]

/-- A key bound to `v` holds one copy of `v` on top of the erased map. -/
theorem insert_erase {m : Map κ β} {k : κ} {v : β} (h : m.lookup k = some v) :
    (m.erase k).insert k v = m := by
  refine Finmap.ext_lookup fun k' => ?_
  rw [lookup_insert_ite, lookup_erase_ite]
  split
  next he => rw [he, h]
  next => rfl

/-- Inserting what is there changes nothing. -/
theorem insert_self {m : Map κ β} {k : κ} {v : β} (h : m.lookup k = some v) :
    m.insert k v = m := by
  refine Finmap.ext_lookup fun k' => ?_
  rw [lookup_insert_ite]
  split
  next he => rw [he, h]
  next => rfl

/-- Erasing the key first does not change what an insertion leaves behind. -/
theorem insert_of_erase (m : Map κ β) (k : κ) (v : β) :
    (m.erase k).insert k v = m.insert k v := by
  refine Finmap.ext_lookup fun k' => ?_
  rw [lookup_insert_ite, lookup_insert_ite, lookup_erase_ite]
  split
  next => rfl
  next => rfl

/-- An insertion that is erased again leaves the rest. -/
theorem erase_of_insert (m : Map κ β) (k : κ) (v : β) : (m.insert k v).erase k = m.erase k := by
  refine Finmap.ext_lookup fun k' => ?_
  rw [lookup_erase_ite, lookup_erase_ite, lookup_insert_ite]
  split
  next => rfl
  next => rfl

theorem keys_insert (m : Map κ β) (k : κ) (v : β) :
    (Finmap.insert k v m).keys = insert k m.keys := by
  ext k'
  rw [Finmap.mem_keys, Finmap.mem_insert, Finset.mem_insert, Finmap.mem_keys]

theorem mem_keys_iff {m : Map κ β} {k : κ} : k ∈ m.keys ↔ m.lookup k ≠ none := by
  rw [Finmap.mem_keys, ← Finmap.lookup_isSome, Option.isSome_iff_ne_none]

theorem card_keys_insert_of_mem {m : Map κ β} {k : κ} {v w : β} (h : m.lookup k = some v) :
    (m.insert k w).keys.card = m.keys.card := by
  rw [keys_insert, Finset.insert_eq_of_mem]
  rw [mem_keys_iff, h]
  simp

theorem card_keys_insert_le (m : Map κ β) (k : κ) (v : β) :
    (m.insert k v).keys.card ≤ m.keys.card + 1 := by
  rw [keys_insert]
  exact Finset.card_insert_le _ _

theorem card_keys_erase_le (m : Map κ β) (k : κ) : (m.erase k).keys.card ≤ m.keys.card := by
  apply Finset.card_le_card
  intro k' hk'
  rw [mem_keys_iff, lookup_erase_ite] at hk'
  rw [mem_keys_iff]
  intro hnone
  rw [hnone] at hk'
  simp at hk'

theorem card_keys_erase {m : Map κ β} {k : κ} {v : β} (h : m.lookup k = some v) :
    (m.erase k).keys.card + 1 = m.keys.card := by
  have hinsert := congrArg (fun m => m.keys.card) (insert_erase h)
  rw [keys_insert, Finset.card_insert_of_notMem] at hinsert
  · exact hinsert
  · rw [mem_keys_iff, lookup_erase_ite, if_pos rfl]
    simp

/-! ## Filtering -/

theorem lookup_eq_some_iff {m : Map κ β} {k : κ} {v : β} :
    m.lookup k = some v ↔ ⟨k, v⟩ ∈ m.entries := by
  rw [← Finmap.mem_lookup_iff, Option.mem_def]

/-- Keep the entries that a predicate admits. -/
def retain (m : Map κ β) (p : κ → β → Bool) : Map κ β :=
  ⟨m.entries.filter fun e => p e.1 e.2, by
    have h := m.nodupKeys
    rw [← Multiset.nodup_keys] at h ⊢
    exact Multiset.nodup_of_le (Multiset.map_le_map (Multiset.filter_le _ _)) h⟩

@[simp] theorem lookup_retain (m : Map κ β) (p : κ → β → Bool) (k : κ) :
    (retain m p).lookup k = (m.lookup k).filter (p k) := by
  ext v
  rw [lookup_eq_some_iff, Option.filter_eq_some_iff, lookup_eq_some_iff]
  unfold retain
  rw [Multiset.mem_filter]

/-- Change every value. -/
def mapValues {γ : Type} (m : Map κ β) (f : β → γ) : Map κ γ :=
  ⟨m.entries.map fun e => ⟨e.1, f e.2⟩, by
    have h := m.nodupKeys
    rw [← Multiset.nodup_keys] at h ⊢
    simpa [Multiset.keys] using h⟩

/-! ## Lists of changes -/

/-- Write or erase entries, in order. -/
def applyAll (m : Map κ β) (changes : List (κ × Option β)) : Map κ β :=
  changes.foldl (fun m change =>
    match change.2 with
    | some v => m.insert change.1 v
    | none => m.erase change.1) m

/-- What is under `k` once the changes are made: the last one about `k` decides. -/
def after (m : Map κ β) (changes : List (κ × Option β)) (k : κ) : Option β :=
  match changes.reverse.find? fun change => change.1 = k with
  | some change => change.2
  | none => m.lookup k

@[simp] theorem after_nil (m : Map κ β) (k : κ) : after m [] k = m.lookup k := rfl

@[simp] theorem after_concat (m : Map κ β) (changes : List (κ × Option β)) (k k' : κ)
    (v : Option β) :
    after m (changes ++ [(k, v)]) k' = if k' = k then v else after m changes k' := by
  unfold after
  rw [List.reverse_append, List.reverse_singleton, List.singleton_append, List.find?_cons]
  by_cases h : k = k'
  · rw [if_pos h.symm]
    simp [h]
  · rw [if_neg (Ne.symm h)]
    simp [h]

@[simp] theorem after_single (m : Map κ β) (k k' : κ) (v : Option β) :
    after m [(k, v)] k' = if k' = k then v else m.lookup k' :=
  after_concat m [] k k' v

@[simp] theorem lookup_applyAll (m : Map κ β) (changes : List (κ × Option β)) (k : κ) :
    (applyAll m changes).lookup k = after m changes k := by
  induction changes using List.reverseRecOn with
  | nil => rfl
  | append_singleton changes change ih =>
    obtain ⟨k', v⟩ := change
    rw [after_concat, ← ih]
    unfold applyAll
    rw [List.foldl_append, List.foldl_cons, List.foldl_nil]
    cases v with
    | none => exact lookup_erase_ite _ k' k
    | some v => exact lookup_insert_ite _ k' k v

/-! ## The multiset of values -/

/-- The values of a map, one copy for each key. -/
def values (m : Map κ β) : Multiset β := m.entries.map (·.2)

omit [DecidableEq κ] in
@[simp] theorem values_empty : values (∅ : Map κ β) = 0 := rfl

theorem values_insert_new {m : Map κ β} {k : κ} (v : β) (h : m.lookup k = none) :
    values (m.insert k v) = v ::ₘ values m := by
  unfold values
  rw [Finmap.entries_insert_of_notMem (Finmap.lookup_eq_none.mp h), Multiset.map_cons]

theorem values_erase {m : Map κ β} {k : κ} {v : β} (h : m.lookup k = some v) :
    values m = v ::ₘ values (m.erase k) := by
  conv_lhs => rw [← insert_erase h]
  exact values_insert_new v (Finmap.lookup_erase k m)

theorem values_insert (m : Map κ β) (k : κ) (v : β) :
    values (m.insert k v) = v ::ₘ values (m.erase k) := by
  rw [← insert_of_erase]
  exact values_insert_new v (Finmap.lookup_erase k m)

theorem mem_values {m : Map κ β} {v : β} : v ∈ values m ↔ ∃ k, m.lookup k = some v := by
  unfold values
  rw [Multiset.mem_map]
  induction m using Finmap.induction_on with
  | H l =>
    constructor
    · rintro ⟨⟨k, w⟩, hm, rfl⟩
      exact ⟨k, by
        rw [Finmap.lookup_toFinmap]
        exact List.mem_dlookup l.nodupKeys (by simpa using hm)⟩
    · rintro ⟨k, hk⟩
      rw [Finmap.lookup_toFinmap] at hk
      exact ⟨⟨k, v⟩, by simpa using List.of_mem_dlookup hk, rfl⟩

end Map

/-! ## Maps from lists -/

/-- `from_iter` of a map type: the last value of a key stays. -/
def collectMap (entries : List (κ × β)) : Map κ β :=
  entries.foldl (fun map entry => map.insert entry.1 entry.2) ∅

theorem lookup_foldl_insert_pair {entries : List (κ × β)} (h : (entries.map Prod.fst).Nodup)
    (map : Map κ β) (k : κ) (v : β) :
    (entries.foldl (fun map entry => map.insert entry.1 entry.2) map).lookup k = some v ↔
      (k, v) ∈ entries ∨ k ∉ entries.map Prod.fst ∧ map.lookup k = some v := by
  induction entries generalizing map with
  | nil => simp
  | cons entry rest ih =>
    obtain ⟨key, value⟩ := entry
    obtain ⟨hnew, hrest⟩ := List.nodup_cons.mp h
    rw [List.foldl_cons, ih hrest, Map.lookup_insert_ite, List.map_cons, List.mem_cons,
      List.mem_cons, Prod.mk.injEq]
    by_cases hkey : k = key
    · subst hkey
      rw [if_pos rfl, Option.some_inj]
      constructor
      · intro hor
        rcases hor with hmem | ⟨-, hv⟩
        · exact absurd (List.mem_map_of_mem hmem) hnew
        · exact Or.inl (Or.inl ⟨rfl, hv.symm⟩)
      · intro hor
        rcases hor with (⟨-, hv⟩ | hmem) | ⟨hout, -⟩
        · exact Or.inr ⟨hnew, hv.symm⟩
        · exact Or.inl hmem
        · exact absurd (Or.inl rfl) hout
    · rw [if_neg hkey]
      simp only [hkey, false_and, false_or]

/-- With distinct keys a map has exactly its entries. -/
theorem lookup_collectMap {entries : List (κ × β)} (h : (entries.map Prod.fst).Nodup) (k : κ)
    (v : β) : (collectMap entries).lookup k = some v ↔ (k, v) ∈ entries := by
  unfold collectMap
  rw [lookup_foldl_insert_pair h, Finmap.lookup_empty]
  simp

end P4475.Lib
