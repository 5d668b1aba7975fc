import Mathlib.Data.Finset.Card
import P4475.Lib.FinmapExt

/-!
# Inverse indexes

A table is often kept together with its inverse. `Mutual key table index`: each entry has a
key, no two entries share one, and the index leads from a key to its entry.
`Inverse keys table index`: each entry has a set of keys, and the index lists the entries of a
key. The rules say that a change of the table and the matching change of the index keep them so.
-/

namespace P4475.Lib

variable {κ ρ β : Type} [DecidableEq κ] [DecidableEq ρ]

/-! ## One entry a key -/

/-- The index is the inverse of a table whose entries have one key each. -/
def Mutual (key : β → κ) (table : Map ρ β) (index : Map κ ρ) : Prop :=
  ∀ k r, index.lookup k = some r ↔ ∃ entry, table.lookup r = some entry ∧ key entry = k

namespace Mutual

variable {key : β → κ} {table : Map ρ β} {index : Map κ ρ}

theorem empty : Mutual key (∅ : Map ρ β) (∅ : Map κ ρ) := by
  intro k r
  constructor
  · intro h
    exact absurd h (by simp)
  · rintro ⟨entry, h, -⟩
    exact absurd h (by simp)

theorem lookup (h : Mutual key table index) {r : ρ} {entry : β}
    (hr : table.lookup r = some entry) : index.lookup (key entry) = some r :=
  (h _ _).mpr ⟨entry, hr, rfl⟩

/-- Two entries with one key are the same. -/
theorem unique (h : Mutual key table index) {r r' : ρ} {entry entry' : β}
    (hr : table.lookup r = some entry) (hr' : table.lookup r' = some entry')
    (hk : key entry = key entry') : r = r' := by
  have hindex := h.lookup hr
  rw [hk, h.lookup hr'] at hindex
  exact (Option.some.inj hindex).symm

/-- A new entry under a free key. -/
theorem insert (h : Mutual key table index) {r : ρ} (entry : β)
    (hr : table.lookup r = none) (hk : index.lookup (key entry) = none) :
    Mutual key (table.insert r entry) (index.insert (key entry) r) := by
  intro k r'
  rw [Map.lookup_insert_ite, Map.lookup_insert_ite]
  by_cases hr' : r' = r
  · subst hr'
    rw [if_pos rfl]
    by_cases hkk : k = key entry
    · rw [if_pos hkk]
      exact iff_of_true rfl ⟨entry, rfl, hkk.symm⟩
    · rw [if_neg hkk, h k r', hr]
      refine iff_of_false ?_ ?_
      · rintro ⟨entry', he, -⟩
        exact absurd he (by simp)
      · rintro ⟨entry', he, hkey⟩
        rw [Option.some.inj he] at hkk
        exact hkk hkey.symm
  · rw [if_neg hr']
    by_cases hkk : k = key entry
    · subst hkk
      rw [if_pos rfl]
      refine iff_of_false (fun he => hr' (Option.some.inj he).symm) ?_
      intro hex
      rw [(h _ _).mpr hex] at hk
      exact absurd hk (by simp)
    · rw [if_neg hkk]
      exact h k r'

/-- An entry and its key go together. -/
theorem erase (h : Mutual key table index) {r : ρ} {entry : β}
    (hr : table.lookup r = some entry) :
    Mutual key (table.erase r) (index.erase (key entry)) := by
  intro k r'
  rw [Map.lookup_erase_ite, Map.lookup_erase_ite]
  by_cases hr' : r' = r
  · subst hr'
    rw [if_pos rfl]
    refine iff_of_false ?_ ?_
    · split
      next => simp
      next hkk =>
        intro hindex
        obtain ⟨entry', he, hkey⟩ := (h k r').mp hindex
        rw [hr] at he
        cases he
        exact hkk hkey.symm
    · rintro ⟨_, he, -⟩
      exact absurd he (by simp)
  · rw [if_neg hr']
    by_cases hkk : k = key entry
    · rw [if_pos hkk]
      refine iff_of_false (by simp) ?_
      rintro ⟨entry', he, hkey⟩
      exact hr' (h.unique he hr (hkey.trans hkk))
    · rw [if_neg hkk]
      exact h k r'

/-- An entry may change as long as its key stays. -/
theorem update (h : Mutual key table index) {r : ρ} {entry entry' : β}
    (hr : table.lookup r = some entry) (hk : key entry' = key entry) :
    Mutual key (table.insert r entry') index := by
  intro k r'
  rw [h k r', Map.lookup_insert_ite]
  by_cases hr' : r' = r
  · subst hr'
    rw [if_pos rfl, hr]
    constructor
    · rintro ⟨_, he, hkey⟩
      cases he
      exact ⟨entry', rfl, hk.trans hkey⟩
    · rintro ⟨_, he, hkey⟩
      cases he
      exact ⟨entry, rfl, hk.symm.trans hkey⟩
  · rw [if_neg hr']

end Mutual

/-! ## Many entries a key -/

namespace Index

/-- The entries listed under a key. -/
def entries (index : Map κ (Finset ρ)) (k : κ) : Finset ρ := (index.lookup k).getD ∅

/-- List one more entry under a key. -/
def link (index : Map κ (Finset ρ)) (k : κ) (r : ρ) : Map κ (Finset ρ) :=
  index.insert k (insert r (entries index k))

/-- List an entry no longer; a key with nothing left goes. -/
def unlink (index : Map κ (Finset ρ)) (k : κ) (r : ρ) : Map κ (Finset ρ) :=
  match index.lookup k with
  | none => index
  | some listed =>
    if listed.erase r = ∅ then index.erase k else index.insert k (listed.erase r)

/-- No key is listed with nothing under it. -/
def Full (index : Map κ (Finset ρ)) : Prop :=
  ∀ k listed, index.lookup k = some listed → listed.Nonempty

theorem entries_link (index : Map κ (Finset ρ)) (k k' : κ) (r : ρ) :
    entries (link index k r) k' =
      if k' = k then insert r (entries index k) else entries index k' := by
  unfold link
  rw [entries, Map.lookup_insert_ite]
  split
  next => rfl
  next => rfl

theorem entries_unlink (index : Map κ (Finset ρ)) (k k' : κ) (r : ρ) :
    entries (unlink index k r) k' =
      if k' = k then (entries index k).erase r else entries index k' := by
  unfold unlink
  cases hl : index.lookup k with
  | none =>
    dsimp only
    split
    next he =>
      subst he
      rw [entries, hl]
      rfl
    next => rfl
  | some listed =>
    have hk : entries index k = listed := by rw [entries, hl]; rfl
    dsimp only
    rw [hk]
    split
    next hempty =>
      rw [entries, Map.lookup_erase_ite]
      split
      next => exact hempty.symm
      next => rfl
    next =>
      rw [entries, Map.lookup_insert_ite]
      split
      next => rfl
      next => rfl

theorem Full.link {index : Map κ (Finset ρ)} (h : Full index) (k : κ) (r : ρ) :
    Full (link index k r) := by
  intro k' listed hl
  unfold Index.link at hl
  rw [Map.lookup_insert_ite] at hl
  split at hl
  next =>
    cases hl
    exact ⟨r, Finset.mem_insert_self _ _⟩
  next => exact h k' listed hl

theorem Full.unlink {index : Map κ (Finset ρ)} (h : Full index) (k : κ) (r : ρ) :
    Full (unlink index k r) := by
  intro k' listed' hl
  unfold Index.unlink at hl
  split at hl
  next => exact h k' listed' hl
  next listed _ =>
    split at hl
    next =>
      rw [Map.lookup_erase_ite] at hl
      split at hl
      next => exact absurd hl (by simp)
      next => exact h k' listed' hl
    next hne =>
      rw [Map.lookup_insert_ite] at hl
      split at hl
      next =>
        cases hl
        exact Finset.nonempty_iff_ne_empty.mpr hne
      next => exact h k' listed' hl

end Index

open Index

/-- The index lists under each key exactly the entries that have it. -/
def Inverse (keys : β → List κ) (table : Map ρ β) (index : Map κ (Finset ρ)) : Prop :=
  ∀ k r, r ∈ entries index k ↔ ∃ entry, table.lookup r = some entry ∧ k ∈ keys entry

namespace Inverse

variable {keys : β → List κ} {table : Map ρ β} {index : Map κ (Finset ρ)}

theorem empty : Inverse keys (∅ : Map ρ β) (∅ : Map κ (Finset ρ)) := by
  intro k r
  refine iff_of_false (by simp [entries]) ?_
  rintro ⟨_, h, -⟩
  exact absurd h (by simp)

/-- A new entry is listed under each of its keys. -/
theorem insert (h : Inverse keys table index) {r : ρ} (entry : β)
    (hr : table.lookup r = none) :
    Inverse keys (table.insert r entry)
      ((keys entry).foldl (fun index k => link index k r) index) := by
  have hlist : ∀ (ks : List κ) (index : Map κ (Finset ρ)) (k : κ) (r' : ρ),
      r' ∈ entries (ks.foldl (fun index k => link index k r) index) k ↔
        r' ∈ entries index k ∨ r' = r ∧ k ∈ ks := by
    intro ks
    induction ks with
    | nil => intro index k r'; simp
    | cons k₁ ks ih =>
      intro index k r'
      rw [List.foldl_cons, ih, entries_link]
      by_cases hk : k = k₁
      · subst hk
        rw [if_pos rfl, Finset.mem_insert]
        simp only [List.mem_cons, true_or, and_true]
        tauto
      · rw [if_neg hk]
        simp [hk]
  intro k r'
  rw [hlist, h k r', Map.lookup_insert_ite]
  by_cases hr' : r' = r
  · subst hr'
    rw [if_pos rfl, hr]
    simp
  · rw [if_neg hr']
    simp [hr']

/-- An entry may change as long as its keys stay. -/
theorem update (h : Inverse keys table index) {r : ρ} {entry entry' : β}
    (hr : table.lookup r = some entry) (hk : keys entry' = keys entry) :
    Inverse keys (table.insert r entry') index := by
  intro k r'
  rw [h k r', Map.lookup_insert_ite]
  by_cases hr' : r' = r
  · subst hr'
    rw [if_pos rfl, hr]
    simp [hk]
  · rw [if_neg hr']

/-- An entry that loses one key is listed under it no longer. -/
theorem lose (h : Inverse keys table index) {r : ρ} {entry entry' : β} {k : κ}
    (hr : table.lookup r = some entry)
    (hk : ∀ k', k' ∈ keys entry' ↔ k' ∈ keys entry ∧ k' ≠ k) :
    Inverse keys (table.insert r entry') (unlink index k r) := by
  intro k' r'
  rw [entries_unlink, Map.lookup_insert_ite]
  by_cases hr' : r' = r
  · subst hr'
    have hentry : r' ∈ entries index k' ↔ k' ∈ keys entry := by
      rw [h k' r', hr]
      simp
    rw [if_pos rfl]
    by_cases hkk : k' = k
    · subst hkk
      rw [if_pos rfl]
      simp [hk]
    · rw [if_neg hkk, hentry]
      simp [hk, hkk]
  · rw [if_neg hr', ← h k' r']
    by_cases hkk : k' = k
    · subst hkk
      rw [if_pos rfl, Finset.mem_erase]
      exact and_iff_right hr'
    · rw [if_neg hkk]

/-- An entry without keys can go. -/
theorem erase (h : Inverse keys table index) {r : ρ} {entry : β}
    (hr : table.lookup r = some entry) (hk : keys entry = []) :
    Inverse keys (table.erase r) index := by
  intro k r'
  rw [h k r', Map.lookup_erase_ite]
  by_cases hr' : r' = r
  · subst hr'
    rw [if_pos rfl, hr]
    simp [hk]
  · rw [if_neg hr']

end Inverse

end P4475.Lib
