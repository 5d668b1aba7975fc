import Mathlib.Data.List.Nodup

/-!
# Tables of weak references

A table leads from a key to a reference that it does not keep alive: a reference is alive
as long as somebody holds it. Dead entries stay until they are pruned, and a key whose
reference died gets a fresh one. `Sound table holders` says what the table guarantees then:
whatever is held is in the table, so that a key never has two living references.
-/

namespace P4475.Lib

variable {κ : Type} [DecidableEq κ]

/-- The entries, latest first, and the next reference. -/
structure WeakTable (κ : Type) where
  entries : List (κ × Nat)
  next : Nat

namespace WeakTable

def empty : WeakTable κ := ⟨[], 0⟩

/-- The reference of a key, if it is alive. -/
def upgrade (table : WeakTable κ) (live : Nat → Bool) (key : κ) : Option Nat :=
  ((table.entries.find? (·.1 = key)).map Prod.snd).filter live

/-- Forget the entries whose reference is dead. -/
def prune (table : WeakTable κ) (live : Nat → Bool) : WeakTable κ :=
  { table with entries := table.entries.filter fun entry => live entry.2 }

/-- A fresh reference for a key. -/
def insert (table : WeakTable κ) (key : κ) : WeakTable κ :=
  ⟨(key, table.next) :: table.entries, table.next + 1⟩

/-- Is a reference held? -/
def alive (holders : List (κ × Nat)) (ref : Nat) : Bool := holders.any (·.2 = ref)

omit [DecidableEq κ] in
theorem alive_iff {holders : List (κ × Nat)} {ref : Nat} :
    alive holders ref = true ↔ ∃ key, (key, ref) ∈ holders := by
  unfold alive
  rw [List.any_eq_true]
  constructor
  · intro ⟨⟨key, ref'⟩, hmem, he⟩
    have href : ref' = ref := of_decide_eq_true he
    exact ⟨key, href ▸ hmem⟩
  · intro ⟨key, hmem⟩
    exact ⟨(key, ref), hmem, decide_eq_true rfl⟩

/-- The table lists every reference that is held, under the key it is held for. -/
structure Sound (table : WeakTable κ) (holders : List (κ × Nat)) : Prop where
  keys : (table.entries.map Prod.fst).Nodup
  refs : (table.entries.map Prod.snd).Nodup
  fresh : ∀ entry ∈ table.entries, entry.2 < table.next
  listed : ∀ held ∈ holders, held ∈ table.entries

variable {table : WeakTable κ} {holders holders' : List (κ × Nat)} {key : κ} {ref ref' : Nat}

omit [DecidableEq κ] in
theorem Sound.empty : Sound (empty : WeakTable κ) [] where
  keys := .nil
  refs := .nil
  fresh := fun _ h => absurd h List.not_mem_nil
  listed := fun _ h => absurd h List.not_mem_nil

omit [DecidableEq κ] in
/-- Holders may let go, and may share what they hold. -/
theorem Sound.mono (h : Sound table holders) (hsub : ∀ held ∈ holders', held ∈ holders) :
    Sound table holders' :=
  { h with listed := fun held hmem => h.listed held (hsub held hmem) }

omit [DecidableEq κ] in
/-- A key has one living reference. -/
theorem Sound.ref_eq (h : Sound table holders) (hr : (key, ref) ∈ holders)
    (hr' : (key, ref') ∈ holders) : ref = ref' := by
  have he := List.inj_on_of_nodup_map h.keys (h.listed _ hr) (h.listed _ hr') rfl
  exact congrArg Prod.snd he

theorem mem_of_upgrade {live : Nat → Bool} (hu : table.upgrade live key = some ref) :
    (key, ref) ∈ table.entries := by
  unfold upgrade at hu
  obtain ⟨hmap, -⟩ := Option.filter_eq_some_iff.mp hu
  obtain ⟨⟨key', ref'⟩, hfind, he⟩ := Option.map_eq_some_iff.mp hmap
  have hkey : key' = key := by simpa using List.find?_some hfind
  have href : ref' = ref := he
  rw [← hkey, ← href]
  exact List.mem_of_find?_eq_some hfind

theorem Sound.upgrade (h : Sound table holders) {live : Nat → Bool}
    (hu : table.upgrade live key = some ref) : Sound table ((key, ref) :: holders) :=
  { h with
    listed := fun held hmem => by
      rcases List.mem_cons.mp hmem with he | hmem
      · rw [he]
        exact mem_of_upgrade hu
      · exact h.listed held hmem }

omit [DecidableEq κ] in
theorem Sound.prune (h : Sound table holders) : Sound (table.prune (alive holders)) holders where
  keys := h.keys.sublist (List.filter_sublist.map _)
  refs := h.refs.sublist (List.filter_sublist.map _)
  fresh := fun entry hmem => h.fresh entry (List.mem_of_mem_filter hmem)
  listed := fun held hmem =>
    List.mem_filter.mpr ⟨h.listed held hmem, alive_iff.mpr ⟨held.1, hmem⟩⟩

omit [DecidableEq κ] in
/-- What a pruned table lists is held. -/
theorem Sound.held_of_pruned (h : Sound table holders) {entry : κ × Nat}
    (hmem : entry ∈ (table.prune (alive holders)).entries) : entry ∈ holders := by
  obtain ⟨hentry, hlive⟩ := List.mem_filter.mp hmem
  obtain ⟨key, hheld⟩ := alive_iff.mp hlive
  have he := List.inj_on_of_nodup_map h.refs hentry (h.listed _ hheld) rfl
  rw [he]
  exact hheld

/-- After pruning, a key that cannot be upgraded has no entry. -/
theorem notMem_of_pruned
    (hu : (table.prune (alive holders)).upgrade (alive holders) key = none) :
    key ∉ (table.prune (alive holders)).entries.map Prod.fst := by
  intro hmem
  obtain ⟨entry, hentry, hkey⟩ := List.mem_map.mp hmem
  unfold WeakTable.upgrade at hu
  cases hfind : (table.prune (alive holders)).entries.find? (·.1 = key) with
  | none =>
    have hno := List.find?_eq_none.mp hfind entry hentry
    exact hno (decide_eq_true hkey)
  | some found =>
    have hfound := List.mem_of_find?_eq_some hfind
    have hlive : alive holders found.2 = true := (List.mem_filter.mp hfound).2
    rw [hfind, Option.map_some, Option.filter_some_pos hlive] at hu
    exact absurd hu (by simp)

omit [DecidableEq κ] in
theorem Sound.insert (h : Sound table holders) (hkey : key ∉ table.entries.map Prod.fst) :
    Sound (table.insert key) ((key, table.next) :: holders) where
  keys := List.nodup_cons.mpr ⟨hkey, h.keys⟩
  refs := by
    refine List.nodup_cons.mpr ⟨fun hmem => ?_, h.refs⟩
    obtain ⟨entry, hentry, he⟩ := List.mem_map.mp hmem
    have hlt := h.fresh entry hentry
    rw [he] at hlt
    exact absurd hlt (Nat.lt_irrefl _)
  fresh := fun entry hmem => by
    rcases List.mem_cons.mp hmem with he | hmem
    · rw [he]
      exact Nat.lt_succ_self _
    · exact Nat.lt_succ_of_lt (h.fresh entry hmem)
  listed := fun held hmem => by
    rcases List.mem_cons.mp hmem with he | hmem
    · rw [he]
      exact List.mem_cons_self
    · exact List.mem_cons_of_mem _ (h.listed held hmem)

end WeakTable

end P4475.Lib
