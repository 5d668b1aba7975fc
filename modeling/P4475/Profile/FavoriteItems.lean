import P4475.Lib.Fallible
import P4475.Lib.FinmapExt

/-!
# Favorite and locked items

`p4475-profile/src/favorite_items.rs`: a batch of additions and removals is applied to a list
of distinct keys in one pass over hash sets, with the indices of the additions that are still
in force. The result is what the changes do to the list one by one.
-/

namespace P4475

open Lib

/-- `MAX_FAVORITE_ITEM_UPDATE_RECORDS`. -/
def maxFavoriteItemUpdateRecords : Nat := 200

/-- `DEFAULT_MAX_FAVORITE_ITEM_LIST_RECORDS`. -/
def defaultMaxFavoriteItemListRecords : Nat := (1048576 - 8) / 7

structure FavoriteItemKey where
  category : UInt16
  itemId : UInt16
  serial : UInt16
  deriving DecidableEq

inductive FavoriteItemOperation
  | add
  | remove
  deriving DecidableEq

structure FavoriteItemChange where
  item : FavoriteItemKey
  operation : FavoriteItemOperation
  deriving DecidableEq

inductive FavoriteItemStateError
  | tooManyItems (count maximum : Nat)
  | tooManyChanges (count maximum : Nat)
  deriving DecidableEq

/-! ## One pass over a batch -/

/-- The sets of `try_apply`, with the additions in order and the last index of each key that is
there because of one. -/
structure FavoriteItemPass where
  present : Finset FavoriteItemKey
  removedOriginal : Finset FavoriteItemKey
  additions : List FavoriteItemKey
  latestAddition : Map FavoriteItemKey Nat

namespace FavoriteItemPass

/-- Before the first change. -/
def start (items : List FavoriteItemKey) : FavoriteItemPass := ⟨items.toFinset, ∅, [], ∅⟩

/-- One turn of the loop. -/
def change (items : List FavoriteItemKey) (pass : FavoriteItemPass) (change : FavoriteItemChange) :
    FavoriteItemPass :=
  match change.operation with
  | .add =>
    if change.item ∈ pass.present then pass
    else { pass with
      present := insert change.item pass.present
      latestAddition := pass.latestAddition.insert change.item pass.additions.length
      additions := pass.additions ++ [change.item] }
  | .remove =>
    if change.item ∈ pass.present then { pass with
      present := pass.present.erase change.item
      removedOriginal := if change.item ∈ items.toFinset
        then insert change.item pass.removedOriginal else pass.removedOriginal
      latestAddition := pass.latestAddition.erase change.item }
    else pass

/-- The original keys that were never removed. -/
def kept (items : List FavoriteItemKey) (pass : FavoriteItemPass) : List FavoriteItemKey :=
  items.filter fun item => item ∈ pass.present ∧ item ∉ pass.removedOriginal

/-- The additions that are the latest of their key. -/
def latest (pass : FavoriteItemPass) : List FavoriteItemKey :=
  pass.additions.zipIdx.filterMap fun entry =>
    if pass.latestAddition.lookup entry.1 = some entry.2 then some entry.1 else none

/-- The list after the pass. -/
def items (original : List FavoriteItemKey) (changes : List FavoriteItemChange) :
    List FavoriteItemKey :=
  let pass := changes.foldl (change original) (start original)
  kept original pass ++ latest pass

end FavoriteItemPass

/-! ## Change by change -/

/-- What a change does to a list of keys: an absent key is appended, a present one erased. -/
def FavoriteItemChange.applied (items : List FavoriteItemKey) (change : FavoriteItemChange) :
    List FavoriteItemKey :=
  match change.operation with
  | .add => if change.item ∈ items then items else items ++ [change.item]
  | .remove => items.erase change.item

theorem FavoriteItemChange.nodup_applied {items : List FavoriteItemKey} (h : items.Nodup)
    (change : FavoriteItemChange) : (change.applied items).Nodup := by
  unfold applied
  cases change.operation with
  | add =>
    dsimp only
    split
    next => exact h
    next hnew => exact List.nodup_append.mpr ⟨h, List.nodup_singleton _, by
      intro a ha b hb heq
      rw [List.mem_singleton.mp hb] at heq
      exact hnew (heq ▸ ha)⟩
  | remove => exact h.erase _

namespace FavoriteItemPass

variable {original : List FavoriteItemKey}

/-- What the pass and the list that the changes make have in common. -/
structure Follows (original : List FavoriteItemKey) (pass : FavoriteItemPass)
    (list : List FavoriteItemKey) : Prop where
  split : list = kept original pass ++ latest pass
  present : ∀ item, item ∈ pass.present ↔ item ∈ list
  removed : ∀ item ∈ original, item ∉ pass.present → item ∈ pass.removedOriginal
  absent : ∀ item ∉ pass.present, pass.latestAddition.lookup item = none

theorem follows_start (original : List FavoriteItemKey) :
    Follows original (start original) original where
  split := by
    have hkept : kept original (start original) = original := by
      refine List.filter_eq_self.mpr fun item hitem => decide_eq_true ⟨?_, Finset.notMem_empty _⟩
      exact List.mem_toFinset.mpr hitem
    rw [hkept]
    exact (List.append_nil original).symm
  present := fun item => List.mem_toFinset
  removed := fun item hitem habsent => absurd (List.mem_toFinset.mpr hitem) habsent
  absent := fun _ _ => Finmap.lookup_empty _

/-- The latest additions after one more. -/
theorem latest_add {pass : FavoriteItemPass} {item : FavoriteItemKey}
    (habsent : pass.latestAddition.lookup item = none)
    (present : Finset FavoriteItemKey) :
    latest { pass with
      present := present
      latestAddition := pass.latestAddition.insert item pass.additions.length
      additions := pass.additions ++ [item] } = latest pass ++ [item] := by
  unfold latest
  rw [List.zipIdx_append, List.filterMap_append]
  congr 1
  · refine List.filterMap_congr fun entry hentry => ?_
    have hindex : entry.2 < pass.additions.length := by
      have hlt := List.snd_lt_of_mem_zipIdx hentry
      omega
    dsimp only
    rw [Map.lookup_insert_ite]
    by_cases hsame : entry.1 = item
    · -- an earlier addition of the key was in force no more
      have hother : ¬ some pass.additions.length = some entry.2 := fun heq => by
        have hnat := Option.some.inj heq
        omega
      rw [if_pos hsame, if_neg hother, hsame, habsent, if_neg (by simp)]
    · rw [if_neg hsame]
  · have hfresh : (pass.latestAddition.insert item pass.additions.length).lookup item =
        some (0 + pass.additions.length) := by
      rw [Finmap.lookup_insert, Nat.zero_add]
    exact List.filterMap_cons_some (if_pos hfresh)

/-- The latest additions after a removal. -/
theorem latest_remove (pass : FavoriteItemPass) (item : FavoriteItemKey)
    (present removed : Finset FavoriteItemKey) :
    latest { pass with
      present := present
      removedOriginal := removed
      latestAddition := pass.latestAddition.erase item } =
        (latest pass).filter fun other => other != item := by
  unfold latest
  rw [List.filter_filterMap]
  refine List.filterMap_congr fun entry _ => ?_
  dsimp only
  rw [Map.lookup_erase_ite]
  by_cases hsame : entry.1 = item
  · rw [if_pos hsame, if_neg (by simp)]
    split
    next => exact (Option.filter_some_neg (by simp [hsame])).symm
    next => rfl
  · rw [if_neg hsame]
    split
    next => exact (Option.filter_some_pos (by simp [hsame])).symm
    next => rfl

theorem Follows.change {pass : FavoriteItemPass} {list : List FavoriteItemKey}
    (h : Follows original pass list) (hnodup : list.Nodup) (change : FavoriteItemChange) :
    Follows original (pass.change original change) (change.applied list) := by
  obtain ⟨item, operation⟩ := change
  cases operation with
  | add =>
    show Follows original (if item ∈ pass.present then pass else _)
      (if item ∈ list then list else list ++ [item])
    by_cases hpresent : item ∈ pass.present
    · rw [if_pos hpresent, if_pos ((h.present item).mp hpresent)]
      exact h
    · rw [if_neg hpresent, if_neg fun hlist => hpresent ((h.present item).mpr hlist)]
      have habsent := h.absent item hpresent
      exact {
        split := by
          rw [latest_add habsent, h.split, List.append_assoc]
          congr 1
          -- an original key that is added again was removed before
          refine List.filter_congr fun other hother => decide_eq_decide.mpr ?_
          rw [Finset.mem_insert]
          constructor
          · intro ⟨hin, hkept⟩
            exact ⟨Or.inr hin, hkept⟩
          · intro ⟨hin, hkept⟩
            refine ⟨hin.resolve_left fun hsame => hkept ?_, hkept⟩
            rw [hsame] at hother ⊢
            exact h.removed item hother hpresent
        present := by
          intro other
          rw [Finset.mem_insert, List.mem_append, List.mem_singleton, h.present, or_comm]
        removed := fun other hother habsent =>
          h.removed other hother fun hin => habsent (Finset.mem_insert_of_mem hin)
        absent := by
          intro other hother
          rw [Finset.mem_insert, not_or] at hother
          rw [Map.lookup_insert_ite, if_neg hother.1]
          exact h.absent other hother.2 }
  | remove =>
    show Follows original (if item ∈ pass.present then _ else pass) (list.erase item)
    by_cases hpresent : item ∈ pass.present
    · rw [if_pos hpresent]
      exact {
        split := by
          rw [latest_remove, hnodup.erase_eq_filter, h.split, List.filter_append]
          congr 1
          unfold kept
          rw [List.filter_filter]
          refine List.filter_congr fun other hother => ?_
          rw [Bool.eq_iff_iff, Bool.and_eq_true, bne_iff_ne, decide_eq_true_eq, decide_eq_true_eq,
            Finset.mem_erase]
          constructor
          · intro ⟨hne, hin, hkept⟩
            refine ⟨⟨hne, hin⟩, fun hremoved => hkept ?_⟩
            split at hremoved
            next => exact (Finset.mem_insert.mp hremoved).resolve_left hne
            next => exact hremoved
          · intro ⟨⟨hne, hin⟩, hkept⟩
            refine ⟨hne, hin, fun hremoved => hkept ?_⟩
            split
            next => exact Finset.mem_insert_of_mem hremoved
            next => exact hremoved
        present := by
          intro other
          rw [Finset.mem_erase, h.present, hnodup.mem_erase_iff]
        removed := by
          intro other hother habsent
          by_cases hsame : other = item
          · rw [if_pos (List.mem_toFinset.mpr (hsame ▸ hother)), hsame]
            exact Finset.mem_insert_self _ _
          · have hother' := h.removed other hother fun hin =>
              habsent (Finset.mem_erase.mpr ⟨hsame, hin⟩)
            split
            next => exact Finset.mem_insert_of_mem hother'
            next => exact hother'
        absent := by
          intro other hother
          rw [Map.lookup_erase_ite]
          split
          next => rfl
          next hother' => exact h.absent other fun hin => hother (Finset.mem_erase.mpr ⟨hother', hin⟩) }
    · rw [if_neg hpresent, List.erase_of_not_mem fun hlist => hpresent ((h.present item).mpr hlist)]
      exact h

/-- The pass and the changes stay together, and no key comes twice. -/
theorem Follows.changes {pass : FavoriteItemPass} {list : List FavoriteItemKey}
    (h : Follows original pass list) (hnodup : list.Nodup) (changes : List FavoriteItemChange) :
    Follows original (changes.foldl (FavoriteItemPass.change original) pass)
        (changes.foldl FavoriteItemChange.applied list) ∧
      (changes.foldl FavoriteItemChange.applied list).Nodup := by
  induction changes generalizing pass list with
  | nil => exact ⟨h, hnodup⟩
  | cons first rest ih =>
    exact ih (h.change hnodup first) (FavoriteItemChange.nodup_applied hnodup first)

/-- **The pass makes what the changes make one by one.** -/
theorem items_eq (hnodup : original.Nodup) (changes : List FavoriteItemChange) :
    items original changes = changes.foldl FavoriteItemChange.applied original :=
  ((follows_start original).changes hnodup changes).1.split.symm

theorem nodup_items (hnodup : original.Nodup) (changes : List FavoriteItemChange) :
    (items original changes).Nodup := by
  rw [items_eq hnodup]
  exact ((follows_start original).changes hnodup changes).2

end FavoriteItemPass

/-! ## Collections -/

/-- Distinct keys in the order of their insertion. -/
structure FavoriteItems where
  items : List FavoriteItemKey
  unique : items.Nodup

/-- `FavoriteItems::try_apply`. -/
def FavoriteItems.tryApply (collection : FavoriteItems) (changes : List FavoriteItemChange)
    (effectiveMaximum : Nat) : Except FavoriteItemStateError FavoriteItems :=
  if maxFavoriteItemUpdateRecords < changes.length then
    throw (.tooManyChanges changes.length maxFavoriteItemUpdateRecords)
  else
    let maximum := min effectiveMaximum defaultMaxFavoriteItemListRecords
    let items := FavoriteItemPass.items collection.items changes
    if maximum < items.length ∧ collection.items.length < items.length then
      throw (.tooManyItems items.length maximum)
    else return ⟨items, FavoriteItemPass.nodup_items collection.unique changes⟩

/-- The closure of `persist_favorite_item_changes` on a collection that is no legacy sidecar:
`apply_favorite_item_changes`, and the result is stored. -/
def persistFavoriteItemChanges (changes : List FavoriteItemChange) (maximumRecords : Nat) :
    Fallible FavoriteItems FavoriteItemStateError PUnit := do
  let currentItems ← get
  let next ← liftResult (currentItems.tryApply changes maximumRecords)
  set next

/-! ## Batches -/

namespace FavoriteItems

variable {collection result : FavoriteItems} {changes : List FavoriteItemChange} {maximum : Nat}

theorem tryApply_ok (h : changes.length ≤ maxFavoriteItemUpdateRecords) :
    collection.tryApply changes maximum = .ok result ↔
      result.items = changes.foldl FavoriteItemChange.applied collection.items ∧
        (result.items.length ≤ min maximum defaultMaxFavoriteItemListRecords ∨
          result.items.length ≤ collection.items.length) := by
  unfold tryApply
  rw [if_neg (by omega)]
  dsimp only
  have hitems := FavoriteItemPass.items_eq collection.unique changes
  by_cases hmany : min maximum defaultMaxFavoriteItemListRecords <
      (FavoriteItemPass.items collection.items changes).length ∧
    collection.items.length < (FavoriteItemPass.items collection.items changes).length
  · rw [if_pos hmany]
    refine iff_of_false (fun he => by cases he) ?_
    intro ⟨heq, hfits⟩
    rw [heq, ← hitems] at hfits
    omega
  · rw [if_neg hmany]
    constructor
    · intro hok
      cases hok
      exact ⟨hitems, by dsimp only; omega⟩
    · intro ⟨heq, _⟩
      obtain ⟨items, unique⟩ := result
      have hsame : FavoriteItemPass.items collection.items changes = items := hitems.trans heq.symm
      subst hsame
      rfl

/-- What a batch does to one key does not depend on what the batch is applied to, or is nothing. -/
theorem mem_changes (item : FavoriteItemKey) (changes : List FavoriteItemChange) :
    (∀ list : List FavoriteItemKey, list.Nodup →
        item ∈ changes.foldl FavoriteItemChange.applied list) ∨
      (∀ list : List FavoriteItemKey, list.Nodup →
        item ∉ changes.foldl FavoriteItemChange.applied list) ∨
      ∀ list : List FavoriteItemKey, list.Nodup →
        (item ∈ changes.foldl FavoriteItemChange.applied list ↔ item ∈ list) := by
  induction changes with
  | nil => exact Or.inr (Or.inr fun _ _ => Iff.rfl)
  | cons change rest ih =>
    have hnext := fun (list : List FavoriteItemKey) (h : list.Nodup) =>
      FavoriteItemChange.nodup_applied h change
    rcases ih with hin | hout | hsame
    · exact Or.inl fun list h => hin _ (hnext list h)
    · exact Or.inr (Or.inl fun list h => hout _ (hnext list h))
    · -- the rest leaves the key alone, so the first change decides
      obtain ⟨changed, operation⟩ := change
      by_cases hkey : item = changed
      · cases operation with
        | add =>
          refine Or.inl fun list h => (hsame _ (hnext list h)).mpr ?_
          show item ∈ if changed ∈ list then list else list ++ [changed]
          split
          next hold => exact hkey ▸ hold
          next => exact List.mem_append_right _ (List.mem_singleton.mpr hkey)
        | remove =>
          refine Or.inr (Or.inl fun list h hin => ?_)
          have herased : item ∈ list.erase changed := (hsame _ (hnext list h)).mp hin
          exact (h.mem_erase_iff.mp herased).1 hkey
      · refine Or.inr (Or.inr fun list h => (hsame _ (hnext list h)).trans ?_)
        cases operation with
        | add =>
          show (item ∈ if changed ∈ list then list else list ++ [changed]) ↔ item ∈ list
          split
          next => exact Iff.rfl
          next => rw [List.mem_append, List.mem_singleton, or_iff_left hkey]
        | remove => exact List.mem_erase_of_ne hkey

/-- A second time a batch changes no key. -/
theorem changes_twice (changes : List FavoriteItemChange) {list : List FavoriteItemKey}
    (h : list.Nodup) : (changes.foldl FavoriteItemChange.applied
        (changes.foldl FavoriteItemChange.applied list)).Perm
      (changes.foldl FavoriteItemChange.applied list) := by
  have honce := ((FavoriteItemPass.follows_start list).changes h changes).2
  have htwice := ((FavoriteItemPass.follows_start _).changes honce changes).2
  refine (List.perm_ext_iff_of_nodup htwice honce).mpr fun item => ?_
  rcases mem_changes item changes with hin | hout | hsame
  · exact iff_of_true (hin _ honce) (hin _ h)
  · exact iff_of_false (hout _ honce) (hout _ h)
  · exact hsame _ honce

end FavoriteItems

/-- **A batch of changes.** It succeeds exactly when the changes, one by one, make a list that
is within the limit or no longer than it was, and then makes that list; a failure leaves what
is stored; and a batch that succeeded succeeds again and changes no key. -/
theorem favoriteItems_batch (collection : FavoriteItems) (changes : List FavoriteItemChange)
    (maximum : Nat) (hbatch : changes.length ≤ maxFavoriteItemUpdateRecords) :
    ((∃ result, collection.tryApply changes maximum = .ok result) ↔
      (changes.foldl FavoriteItemChange.applied collection.items).length ≤
          min maximum defaultMaxFavoriteItemListRecords ∨
        (changes.foldl FavoriteItemChange.applied collection.items).length ≤
          collection.items.length) ∧
    (∀ result, collection.tryApply changes maximum = .ok result →
      result.items = changes.foldl FavoriteItemChange.applied collection.items ∧
        result.items.Nodup) ∧
    Atomic (persistFavoriteItemChanges changes maximum) ∧
    ∀ result, collection.tryApply changes maximum = .ok result →
      ∃ again, result.tryApply changes maximum = .ok again ∧
        ∀ item, item ∈ again.items ↔ item ∈ result.items := by
  have hnodup := ((FavoriteItemPass.follows_start collection.items).changes collection.unique
    changes).2
  refine ⟨⟨fun ⟨result, hok⟩ => ?_, fun hfits => ?_⟩, fun result hok => ?_, ?_,
    fun result hok => ?_⟩
  · obtain ⟨hitems, hfits⟩ := (FavoriteItems.tryApply_ok hbatch).mp hok
    rw [← hitems]
    exact hfits
  · exact ⟨⟨_, hnodup⟩, (FavoriteItems.tryApply_ok hbatch).mpr ⟨rfl, hfits⟩⟩
  · exact ⟨((FavoriteItems.tryApply_ok hbatch).mp hok).1, result.unique⟩
  · exact readsOnly_get.bind fun items =>
      (readsOnly_liftResult _).atomic.bind fun next => succeeds_set next
  · obtain ⟨hitems, _⟩ := (FavoriteItems.tryApply_ok hbatch).mp hok
    have hperm := FavoriteItems.changes_twice changes collection.unique
    rw [← hitems] at hperm
    have hagain := ((FavoriteItemPass.follows_start result.items).changes result.unique changes).2
    refine ⟨⟨_, hagain⟩, (FavoriteItems.tryApply_ok hbatch).mpr ⟨rfl, Or.inr ?_⟩, fun item => ?_⟩
    · exact le_of_eq hperm.length_eq
    · exact hperm.mem_iff

/-- Two keys. -/
def sampleFavorites : FavoriteItems := ⟨[⟨3, 1, 1⟩, ⟨3, 2, 1⟩], by decide⟩

/-- A key that is removed and added again goes to the end, above the limit as well. -/
theorem sampleFavorites_moved : ∃ result, sampleFavorites.tryApply
    [⟨⟨3, 1, 1⟩, .remove⟩, ⟨⟨3, 1, 1⟩, .add⟩] 1 = .ok result ∧
      result.items = [⟨3, 2, 1⟩, ⟨3, 1, 1⟩] := by
  obtain ⟨hsucceeds, hlist, -, -⟩ := favoriteItems_batch sampleFavorites
    [⟨⟨3, 1, 1⟩, .remove⟩, ⟨⟨3, 1, 1⟩, .add⟩] 1 (by decide)
  obtain ⟨result, hresult⟩ := hsucceeds.mpr (Or.inr (by decide))
  exact ⟨result, hresult, (hlist result hresult).1⟩

end P4475
