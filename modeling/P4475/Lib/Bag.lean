import Mathlib.Data.List.Nodup
import Mathlib.Data.List.Perm.Subperm

/-!
# Drawing without repetition

Items are drawn from a list until each has been drawn once, and then again from all of them; the
item drawn last is left out as long as there is another one. The items may change between two
draws: what is no longer an item is forgotten. `Rounds` says what was drawn while they stay the
same: one permutation of the items after the other, and part of the next.
-/

namespace P4475.Lib

variable {α : Type} [DecidableEq α]

/-- The drawn items that still count: once all are drawn, none. -/
def carried (items used : List α) : List α :=
  let kept := used.filter (· ∈ items)
  if items.length ≤ kept.length then [] else kept

/-- The items that may be drawn next. -/
def available (items used : List α) (last : Option α) : List α :=
  let rest := items.filter (· ∉ carried items used)
  let rest := if 1 < rest.length then rest.filter (some · ≠ last) else rest
  if rest = [] then items else rest

variable {items used : List α} {last : Option α} {x y : α}

theorem mem_of_available (h : x ∈ available items used last) : x ∈ items := by
  unfold available at h
  dsimp only at h
  split at h
  next =>
    split at h
    next => exact h
    next => exact (List.mem_filter.mp (List.mem_filter.mp h).1).1
  next =>
    split at h
    next => exact h
    next => exact (List.mem_filter.mp h).1

theorem available_ne_nil (h : items ≠ []) : available items used last ≠ [] := by
  unfold available
  dsimp only
  by_cases hrest : (if 1 < (items.filter (· ∉ carried items used)).length then
      (items.filter (· ∉ carried items used)).filter (some · ≠ last)
      else items.filter (· ∉ carried items used)) = []
  · rw [if_pos hrest]
    exact h
  · rw [if_neg hrest]
    exact hrest

/-- Something is left to draw: what counts as drawn is never all of the items. -/
theorem exists_notMem_carried (hn : items.Nodup) (h : items ≠ []) :
    ∃ x ∈ items, x ∉ carried items used := by
  by_contra hall
  push Not at hall
  have hsub : items.Subperm (carried items used) := hn.subperm hall
  have hle := hsub.length_le
  unfold carried at hle
  dsimp only at hle
  split at hle
  next =>
    rw [List.length_nil] at hle
    exact h (List.length_eq_zero_iff.mp (Nat.le_zero.mp hle))
  next hlt => omega

/-- The last resort is never taken: leaving out the last item leaves another one. -/
theorem available_eq (hn : items.Nodup) (h : items ≠ []) : available items used last =
    if 1 < (items.filter (· ∉ carried items used)).length then
      (items.filter (· ∉ carried items used)).filter (some · ≠ last)
    else items.filter (· ∉ carried items used) := by
  obtain ⟨x, hx, hfresh⟩ : ∃ x ∈ items, x ∉ carried items used := exists_notMem_carried hn h
  have hmem : x ∈ items.filter (· ∉ carried items used) :=
    List.mem_filter.mpr ⟨hx, decide_eq_true hfresh⟩
  unfold available
  dsimp only
  refine if_neg ?_
  by_cases hmany : 1 < (items.filter (· ∉ carried items used)).length
  · rw [if_pos hmany]
    intro hnil
    -- all of two or more items would be the last one
    have hall : ∀ y ∈ items.filter (· ∉ carried items used), some y = last := by
      intro y hy
      by_contra hne
      have hstill : y ∈ (items.filter (· ∉ carried items used)).filter (some · ≠ last) :=
        List.mem_filter.mpr ⟨hy, decide_eq_true hne⟩
      rw [hnil] at hstill
      exact absurd hstill List.not_mem_nil
    have hsame : ∀ y ∈ items.filter (· ∉ carried items used), y = x := fun y hy =>
      Option.some.inj ((hall y hy).trans (hall x hmem).symm)
    have hone : (items.filter (· ∉ carried items used)).Subperm [x] :=
      (hn.filter _).subperm fun y hy => List.mem_singleton.mpr (hsame y hy)
    have hle := hone.length_le
    rw [List.length_singleton] at hle
    omega
  · rw [if_neg hmany]
    exact List.ne_nil_of_mem hmem

theorem notMem_carried_of_available (hn : items.Nodup) (h : x ∈ available items used last) :
    x ∉ carried items used := by
  rw [available_eq hn (List.ne_nil_of_mem (mem_of_available h))] at h
  split at h
  next => exact of_decide_eq_true (List.mem_filter.mp (List.mem_filter.mp h).1).2
  next => exact of_decide_eq_true (List.mem_filter.mp h).2

/-- Of two or more items the last one is not drawn again at once. -/
theorem ne_last_of_available (hn : items.Nodup) (hmany : 2 ≤ items.length) (hlast : y ∈ used)
    (h : x ∈ available items used (some y)) : x ≠ y := by
  intro hxy
  have hitem := mem_of_available h
  have hfresh := notMem_carried_of_available hn h
  rw [available_eq hn (List.ne_nil_of_mem hitem)] at h
  split at h
  next =>
    have hne := of_decide_eq_true (List.mem_filter.mp h).2
    exact hne (congrArg some hxy)
  next hfew =>
    -- the last item counts as drawn, unless the round is over, and then there are many
    rw [hxy] at hitem hfresh
    have hkept : y ∈ used.filter (· ∈ items) :=
      List.mem_filter.mpr ⟨hlast, decide_eq_true hitem⟩
    unfold carried at hfresh hfew
    dsimp only at hfresh hfew
    by_cases hover : items.length ≤ (used.filter (· ∈ items)).length
    · rw [if_pos hover] at hfew
      rw [List.filter_eq_self.mpr (by simp)] at hfew
      omega
    · rw [if_neg hover] at hfresh
      exact hfresh hkept

/-! ## Rounds -/

/-- What was drawn of items that stay the same: whole rounds, and what counts as drawn of the
present one. -/
structure Rounds (items drawn used : List α) : Prop where
  whole : ∃ rounds : List (List α), (∀ round ∈ rounds, round.Perm items) ∧
    drawn = rounds.flatten ++ used
  distinct : used.Nodup
  items : ∀ x ∈ used, x ∈ items

omit [DecidableEq α] in
theorem Rounds.start (items : List α) : Rounds items [] [] :=
  ⟨⟨[], fun _ h => absurd h List.not_mem_nil, rfl⟩, List.nodup_nil,
    fun _ h => absurd h List.not_mem_nil⟩

theorem Rounds.draw {drawn : List α} (hn : items.Nodup) (h : Rounds items drawn used)
    (hx : x ∈ available items used last) :
    Rounds items (drawn ++ [x]) (carried items used ++ [x]) := by
  obtain ⟨⟨rounds, hrounds, hdrawn⟩, hdistinct, hitems⟩ := h
  have hfresh := notMem_carried_of_available hn hx
  have hkept : used.filter (· ∈ items) = used :=
    List.filter_eq_self.mpr fun y hy => decide_eq_true (hitems y hy)
  unfold carried at hfresh ⊢
  dsimp only at hfresh ⊢
  rw [hkept] at hfresh ⊢
  by_cases hover : items.length ≤ used.length
  · -- the round is over: it is a permutation of the items
    rw [if_pos hover, List.nil_append]
    have hround : used.Perm items := (hdistinct.subperm hitems).perm_of_length_le hover
    refine ⟨⟨rounds ++ [used], ?_, ?_⟩, List.nodup_singleton x, ?_⟩
    · intro round hr
      rcases List.mem_append.mp hr with hr | hr
      · exact hrounds round hr
      · rw [List.mem_singleton.mp hr]
        exact hround
    · rw [hdrawn, List.flatten_append, List.flatten_singleton]
    · intro y hy
      rw [List.mem_singleton.mp hy]
      exact mem_of_available hx
  · rw [if_neg hover] at hfresh ⊢
    refine ⟨⟨rounds, hrounds, by rw [hdrawn, List.append_assoc]⟩, ?_, ?_⟩
    · refine List.nodup_append.mpr ⟨hdistinct, List.nodup_singleton x, fun a ha b hb hab => ?_⟩
      rw [List.mem_singleton.mp hb] at hab
      exact hfresh (hab ▸ ha)
    · intro y hy
      rcases List.mem_append.mp hy with hy | hy
      · exact hitems y hy
      · rw [List.mem_singleton.mp hy]
        exact mem_of_available hx

end P4475.Lib
