import Mathlib.Data.List.Basic

/-!
# The first match in a list

`editFirst` gives the first entry that matches a new form, or puts a new entry behind all
of them. In a list of named values, `assocSet` is that edit and `assocGet` reads the first
value of a name. Entries before the match, and other entries behind it, stay where they
are.
-/

namespace P4475.Lib

section EditFirst

variable {α : Type} {found : α → Bool} {edit : α → α} {fresh : α}

/-- The first match in its new form, or `fresh` in its new form at the end. -/
def editFirst (found : α → Bool) (edit : α → α) (fresh : α) : List α → List α
  | [] => [edit fresh]
  | a :: rest => if found a then edit a :: rest else a :: editFirst found edit fresh rest

theorem editFirst_split {before after : List α} {entry : α} (hentry : found entry = true)
    (hbefore : ∀ a ∈ before, found a = false) :
    editFirst found edit fresh (before ++ entry :: after) = before ++ edit entry :: after := by
  induction before with
  | nil => exact if_pos hentry
  | cons a rest ih =>
    have ha := hbefore a List.mem_cons_self
    rw [List.cons_append, editFirst, if_neg (by simp [ha]),
      ih fun a hmem => hbefore a (List.mem_cons_of_mem _ hmem), List.cons_append]

theorem editFirst_none {l : List α} (h : ∀ a ∈ l, found a = false) :
    editFirst found edit fresh l = l ++ [edit fresh] := by
  induction l with
  | nil => rfl
  | cons a rest ih =>
    have ha := h a List.mem_cons_self
    rw [editFirst, if_neg (by simp [ha]), ih fun a hmem => h a (List.mem_cons_of_mem _ hmem),
      List.cons_append]

/-- A list is split by its first match, or has none. -/
theorem first_match (found : α → Bool) (l : List α) :
    (∃ before entry after, l = before ++ entry :: after ∧ found entry = true ∧
      ∀ a ∈ before, found a = false) ∨ ∀ a ∈ l, found a = false := by
  induction l with
  | nil => exact .inr fun a hmem => absurd hmem List.not_mem_nil
  | cons a rest ih =>
    by_cases ha : found a = true
    · exact .inl ⟨[], a, rest, rfl, ha, fun a hmem => absurd hmem List.not_mem_nil⟩
    · rw [Bool.not_eq_true] at ha
      rcases ih with ⟨before, entry, after, hrest, hentry, hbefore⟩ | hnone
      · refine .inl ⟨a :: before, entry, after, congrArg (a :: ·) hrest, hentry, ?_⟩
        exact List.forall_mem_cons.mpr ⟨ha, hbefore⟩
      · exact .inr (List.forall_mem_cons.mpr ⟨ha, hnone⟩)

/-- What holds of all entries, when one of them is replaced. -/
theorem forall_replaced {P : α → Prop} {before after : List α} {entry entry' : α}
    (h : ∀ a ∈ before ++ entry :: after, P a) (hentry : P entry') :
    ∀ a ∈ before ++ entry' :: after, P a := by
  rw [List.forall_mem_append, List.forall_mem_cons] at h ⊢
  exact ⟨h.1, hentry, h.2.2⟩

/-- An edit whose result is a match that it would not change is made once only. -/
theorem editFirst_editFirst (hfound : ∀ a, found a = true → found (edit a) = true)
    (hfresh : found (edit fresh) = true) (hedit : ∀ a, edit (edit a) = edit a) (l : List α) :
    editFirst found edit fresh (editFirst found edit fresh l) = editFirst found edit fresh l := by
  rcases first_match found l with ⟨before, entry, after, hl, hentry, hbefore⟩ | hnone
  · rw [hl, editFirst_split hentry hbefore, editFirst_split (hfound entry hentry) hbefore, hedit]
  · rw [editFirst_none hnone, editFirst_split hfresh hnone, hedit]

/-- Without a match there is nothing to change. -/
theorem map_unmatched {l : List α} (h : l.findIdx? found = none) :
    l.map (fun a => if found a then edit a else a) = l := by
  rw [List.findIdx?_eq_none_iff] at h
  refine (List.map_congr_left fun a ha => ?_).trans (List.map_id l)
  rw [if_neg (by simp [h a ha])]
  rfl

/-- Where at most one entry matches, changing the first match is changing every match. -/
theorem modify_first {l : List α} {k : Nat} (hk : l.findIdx? found = some k)
    (hone : l.Pairwise fun a b => found a = true → found b = false) :
    l.modify k edit = l.map fun a => if found a then edit a else a := by
  induction l generalizing k with
  | nil => cases hk
  | cons a rest ih =>
    obtain ⟨hhead, htail⟩ := List.pairwise_cons.mp hone
    rw [List.findIdx?_cons] at hk
    rw [List.map_cons]
    cases ha : found a with
    | true =>
      rw [ha] at hk
      cases hk
      -- the match is at the head, and nothing behind it matches
      have hrest : rest.findIdx? found = none :=
        List.findIdx?_eq_none_iff.mpr fun b hb => hhead b hb ha
      rw [if_pos rfl, map_unmatched hrest, List.modify_zero_cons]
    | false =>
      rw [ha] at hk
      obtain ⟨j, hj, rfl⟩ := Option.map_eq_some_iff.mp hk
      rw [if_neg (by simp), List.modify_succ_cons, ih hj htail]

end EditFirst

/-! ## Named values -/

section Assoc

variable {κ β : Type}

/-- Every entry is in its place with its name, and with its value unless its name is one of
some names; what is new stands behind and has one of these names. -/
structure Retained (names : List κ) (before after : List (κ × β)) : Prop where
  kept : ∀ (i : Nat) (name : κ) (value : β), before[i]? = some (name, value) →
    ∃ value' : β, after[i]? = some (name, value') ∧ (name ∉ names → value' = value)
  added : ∀ (i : Nat) (name : κ) (value : β), before.length ≤ i →
    after[i]? = some (name, value) → name ∈ names

theorem Retained.refl (names : List κ) (l : List (κ × β)) : Retained names l l where
  kept := fun _ _ value h => ⟨value, h, fun _ => rfl⟩
  added := by
    intro i name value hle h
    rw [List.getElem?_eq_none hle] at h
    cases h

theorem Retained.trans {names : List κ} {l₁ l₂ l₃ : List (κ × β)} (h : Retained names l₁ l₂)
    (h' : Retained names l₂ l₃) : Retained names l₁ l₃ where
  kept := by
    intro i name value hi
    obtain ⟨value₂, hi₂, hsame⟩ := h.kept i name value hi
    obtain ⟨value₃, hi₃, hsame'⟩ := h'.kept i name value₂ hi₂
    exact ⟨value₃, hi₃, fun hname => (hsame' hname).trans (hsame hname)⟩
  added := by
    intro i name value hle hi
    by_cases hmid : i < l₂.length
    · -- an entry of the list between, which has kept its name
      obtain ⟨entry, hentry⟩ : ∃ entry, l₂[i]? = some entry := ⟨_, List.getElem?_eq_getElem hmid⟩
      obtain ⟨value', hi', _⟩ := h'.kept i entry.1 entry.2 hentry
      rw [hi] at hi'
      cases hi'
      exact h.added i entry.1 entry.2 hle hentry
    · exact h'.added i name value (by omega) hi

variable [DecidableEq κ]

/-- The first value of a name. -/
def assocGet (name : κ) (l : List (κ × β)) : Option β :=
  l.findSome? fun candidate => if candidate.1 = name then some candidate.2 else none

/-- The first entry of a name with a value, or a new entry. -/
def assocSet (name : κ) (value : β) : List (κ × β) → List (κ × β) :=
  editFirst (fun candidate => candidate.1 = name) (fun candidate => (candidate.1, value))
    (name, value)

theorem assocSet_cons (name : κ) (value : β) (entry : κ × β) (rest : List (κ × β)) :
    assocSet name value (entry :: rest) =
      if entry.1 = name then (entry.1, value) :: rest else entry :: assocSet name value rest := by
  unfold assocSet
  rw [editFirst]
  by_cases h : entry.1 = name
  · rw [if_pos (decide_eq_true h), if_pos h]
  · rw [if_neg (by simp [h]), if_neg h]

theorem assocGet_cons (name : κ) (entry : κ × β) (rest : List (κ × β)) :
    assocGet name (entry :: rest) =
      if entry.1 = name then some entry.2 else assocGet name rest := by
  unfold assocGet
  rw [List.findSome?_cons]
  by_cases h : entry.1 = name
  · rw [if_pos h, if_pos h]
  · rw [if_neg h, if_neg h]

theorem assocGet_assocSet (name other : κ) (value : β) (l : List (κ × β)) :
    assocGet other (assocSet name value l) = if name = other then some value
      else assocGet other l := by
  induction l with
  | nil =>
    show assocGet other [(name, value)] = _
    rw [assocGet_cons]
  | cons entry rest ih =>
    rw [assocSet_cons]
    by_cases hentry : entry.1 = name
    · rw [if_pos hentry, assocGet_cons, assocGet_cons, hentry]
      by_cases hname : name = other
      · rw [if_pos hname, if_pos hname]
      · rw [if_neg hname, if_neg hname, if_neg hname]
    · rw [if_neg hentry, assocGet_cons, assocGet_cons, ih]
      by_cases hother : entry.1 = other
      · rw [if_pos hother, if_neg (fun h => hentry (hother.trans h.symm)), if_pos hother]
      · rw [if_neg hother, if_neg hother]

/-- Setting a value that is there already changes nothing. -/
theorem assocSet_of_get {name : κ} {value : β} {l : List (κ × β)}
    (h : assocGet name l = some value) : assocSet name value l = l := by
  induction l with
  | nil => exact absurd h (by simp [assocGet])
  | cons entry rest ih =>
    rw [assocGet_cons] at h
    rw [assocSet_cons]
    by_cases hentry : entry.1 = name
    · rw [if_pos hentry] at h
      rw [if_pos hentry, ← Option.some.inj h]
    · rw [if_neg hentry] at h
      rw [if_neg hentry, ih h]

theorem retained_assocSet {names : List κ} {name : κ} (hname : name ∈ names) (value : β)
    (l : List (κ × β)) : Retained names l (assocSet name value l) := by
  rcases first_match (fun candidate : κ × β => decide (candidate.1 = name)) l with
    ⟨before, entry, after, hl, hentry, hbefore⟩ | hnone
  · have hset : assocSet name value l = before ++ (entry.1, value) :: after := by
      rw [hl]
      exact editFirst_split hentry hbefore
    have hmem : entry.1 ∈ names := by
      rw [of_decide_eq_true hentry]
      exact hname
    rw [hset, hl]
    constructor
    · intro i other value' hi
      by_cases hat : i = before.length
      · subst hat
        rw [List.getElem?_append_right (Nat.le_refl _), Nat.sub_self] at hi ⊢
        cases hi
        exact ⟨value, rfl, fun hnot => absurd hmem hnot⟩
      · refine ⟨value', ?_, fun _ => rfl⟩
        rw [← hi]
        rcases Nat.lt_or_gt_of_ne hat with hlt | hgt
        · rw [List.getElem?_append_left hlt, List.getElem?_append_left hlt]
        · obtain ⟨k, hk⟩ : ∃ k, i - before.length = k + 1 := ⟨i - before.length - 1, by omega⟩
          rw [List.getElem?_append_right (by omega), List.getElem?_append_right (by omega), hk]
          rfl
    · intro i other value' hle hi
      rw [List.getElem?_eq_none (by simpa using hle)] at hi
      cases hi
  · have hset : assocSet name value l = l ++ [(name, value)] := editFirst_none hnone
    rw [hset]
    constructor
    · intro i other value' hi
      obtain ⟨hlt, _⟩ := List.getElem?_eq_some_iff.mp hi
      exact ⟨value', by rw [List.getElem?_append_left hlt, hi], fun _ => rfl⟩
    · intro i other value' hle hi
      rw [List.getElem?_append_right hle] at hi
      obtain ⟨hlt, hat⟩ := List.getElem?_eq_some_iff.mp hi
      have hzero : i - l.length = 0 := by
        simp only [List.length_singleton] at hlt
        omega
      simp only [hzero, List.getElem_cons_zero] at hat
      cases hat
      exact hname

end Assoc

end P4475.Lib
