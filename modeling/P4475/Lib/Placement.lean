import Mathlib.Data.List.Basic

/-!
# Placing an entry among those that are there

A new entry goes before the nearest of the candidates behind it that is there, or after the nearest
of those in front of it, or to the end. Wherever it goes, the rest stays in its order.
-/

namespace P4475.Lib

variable {α γ : Type}

/-- `after` is `before` with one more entry. -/
def Inserted (a : α) (before after : List α) : Prop :=
  ∃ front back, before = front ++ back ∧ after = front ++ a :: back

theorem Inserted.filter_neg {a : α} {before after : List α} (h : Inserted a before after)
    {keep : α → Bool} (ha : keep a = false) : after.filter keep = before.filter keep := by
  obtain ⟨front, back, rfl, rfl⟩ := h
  rw [List.filter_append, List.filter_append, List.filter_cons_of_neg (by simp [ha])]

theorem Inserted.countP_pos {a : α} {before after : List α} (h : Inserted a before after)
    {p : α → Bool} (ha : p a = true) : after.countP p = before.countP p + 1 := by
  obtain ⟨front, back, rfl, rfl⟩ := h
  rw [List.countP_append, List.countP_append, List.countP_cons_of_pos ha]
  omega

theorem Inserted.countP_neg {a : α} {before after : List α} (h : Inserted a before after)
    {p : α → Bool} (ha : p a = false) : after.countP p = before.countP p := by
  rw [List.countP_eq_length_filter, List.countP_eq_length_filter, h.filter_neg ha]

/-- Where the first candidate that is there is found first. -/
def nearest (found : γ → α → Bool) (candidates : List γ) (l : List α) : Option Nat :=
  candidates.findSome? fun c => l.findIdx? (found c)

/-- A list is without a candidate. -/
def Missing (found : γ → α → Bool) (l : List α) (c : γ) : Prop := ∀ a ∈ l, found c a = false

theorem nearest_cons_of_missing {found : γ → α → Bool} {c : γ} {candidates : List γ} {l : List α}
    (h : Missing found l c) : nearest found (c :: candidates) l = nearest found candidates l := by
  unfold nearest
  rw [List.findSome?_cons, List.findIdx?_eq_none_iff.mpr h]

theorem nearest_none {found : γ → α → Bool} {candidates : List γ} {l : List α}
    (h : ∀ c ∈ candidates, Missing found l c) : nearest found candidates l = none := by
  induction candidates with
  | nil => rfl
  | cons c candidates ih =>
    rw [nearest_cons_of_missing (h c List.mem_cons_self)]
    exact ih fun c' hc' => h c' (List.mem_cons_of_mem _ hc')

theorem findIdx?_split {p : α → Bool} {front back : List α} {a : α} (ha : p a = true)
    (hfront : ∀ b ∈ front, p b = false) :
    (front ++ a :: back).findIdx? p = some front.length := by
  induction front with
  | nil => rw [List.nil_append, List.findIdx?_cons, if_pos ha, List.length_nil]
  | cons b front ih =>
    rw [List.cons_append, List.findIdx?_cons, if_neg (by simp [hfront b List.mem_cons_self]),
      ih fun b' hb' => hfront b' (List.mem_cons_of_mem _ hb'), List.length_cons]
    rfl

theorem nearest_split {found : γ → α → Bool} {skipped more : List γ} {c : γ} {front back : List α}
    {a : α} (hskipped : ∀ c' ∈ skipped, Missing found (front ++ a :: back) c')
    (ha : found c a = true) (hfront : Missing found front c) :
    nearest found (skipped ++ c :: more) (front ++ a :: back) = some front.length := by
  induction skipped with
  | nil =>
    unfold nearest
    rw [List.nil_append, List.findSome?_cons, findIdx?_split ha hfront]
  | cons c' skipped ih =>
    rw [List.cons_append, nearest_cons_of_missing (hskipped c' List.mem_cons_self)]
    exact ih fun c'' hc'' => hskipped c'' (List.mem_cons_of_mem _ hc'')

theorem nearest_lt {found : γ → α → Bool} {candidates : List γ} {l : List α} {k : Nat}
    (h : nearest found candidates l = some k) : k < l.length := by
  unfold nearest at h
  obtain ⟨c, -, hc⟩ := List.exists_of_findSome?_eq_some h
  exact (List.findIdx?_eq_some_iff_getElem.mp hc).1

/-- Where an entry goes, whose candidates in front and behind are given in their order. -/
def placeIndex (found : γ → α → Bool) (earlier later : List γ) (l : List α) : Nat :=
  ((nearest found later l).or ((nearest found earlier.reverse l).map (· + 1))).getD l.length

theorem placeIndex_le (found : γ → α → Bool) (earlier later : List γ) (l : List α) :
    placeIndex found earlier later l ≤ l.length := by
  unfold placeIndex
  cases hlater : nearest found later l with
  | some k => exact Nat.le_of_lt (nearest_lt hlater)
  | none =>
    cases hearlier : nearest found earlier.reverse l with
    | some k => exact nearest_lt hearlier
    | none => exact Nat.le_refl _

theorem insertIdx_length (a : α) (front back : List α) :
    (front ++ back).insertIdx front.length a = front ++ a :: back := by
  induction front with
  | nil => rfl
  | cons b front ih => exact congrArg (b :: ·) ih

theorem inserted_insertIdx {l : List α} {k : Nat} (a : α) (h : k ≤ l.length) :
    Inserted a l (l.insertIdx k a) := by
  have hlength : (l.take k).length = k := by
    rw [List.length_take]
    omega
  have hplace := insertIdx_length a (l.take k) (l.drop k)
  rw [List.take_append_drop, hlength] at hplace
  exact ⟨l.take k, l.drop k, (List.take_append_drop k l).symm, hplace⟩

/-- **Before the nearest candidate behind it.** -/
theorem insertIdx_before {found : γ → α → Bool} {earlier skipped more : List γ} {c : γ}
    {front back : List α} {b : α}
    (hskipped : ∀ c' ∈ skipped, Missing found (front ++ b :: back) c')
    (hb : found c b = true) (hfront : Missing found front c) (a : α) :
    (front ++ b :: back).insertIdx
        (placeIndex found earlier (skipped ++ c :: more) (front ++ b :: back)) a =
      front ++ a :: b :: back := by
  unfold placeIndex
  rw [nearest_split hskipped hb hfront]
  exact insertIdx_length a front (b :: back)

/-- **After the nearest candidate in front of it**, if none behind it is there. -/
theorem insertIdx_after {found : γ → α → Bool} {more skipped later : List γ} {c : γ}
    {front back : List α} {b : α}
    (hlater : ∀ c' ∈ later, Missing found (front ++ b :: back) c')
    (hskipped : ∀ c' ∈ skipped, Missing found (front ++ b :: back) c')
    (hb : found c b = true) (hfront : Missing found front c) (a : α) :
    (front ++ b :: back).insertIdx
        (placeIndex found (more ++ c :: skipped) later (front ++ b :: back)) a =
      front ++ b :: a :: back := by
  have hreverse : (more ++ c :: skipped).reverse = skipped.reverse ++ c :: more.reverse := by
    simp
  have hback : ∀ c' ∈ skipped.reverse, Missing found (front ++ b :: back) c' :=
    fun c' hc' => hskipped c' (List.mem_reverse.mp hc')
  unfold placeIndex
  rw [nearest_none hlater, hreverse, nearest_split hback hb hfront]
  have happend : front ++ b :: back = (front ++ [b]) ++ back := by simp
  have hlength : front.length + 1 = (front ++ [b]).length := by simp
  show (front ++ b :: back).insertIdx (front.length + 1) a = _
  rw [happend, hlength, insertIdx_length]
  simp

end P4475.Lib
