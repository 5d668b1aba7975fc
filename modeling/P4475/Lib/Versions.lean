import Mathlib.Data.List.Basic

/-!
# Numbered versions

The versions of one thing, each a file under its own number, kept newest first. A version is
created only under a number that is free, and erased by its number; nothing replaces a file.
Numbers start at one, so the `top` of no versions at all is zero and `next` is always one
above it.
-/

namespace P4475.Lib

variable {F : Type}

/-- Files by their numbers, newest first. -/
structure Versions (F : Type) where
  files : List (Nat × F)
  descending : files.Pairwise fun newer older => older.1 < newer.1
  positive : ∀ file ∈ files, 0 < file.1

namespace Versions

variable (v : Versions F)

/-- The numbers in use, highest first. -/
def numbers : List Nat := v.files.map Prod.fst

def newest : Option Nat := v.numbers.head?

def lookup (n : Nat) : Option F := (v.files.find? fun file => file.1 = n).map Prod.snd

/-- The highest number in use, or zero. -/
def top : Nat := v.newest.getD 0

/-- The number after the newest one. -/
def next : Option Nat → Nat
  | none => 1
  | some n => n + 1

def empty : Versions F := ⟨[], .nil, fun _ h => absurd h List.not_mem_nil⟩

/-- One version alone. -/
def single (n : Nat) (file : F) (h : 0 < n) : Versions F :=
  ⟨[(n, file)], List.pairwise_singleton _ _, fun _ hfile => by
    rw [List.mem_singleton.mp hfile]
    exact h⟩

/-- Without the file of this number. -/
def erase (n : Nat) : Versions F where
  files := v.files.filter fun file => file.1 ≠ n
  descending := v.descending.filter _
  positive file h := v.positive file (List.mem_of_mem_filter h)

/-- The files with a new one at its place. -/
def insertFile (n : Nat) (file : F) : List (Nat × F) → List (Nat × F)
  | [] => [(n, file)]
  | newer :: rest =>
    if newer.1 < n then (n, file) :: newer :: rest else newer :: insertFile n file rest

variable {v}

theorem mem_insertFile {n : Nat} {file : F} {files : List (Nat × F)} {other : Nat × F} :
    other ∈ insertFile n file files ↔ other = (n, file) ∨ other ∈ files := by
  induction files with
  | nil => simp [insertFile]
  | cons newer rest ih =>
    unfold insertFile
    by_cases hlt : newer.1 < n
    · rw [if_pos hlt, List.mem_cons]
    · rw [if_neg hlt, List.mem_cons, ih, List.mem_cons]
      constructor
      · rintro (h | h | h)
        exacts [.inr (.inl h), .inl h, .inr (.inr h)]
      · rintro (h | h | h)
        exacts [.inr (.inl h), .inl h, .inr (.inr h)]

theorem pairwise_insertFile {n : Nat} {file : F} {files : List (Nat × F)}
    (h : files.Pairwise fun newer older => older.1 < newer.1)
    (hn : ∀ other ∈ files, other.1 ≠ n) :
    (insertFile n file files).Pairwise fun newer older => older.1 < newer.1 := by
  induction files with
  | nil => exact List.pairwise_singleton _ _
  | cons newer rest ih =>
    unfold insertFile
    obtain ⟨hnewer, hrest⟩ := List.pairwise_cons.mp h
    by_cases hlt : newer.1 < n
    · rw [if_pos hlt]
      refine List.pairwise_cons.mpr ⟨fun other hother => ?_, h⟩
      rcases List.mem_cons.mp hother with rfl | hother
      · exact hlt
      · exact Nat.lt_trans (hnewer other hother) hlt
    · rw [if_neg hlt]
      refine List.pairwise_cons.mpr
        ⟨fun other hother => ?_, ih hrest fun other hother => hn other (List.mem_cons_of_mem _ hother)⟩
      rcases mem_insertFile.mp hother with rfl | hother
      · -- the new file is not newer, and the number is free
        have hne := hn newer List.mem_cons_self
        show n < newer.1
        omega
      · exact hnewer other hother

theorem mem_numbers {n : Nat} : n ∈ v.numbers ↔ ∃ file, (n, file) ∈ v.files := by
  unfold numbers
  constructor
  · intro h
    obtain ⟨⟨m, file⟩, hfile, rfl⟩ := List.mem_map.mp h
    exact ⟨file, hfile⟩
  · intro ⟨file, hfile⟩
    exact List.mem_map.mpr ⟨(n, file), hfile, rfl⟩

/-- Create a version under a number that is free; nothing is done if it is taken. -/
def create (v : Versions F) (n : Nat) (file : F) (h : 0 < n) : Option (Versions F) :=
  if hfree : n ∈ v.numbers then none
  else some
    { files := insertFile n file v.files
      descending := pairwise_insertFile v.descending fun other hother hn =>
        hfree (mem_numbers.mpr ⟨other.2, by rw [← hn]; exact hother⟩)
      positive := fun other hother => by
        rcases mem_insertFile.mp hother with rfl | hother
        · exact h
        · exact v.positive other hother }

/-! ## Lookups -/

theorem lookup_eq_some {n : Nat} {file : F} : v.lookup n = some file ↔ (n, file) ∈ v.files := by
  unfold lookup
  have hdesc := v.descending
  generalize v.files = files at hdesc ⊢
  induction files with
  | nil => simp
  | cons newer rest ih =>
    obtain ⟨hnewer, hrest⟩ := List.pairwise_cons.mp hdesc
    by_cases hn : newer.1 = n
    · rw [List.find?_cons_of_pos (by simp [hn]), Option.map_some, Option.some.injEq,
        List.mem_cons]
      constructor
      · intro h
        exact .inl (by rw [← hn, ← h])
      · rintro (h | h)
        · rw [← h]
        · -- a second file of this number would be below itself
          have hlt : n < newer.1 := hnewer _ h
          omega
    · rw [List.find?_cons_of_neg (by simp [hn]), List.mem_cons]
      refine (ih hrest).trans ?_
      refine ⟨.inr, fun h => h.resolve_left fun heq => hn ?_⟩
      rw [← heq]

theorem mem_numbers_iff {n : Nat} : n ∈ v.numbers ↔ ∃ file, v.lookup n = some file := by
  rw [mem_numbers]
  simp only [lookup_eq_some]

theorem lookup_eq_none {n : Nat} : v.lookup n = none ↔ n ∉ v.numbers := by
  rw [mem_numbers_iff, Option.eq_none_iff_forall_ne_some, not_exists]

theorem pos_of_mem {n : Nat} (h : n ∈ v.numbers) : 0 < n := by
  obtain ⟨file, hfile⟩ := mem_numbers.mp h
  exact v.positive _ hfile

theorem numbers_descending (v : Versions F) : v.numbers.Pairwise (fun newer older => older < newer) :=
  List.pairwise_map.mpr v.descending

/-! ## The newest version -/

theorem newest_eq_some {n : Nat} (h : v.newest = some n) : v.top = n := by
  unfold top
  rw [h]
  rfl

theorem newest_eq_none (h : v.newest = none) : v.top = 0 ∧ v.numbers = [] := by
  unfold top
  rw [h]
  exact ⟨rfl, List.head?_eq_none_iff.mp h⟩

theorem top_mem (h : v.numbers ≠ []) : v.top ∈ v.numbers := by
  unfold top newest
  cases hnumbers : v.numbers with
  | nil => exact absurd hnumbers h
  | cons n rest => exact List.mem_cons_self

theorem le_top {n : Nat} (h : n ∈ v.numbers) : n ≤ v.top := by
  have hdesc := v.numbers_descending
  unfold top newest
  cases hnumbers : v.numbers with
  | nil =>
    rw [hnumbers] at h
    exact absurd h List.not_mem_nil
  | cons m rest =>
    rw [hnumbers] at h hdesc
    show n ≤ m
    rcases List.mem_cons.mp h with rfl | h
    · exact Nat.le_refl _
    · exact Nat.le_of_lt ((List.pairwise_cons.mp hdesc).1 n h)

/-- So many versions stand above one that is behind so many. -/
theorem add_le_top_of_mem_drop {n k : Nat} (h : n ∈ v.numbers.drop k) : n + k ≤ v.top := by
  have hdesc := v.numbers_descending
  have hbound : ∀ numbers : List Nat, numbers.Pairwise (fun newer older => older < newer) →
      ∀ k, n ∈ numbers.drop k → ∀ m, numbers.head? = some m → n + k ≤ m := by
    intro numbers
    induction numbers with
    | nil =>
      intro _ k hmem
      rw [List.drop_nil] at hmem
      cases hmem
    | cons m rest ih =>
      intro hpairwise k hmem m' hhead
      obtain ⟨hnewer, hrest⟩ := List.pairwise_cons.mp hpairwise
      cases hhead
      cases k with
      | zero =>
        rcases List.mem_cons.mp hmem with rfl | hmem
        · exact Nat.le_refl _
        · exact Nat.le_of_lt (hnewer n hmem)
      | succ k =>
        cases hrestCases : rest with
        | nil =>
          rw [hrestCases] at hmem
          simp at hmem
        | cons m'' tail =>
          have hle := ih hrest k hmem m'' (by rw [hrestCases]; rfl)
          have hlt := hnewer m'' (by rw [hrestCases]; exact List.mem_cons_self)
          omega
  cases hnewest : v.newest with
  | none =>
    rw [(newest_eq_none hnewest).2, List.drop_nil] at h
    cases h
  | some m =>
    rw [newest_eq_some hnewest]
    exact hbound v.numbers hdesc k h m hnewest

theorem newest_eq_iff {w : Versions F} : v.newest = w.newest ↔ v.top = w.top := by
  constructor
  · intro h
    unfold top
    rw [h]
  · intro h
    cases hv : v.newest with
    | none =>
      have hw : w.numbers = [] := by
        by_contra hne
        have hpos := pos_of_mem (top_mem hne)
        rw [← h, (newest_eq_none hv).1] at hpos
        exact absurd hpos (Nat.lt_irrefl 0)
      unfold newest
      rw [hw]
      rfl
    | some n =>
      rw [newest_eq_some hv] at h
      have hmem : n ∈ v.numbers := List.mem_of_head? hv
      cases hw : w.newest with
      | none =>
        rw [(newest_eq_none hw).1] at h
        exact absurd (pos_of_mem hmem) (by omega)
      | some m => rw [h, newest_eq_some hw]

theorem next_newest (v : Versions F) : next v.newest = v.top + 1 := by
  unfold top
  cases v.newest <;> rfl

/-! ## Erasing -/

theorem mem_erase {n m : Nat} : m ∈ (v.erase n).numbers ↔ m ∈ v.numbers ∧ m ≠ n := by
  rw [mem_numbers, mem_numbers]
  constructor
  · intro ⟨file, h⟩
    obtain ⟨hmem, hne⟩ := List.mem_filter.mp h
    exact ⟨⟨file, hmem⟩, of_decide_eq_true hne⟩
  · intro ⟨⟨file, hmem⟩, hne⟩
    exact ⟨file, List.mem_filter.mpr ⟨hmem, decide_eq_true hne⟩⟩

theorem lookup_erase {n m : Nat} (h : m ≠ n) : (v.erase n).lookup m = v.lookup m := by
  refine Option.ext fun file => ?_
  rw [lookup_eq_some, lookup_eq_some]
  constructor
  · exact List.mem_of_mem_filter
  · intro hmem
    exact List.mem_filter.mpr ⟨hmem, decide_eq_true h⟩

theorem lookup_erase_self {n : Nat} : (v.erase n).lookup n = none := by
  rw [lookup_eq_none, mem_erase]
  exact fun h => h.2 rfl

theorem numbers_erase {n : Nat} : (v.erase n).numbers = v.numbers.filter fun m => m ≠ n := by
  unfold numbers erase
  rw [List.filter_map]
  rfl

/-- Only the newest version counts for the top. -/
theorem top_erase {n : Nat} (h : n ≠ v.top) : (v.erase n).top = v.top := by
  by_cases hempty : v.numbers = []
  · have hempty' : (v.erase n).numbers = [] := by
      rw [numbers_erase, hempty]
      rfl
    unfold top newest
    rw [hempty, hempty']
  · have hmem : v.top ∈ (v.erase n).numbers := mem_erase.mpr ⟨top_mem hempty, Ne.symm h⟩
    have hne : (v.erase n).numbers ≠ [] := List.ne_nil_of_mem hmem
    refine Nat.le_antisymm ?_ (le_top hmem)
    exact le_top (mem_erase.mp (top_mem hne)).1

/-! ## Creating -/

theorem create_eq_none {n : Nat} {file : F} {h : 0 < n} :
    v.create n file h = none ↔ n ∈ v.numbers := by
  unfold create
  by_cases hn : n ∈ v.numbers
  · rw [dif_pos hn]
    exact iff_of_true rfl hn
  · rw [dif_neg hn]
    exact iff_of_false (by simp) hn

theorem mem_create {w : Versions F} {n m : Nat} {file : F} {h : 0 < n}
    (hw : v.create n file h = some w) : m ∈ w.numbers ↔ m = n ∨ m ∈ v.numbers := by
  unfold create at hw
  by_cases hn : n ∈ v.numbers
  · rw [dif_pos hn] at hw
    cases hw
  · rw [dif_neg hn] at hw
    cases hw
    rw [mem_numbers, mem_numbers]
    constructor
    · intro ⟨other, hmem⟩
      rcases mem_insertFile.mp hmem with heq | hmem
      · exact .inl (congrArg Prod.fst heq)
      · exact .inr ⟨other, hmem⟩
    · rintro (rfl | ⟨other, hmem⟩)
      · exact ⟨file, mem_insertFile.mpr (.inl rfl)⟩
      · exact ⟨other, mem_insertFile.mpr (.inr hmem)⟩

theorem lookup_create {w : Versions F} {n m : Nat} {file : F} {h : 0 < n}
    (hw : v.create n file h = some w) :
    w.lookup m = if m = n then some file else v.lookup m := by
  unfold create at hw
  by_cases hn : n ∈ v.numbers
  · rw [dif_pos hn] at hw
    cases hw
  · rw [dif_neg hn] at hw
    cases hw
    by_cases hm : m = n
    · rw [if_pos hm, lookup_eq_some]
      exact mem_insertFile.mpr (.inl (by rw [hm]))
    · rw [if_neg hm]
      refine Option.ext fun other => ?_
      rw [lookup_eq_some, lookup_eq_some]
      constructor
      · intro hmem
        exact (mem_insertFile.mp hmem).resolve_left fun heq => hm (congrArg Prod.fst heq)
      · exact fun hmem => mem_insertFile.mpr (.inr hmem)

theorem top_create {w : Versions F} {n : Nat} {file : F} {h : 0 < n}
    (hw : v.create n file h = some w) (hn : v.top < n) : w.top = n := by
  have hmem : n ∈ w.numbers := (mem_create hw).mpr (.inl rfl)
  refine Nat.le_antisymm ?_ (le_top hmem)
  rcases (mem_create hw).mp (top_mem (List.ne_nil_of_mem hmem)) with heq | hold
  · exact Nat.le_of_eq heq
  · have hle := le_top hold
    omega

/-- A version below the newest does not count for the top. -/
theorem top_create_of_le {w : Versions F} {n : Nat} {file : F} {h : 0 < n}
    (hw : v.create n file h = some w) (hn : n ≤ v.top) : w.top = v.top := by
  have hne : v.numbers ≠ [] := by
    intro hempty
    have hnewest : v.newest = none := by
      unfold newest
      rw [hempty]
      rfl
    have hzero := (newest_eq_none hnewest).1
    omega
  have hmem : v.top ∈ w.numbers := (mem_create hw).mpr (.inr (top_mem hne))
  refine Nat.le_antisymm ?_ (le_top hmem)
  rcases (mem_create hw).mp (top_mem (List.ne_nil_of_mem hmem)) with heq | hold
  · rw [heq]
    exact hn
  · exact le_top hold

end Versions

end P4475.Lib
