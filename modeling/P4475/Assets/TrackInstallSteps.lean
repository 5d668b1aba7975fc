import P4475.Assets.TrackInstall

/-!
# Steps of an installation

An installation is followed through what it does to one path at a time: what may be there wherever
it is cut off, and what must not be there for it to start again.
-/

namespace P4475.Assets

open Lib Program InstallFiles

/-! ## What is written -/

/-- The tree with every entry at its path, one after another. -/
def written : List (AssetPath × Bytes) → (AssetPath → Option Bytes) → AssetPath → Option Bytes
  | [], tree => tree
  | plan :: rest, tree => written rest (Function.update tree plan.1 (some plan.2))

/-- Only what is at the other paths counts. -/
theorem written_congr {plans : List (AssetPath × Bytes)} {tree tree' : AssetPath → Option Bytes}
    (h : ∀ path, (∀ bytes, (path, bytes) ∉ plans) → tree path = tree' path) :
    written plans tree = written plans tree' := by
  induction plans generalizing tree tree' with
  | nil => exact funext fun path => h path fun _ => List.not_mem_nil
  | cons plan rest ih =>
    refine ih fun path hpath => ?_
    by_cases heq : path = plan.1
    · rw [heq, Function.update_self, Function.update_self]
    · rw [Function.update_of_ne heq, Function.update_of_ne heq]
      refine h path fun bytes hmem => ?_
      rcases List.mem_cons.mp hmem with hhead | hrest
      · exact heq (congrArg Prod.fst hhead)
      · exact hpath bytes hrest

theorem written_of_not_mem {plans : List (AssetPath × Bytes)} {tree : AssetPath → Option Bytes}
    {path : AssetPath} (h : ∀ bytes, (path, bytes) ∉ plans) : written plans tree path = tree path := by
  induction plans generalizing tree with
  | nil => rfl
  | cons plan rest ih =>
    have hpath : path ≠ plan.1 := by
      intro heq
      exact h plan.2 (by rw [heq]; exact List.mem_cons_self)
    show written rest _ path = tree path
    rw [ih fun bytes hmem => h bytes (List.mem_cons_of_mem _ hmem), Function.update_of_ne hpath]

theorem written_isSome {plans : List (AssetPath × Bytes)} {tree : AssetPath → Option Bytes}
    {path : AssetPath} (h : (tree path).isSome) : (written plans tree path).isSome := by
  induction plans generalizing tree with
  | nil => exact h
  | cons plan rest ih =>
    refine ih ?_
    by_cases heq : path = plan.1
    · rw [heq, Function.update_self]
      rfl
    · rw [Function.update_of_ne heq]
      exact h

theorem written_idem (plans : List (AssetPath × Bytes)) (tree : AssetPath → Option Bytes) :
    written plans (written plans tree) = written plans tree :=
  written_congr fun _ h => written_of_not_mem h

/-- No resource is in the way of the bundle, and the bundle is not in its own way. -/
def Admissible (plans : List (AssetPath × Bytes)) (tree : AssetPath → Option Bytes) : Prop :=
  ∀ path bytes, (path, bytes) ∈ plans → isTrackBundleCatalogPath path = false →
    (tree path = none ∨ tree path = some bytes) ∧ ∀ other, (path, other) ∈ plans → other = bytes

theorem admissible_cons {plan : AssetPath × Bytes} {rest : List (AssetPath × Bytes)}
    {tree : AssetPath → Option Bytes} : Admissible (plan :: rest) tree ↔
      (isTrackBundleCatalogPath plan.1 = false → tree plan.1 = none ∨ tree plan.1 = some plan.2) ∧
        Admissible rest (Function.update tree plan.1 (some plan.2)) := by
  constructor
  · intro h
    refine ⟨fun hresource => (h plan.1 plan.2 List.mem_cons_self hresource).1, ?_⟩
    intro path bytes hmem hresource
    obtain ⟨htree, hsame⟩ := h path bytes (List.mem_cons_of_mem _ hmem) hresource
    refine ⟨?_, fun other hother => hsame other (List.mem_cons_of_mem _ hother)⟩
    by_cases heq : path = plan.1
    · rw [heq, Function.update_self]
      refine .inr (congrArg some (hsame plan.2 ?_))
      rw [heq]
      exact List.mem_cons_self
    · rw [Function.update_of_ne heq]
      exact htree
  · intro ⟨hhead, hrest⟩ path bytes hmem hresource
    -- a resource that comes again is the one just written
    have hagain : ∀ other, (plan.1, other) ∈ rest → isTrackBundleCatalogPath plan.1 = false →
        other = plan.2 := by
      intro other hother hplan
      rcases (hrest plan.1 other hother hplan).1 with hnone | hsome
      · rw [Function.update_self] at hnone
        exact absurd hnone (by simp)
      · rw [Function.update_self] at hsome
        exact (Option.some.inj hsome).symm
    rcases List.mem_cons.mp hmem with hplan | hlater
    · rw [← hplan] at hhead hagain
      refine ⟨hhead hresource, fun other hother => ?_⟩
      rcases List.mem_cons.mp hother with hsame | hother
      · rw [← hplan] at hsame
        exact congrArg Prod.snd hsame
      · exact hagain other hother hresource
    · obtain ⟨htree, hsame⟩ := hrest path bytes hlater hresource
      by_cases heq : path = plan.1
      · rw [heq] at hresource hlater ⊢
        have hbytes := hagain bytes hlater hresource
        rw [hbytes]
        refine ⟨hhead hresource, fun other hother => ?_⟩
        rcases List.mem_cons.mp hother with hsame | hother
        · exact congrArg Prod.snd hsame
        · exact hagain other hother hresource
      · rw [Function.update_of_ne heq] at htree
        refine ⟨htree, fun other hother => ?_⟩
        rcases List.mem_cons.mp hother with hplan | hother
        · exact absurd (congrArg Prod.fst hplan) heq
        · exact hsame other hother

/-- What was written is no obstacle to writing it again. -/
theorem Admissible.written {plans : List (AssetPath × Bytes)} {tree : AssetPath → Option Bytes}
    (h : Admissible plans tree) : Admissible plans (written plans tree) := by
  intro path bytes hmem hresource
  refine ⟨.inr ?_, (h path bytes hmem hresource).2⟩
  have hsame := (h path bytes hmem hresource).2
  clear h
  -- the last write to the path is of these bytes, as all of them are
  induction plans generalizing tree with
  | nil => exact absurd hmem List.not_mem_nil
  | cons plan rest ih =>
    show Assets.written rest _ path = some bytes
    by_cases hrest : (path, bytes) ∈ rest
    · exact ih hrest fun other hother => hsame other (List.mem_cons_of_mem _ hother)
    · have hplan : (path, bytes) = plan := (List.mem_cons.mp hmem).resolve_right hrest
      rw [written_of_not_mem, ← hplan, Function.update_self]
      intro other hother
      rw [hsame other (List.mem_cons_of_mem _ hother)] at hother
      exact hrest hother

/-! ## One path

`initial` is what was at the path before the first installation; `tree` and `backup` are what is
there now. `planned` are the bytes that the bundle has for it. -/

structure PathOk (planned : Bytes → Prop) (catalog : Bool) (initial tree backup : Option Bytes) :
    Prop where
  comes : tree = initial ∨ ∃ bytes, planned bytes ∧ (tree = some bytes ∨ tree = some [])
  kept : catalog = false → ∀ bytes, initial = some bytes → tree = some bytes
  changed : ∀ bytes, initial = some bytes → tree ≠ some bytes → backup = some bytes
  backedUp : ∀ bytes, initial = some bytes → backup = none ∨ backup = some bytes ∨ backup = some []

/-- A backup that was truncated and has not its bytes yet, or a resource. -/
def TornPath (planned : Bytes → Prop) (catalog : Bool) (initial tree backup : Option Bytes) : Prop :=
  (∃ bytes, initial = some bytes ∧ bytes ≠ [] ∧ backup = some []) ∨
    catalog = false ∧ initial = none ∧ tree = some [] ∧ ¬ planned []

variable {plans : List (AssetPath × Bytes)} {initial : AssetPath → Option Bytes}

/-- What holds of the files wherever an installation is cut off. -/
def Passed (plans : List (AssetPath × Bytes)) (initial : AssetPath → Option Bytes)
    (files : InstallFiles) : Prop :=
  ∀ path, PathOk (fun bytes => (path, bytes) ∈ plans) (isTrackBundleCatalogPath path)
    (initial path) (files.dataRaw path) (files.backup path)

def Torn (plans : List (AssetPath × Bytes)) (initial : AssetPath → Option Bytes)
    (files : InstallFiles) : Prop :=
  ∃ path, TornPath (fun bytes => (path, bytes) ∈ plans) (isTrackBundleCatalogPath path)
    (initial path) (files.dataRaw path) (files.backup path)

/-- Where an installation can start again. -/
structure Intact (plans : List (AssetPath × Bytes)) (initial : AssetPath → Option Bytes)
    (files : InstallFiles) : Prop where
  passed : Passed plans initial files
  whole : ¬ Torn plans initial files

section Updates

variable {files : InstallFiles} {path : AssetPath} {bytes : Bytes}

theorem Passed.writeTree (h : Passed plans initial files)
    (hpath : PathOk (fun bytes => (path, bytes) ∈ plans) (isTrackBundleCatalogPath path)
      (initial path) (some bytes) (files.backup path)) :
    Passed plans initial (files.putDataRaw path bytes) := by
  intro other
  rw [putDataRaw_dataRaw]
  by_cases heq : other = path
  · rw [heq, Function.update_self]
    exact hpath
  · rw [Function.update_of_ne heq]
    exact h other

theorem Passed.writeBackup (h : Passed plans initial files)
    (hpath : PathOk (fun bytes => (path, bytes) ∈ plans) (isTrackBundleCatalogPath path)
      (initial path) (files.dataRaw path) (some bytes)) :
    Passed plans initial (files.putBackup path bytes) := by
  intro other
  rw [putBackup_backup]
  by_cases heq : other = path
  · rw [heq, Function.update_self]
    exact hpath
  · rw [Function.update_of_ne heq]
    exact h other

theorem Intact.writeTree (h : Intact plans initial files)
    (hpath : PathOk (fun bytes => (path, bytes) ∈ plans) (isTrackBundleCatalogPath path)
      (initial path) (some bytes) (files.backup path)) (hplan : (path, bytes) ∈ plans) :
    Intact plans initial (files.putDataRaw path bytes) := by
  refine ⟨h.passed.writeTree hpath, ?_⟩
  intro ⟨other, htorn⟩
  rw [putDataRaw_dataRaw] at htorn
  by_cases heq : other = path
  · rw [heq, Function.update_self] at htorn
    rcases htorn with hbackup | ⟨hresource, hnone, hempty, hnot⟩
    · exact h.whole ⟨path, .inl hbackup⟩
    · rw [Option.some.inj hempty] at hplan
      exact hnot hplan
  · rw [Function.update_of_ne heq] at htorn
    exact h.whole ⟨other, htorn⟩

theorem Intact.writeBackup (h : Intact plans initial files)
    (hsource : files.dataRaw path = some bytes) (hnone : files.backup path = none) :
    Intact plans initial (files.putBackup path bytes) := by
  have hsame : ∀ original, initial path = some original → bytes = original := by
    intro original horiginal
    by_cases hunchanged : files.dataRaw path = some original
    · exact Option.some.inj (hsource.symm.trans hunchanged)
    · rw [(h.passed path).changed original horiginal hunchanged] at hnone
      exact absurd hnone (by simp)
  have hold := h.passed path
  refine ⟨h.passed.writeBackup ⟨hold.comes, hold.kept, fun original horiginal _ => ?_,
    fun original horiginal => .inr (.inl ?_)⟩, ?_⟩
  · rw [hsame original horiginal]
  · rw [hsame original horiginal]
  · intro ⟨other, htorn⟩
    rw [putBackup_backup] at htorn
    by_cases heq : other = path
    · rw [heq, Function.update_self] at htorn
      rcases htorn with ⟨original, horiginal, hfull, hempty⟩ | hresource
      · rw [hsame original horiginal] at hempty
        exact hfull (Option.some.inj hempty)
      · exact h.whole ⟨path, .inr hresource⟩
    · rw [Function.update_of_ne heq] at htorn
      exact h.whole ⟨other, htorn⟩

/-- A truncated file passes where its bytes will. -/
theorem PathOk.truncated {planned : Bytes → Prop} {catalog : Bool} {first tree backup : Option Bytes}
    (bytes : Bytes) (hplan : planned bytes)
    (hfree : first = none ∨ catalog = true ∧ ∀ original, first = some original →
      backup = some original) {now : Bytes} (hnow : now = bytes ∨ now = [])
    (h : PathOk planned catalog first tree backup) :
    PathOk planned catalog first (some now) backup := by
  refine ⟨.inr ⟨bytes, hplan, hnow.imp (congrArg some) (congrArg some)⟩, ?_, ?_, h.backedUp⟩
  · intro hresource original horiginal
    rcases hfree with hnone | ⟨hcatalog, -⟩
    · rw [hnone] at horiginal
      exact absurd horiginal (by simp)
    · rw [hcatalog] at hresource
      exact absurd hresource (by simp)
  · intro original horiginal _
    rcases hfree with hnone | ⟨-, hbacked⟩
    · rw [hnone] at horiginal
      exact absurd horiginal (by simp)
    · exact hbacked original horiginal

end Updates

/-! ## One entry -/

section Entry

variable {files : InstallFiles} {path : AssetPath} {bytes : Bytes} {counts : InstallCounts}

theorem writeVerified_holds (h : Intact plans initial files) (hplan : (path, bytes) ∈ plans)
    (hfree : initial path = none ∨ isTrackBundleCatalogPath path = true ∧
      ∀ original, initial path = some original → files.backup path = some original) :
    (writeVerified path bytes counts).Holds (Passed plans initial)
      (fun _ t => Intact plans initial t) files := by
  have hempty := PathOk.truncated bytes hplan hfree (.inr rfl) (h.passed path)
  have hfull := PathOk.truncated bytes hplan hfree (.inl rfl) (h.passed path)
  have hafter := h.writeTree hfull hplan
  refine holds_bind.mpr ⟨h.passed, h.passed.writeTree hempty, ?_⟩
  rw [putDataRaw_putDataRaw]
  refine ⟨hafter.passed, andThen_ok.mpr (holds_ask.mpr ⟨hafter.passed, ?_⟩)⟩
  split
  next => exact ⟨hafter.passed, hafter⟩
  next => exact ⟨hafter.passed, hafter⟩

/-- A backup that was not cut off is of what was there before the first installation. -/
theorem backupOnce_holds (h : Intact plans initial files) :
    (backupOnce path).Holds (Passed plans initial)
      (fun r t => Intact plans initial t ∧ (r = .ok () → ∀ original, initial path = some original →
        t.backup path = some original)) files := by
  refine holds_ask.mpr ⟨h.passed, ?_⟩
  cases hbackup : files.backup path with
  | some kept =>
    refine ⟨h.passed, h, fun _ original horiginal => ?_⟩
    rcases (h.passed path).backedUp original horiginal with hnone | hsame | hempty
    · rw [hbackup] at hnone
      exact absurd hnone (by simp)
    · exact hsame
    · -- an empty backup is the backup of an empty file
      by_cases hfull : original = []
      · rw [hfull]
        exact hempty
      · exact absurd ⟨path, .inl ⟨original, horiginal, hfull, hempty⟩⟩ h.whole
  | none =>
    refine holds_ask.mpr ⟨h.passed, ?_⟩
    cases hsource : files.dataRaw path with
    | none => exact ⟨h.passed, h, fun hok => absurd hok (by simp)⟩
    | some found =>
      have hold := h.passed path
      have hunchanged : ∀ original, initial path = some original →
          files.dataRaw path = some original := by
        intro original horiginal
        by_contra hchanged
        rw [hold.changed original horiginal hchanged] at hbackup
        exact absurd hbackup (by simp)
      have hempty : Passed plans initial (files.putBackup path []) :=
        h.passed.writeBackup ⟨hold.comes, hold.kept,
          fun original horiginal hchanged => absurd (hunchanged original horiginal) hchanged,
          fun _ _ => .inr (.inr rfl)⟩
      have hafter := h.writeBackup hsource hbackup
      refine holds_change.mpr ⟨h.passed, hempty, ?_⟩
      rw [putBackup_putBackup]
      refine ⟨hafter.passed, hafter, fun _ original horiginal => ?_⟩
      rw [putBackup_backup, Function.update_self, ← hsource, hunchanged original horiginal]

theorem installEntry_holds (h : Intact plans initial files) (hplan : (path, bytes) ∈ plans) :
    (installEntry path bytes counts).Holds (Passed plans initial)
      (fun _ t => Intact plans initial t) files := by
  refine holds_ask.mpr ⟨h.passed, ?_⟩
  cases hfound : files.dataRaw path with
  | none =>
    refine writeVerified_holds h hplan (.inl ?_)
    -- a file that was there is never gone
    rcases (h.passed path).comes with hsame | ⟨_, -, hsome | hsome⟩
    · rw [← hsame, hfound]
    · rw [hfound] at hsome
      exact absurd hsome (by simp)
    · rw [hfound] at hsome
      exact absurd hsome (by simp)
  | some existing =>
    dsimp only
    split
    next => exact ⟨h.passed, h⟩
    next =>
      split
      next hcatalog =>
        refine holds_bind.mpr ((backupOnce_holds h).imp (fun _ ht => ht) fun r t ht hq => ?_)
        cases r with
        | error e => exact hq.1
        | ok u => exact andThen_ok.mpr (writeVerified_holds hq.1 hplan (.inr ⟨hcatalog, hq.2 rfl⟩))
      next => exact ⟨h.passed, h⟩

end Entry

end P4475.Assets
