import P4475.Assets.TrackInstallSteps

/-!
# Interrupted installations

An installation settles every path to the last bytes that the bundle has for it, so one that runs
through leaves the same tree from wherever it starts. It can start again where an earlier one was
cut off, unless that was while a resource was being written or a backup was being made.
-/

namespace P4475.Assets

open Lib Program InstallFiles

variable {plans : List (AssetPath × Bytes)} {initial : AssetPath → Option Bytes}

/-! ## An installation that runs through -/

/-- What an entry leaves that is installed: its bytes at its path, and a backup of other bytes that
were there, unless there is one. -/
def settle (plan : AssetPath × Bytes) (files : InstallFiles) : InstallFiles where
  dataRaw := Function.update files.dataRaw plan.1 (some plan.2)
  backup :=
    if files.dataRaw plan.1 = some plan.2 ∨ (files.backup plan.1).isSome then files.backup
    else Function.update files.backup plan.1 (files.dataRaw plan.1)

def settleAll : List (AssetPath × Bytes) → InstallFiles → InstallFiles
  | [], files => files
  | plan :: rest, files => settleAll rest (settle plan files)

theorem settleAll_dataRaw (plans : List (AssetPath × Bytes)) (files : InstallFiles) :
    (settleAll plans files).dataRaw = written plans files.dataRaw := by
  induction plans generalizing files with
  | nil => rfl
  | cons plan rest ih => exact ih _

section Settle

variable {files : InstallFiles} {path : AssetPath} {bytes : Bytes} {counts : InstallCounts}

theorem settle_of_none (hnone : files.dataRaw path = none) :
    settle (path, bytes) files = files.putDataRaw path bytes := by
  unfold settle putDataRaw
  congr 1
  by_cases hbackup : (files.backup path).isSome
  · exact if_pos (.inr hbackup)
  · -- a file that is not there has no backup, and gets none
    rw [if_neg (by simp [hnone, hbackup]), hnone]
    refine Function.update_eq_self_iff.mpr ?_
    exact (Option.not_isSome_iff_eq_none.mp hbackup).symm

theorem settle_of_same (hsame : files.dataRaw path = some bytes) :
    settle (path, bytes) files = files := by
  unfold settle
  dsimp only
  rw [if_pos (.inl hsame), ← hsame, Function.update_eq_self]

theorem writeVerified_run : ∃ counts', (writeVerified path bytes counts).run files =
    (.ok counts', files.putDataRaw path bytes) := by
  refine ⟨{ counts with
    installed := counts.installed + 1
    installedPaths := counts.installedPaths ++ [path] }, ?_⟩
  have hread : ((files.putDataRaw path []).putDataRaw path bytes).dataRaw path = some bytes := by
    rw [putDataRaw_putDataRaw, putDataRaw_dataRaw, Function.update_self]
  show Program.run (if _ then _ else _) ((files.putDataRaw path []).putDataRaw path bytes) = _
  rw [if_pos hread, putDataRaw_putDataRaw]
  rfl

theorem backupOnce_run {existing : Bytes} (hfound : files.dataRaw path = some existing) :
    (backupOnce path).run files = (.ok (), if (files.backup path).isSome then files
      else files.putBackup path existing) := by
  unfold backupOnce
  rw [run_ask]
  split
  next => rfl
  next =>
    rw [run_ask, hfound]
    show ((.ok (), (files.putBackup path []).putBackup path existing) :
      Except InstallError Unit × InstallFiles) = _
    rw [putBackup_putBackup]

/-- An entry that nothing is in the way of is settled. -/
theorem installEntry_run (counts : InstallCounts) (hfree : isTrackBundleCatalogPath path = false →
      files.dataRaw path = none ∨ files.dataRaw path = some bytes) :
    ∃ counts', (installEntry path bytes counts).run files =
      (.ok counts', settle (path, bytes) files) := by
  unfold installEntry
  rw [run_ask]
  cases hfound : files.dataRaw path with
  | none =>
    rw [settle_of_none hfound]
    exact writeVerified_run
  | some existing =>
    dsimp only
    by_cases hsame : existing = bytes
    · rw [if_pos hsame, settle_of_same (by rw [hfound, hsame])]
      exact ⟨_, rfl⟩
    · rw [if_neg hsame]
      by_cases hcatalog : isTrackBundleCatalogPath path
      · rw [if_pos hcatalog]
        obtain ⟨counts', hwrite⟩ : ∃ counts', (writeVerified path bytes
            { counts with replaced := counts.replaced + 1 }).run
            (if (files.backup path).isSome then files else files.putBackup path existing) =
              (.ok counts', _) := writeVerified_run
        refine ⟨counts', ?_⟩
        rw [run_bind, backupOnce_run hfound]
        refine hwrite.trans (congrArg (Prod.mk _) ?_)
        unfold settle
        by_cases hbackup : (files.backup path).isSome
        · rw [if_pos hbackup, if_pos (.inr hbackup)]
          rfl
        · rw [if_neg hbackup, if_neg (by simp [hfound, hsame, hbackup])]
          unfold putDataRaw putBackup
          rw [hfound]
      · -- a resource that is there already is of these bytes
        rcases hfree (Bool.not_eq_true _ ▸ hcatalog) with hnone | hsome
        · rw [hfound] at hnone
          exact absurd hnone (by simp)
        · rw [hfound] at hsome
          exact absurd (Option.some.inj hsome) hsame

theorem installEntry_free {counts' : InstallCounts} {after : InstallFiles}
    (h : (installEntry path bytes counts).run files = (.ok counts', after)) :
    isTrackBundleCatalogPath path = false →
      files.dataRaw path = none ∨ files.dataRaw path = some bytes := by
  intro hresource
  unfold installEntry at h
  rw [run_ask] at h
  cases hfound : files.dataRaw path with
  | none => exact .inl rfl
  | some existing =>
    rw [hfound] at h
    dsimp only at h
    by_cases hsame : existing = bytes
    · exact .inr (congrArg some hsame)
    · rw [if_neg hsame, hresource] at h
      exact absurd (Prod.mk.inj h).1 (by simp)

end Settle

/-! ## All entries -/

/-- The entries that the report admits, with their paths and bytes. -/
def admittedEntries (report : TrackBundleReport) (entries : List Rho5Entry) :
    List (AssetPath × Bytes) :=
  entries.filterMap fun entry => (admitEntry report entry).toOption.join

section Entries

variable {report : TrackBundleReport} {entries rest : List Rho5Entry} {entry : Rho5Entry}
  {files : InstallFiles} {counts : InstallCounts}

theorem admittedEntries_none (h : admitEntry report entry = .ok none) :
    admittedEntries report (entry :: rest) = admittedEntries report rest :=
  List.filterMap_cons_none (by rw [h]; rfl)

theorem admittedEntries_some {plan : AssetPath × Bytes}
    (h : admitEntry report entry = .ok (some plan)) :
    admittedEntries report (entry :: rest) = plan :: admittedEntries report rest :=
  List.filterMap_cons_some (by rw [h]; rfl)

/-- Wherever the loop is cut off, what holds of the files still does. -/
theorem installEntries_holds (hplans : ∀ plan ∈ admittedEntries report entries, plan ∈ plans)
    (h : Intact plans initial files) :
    (installEntries report entries counts).Holds (Passed plans initial)
      (fun _ t => Intact plans initial t) files := by
  induction entries generalizing files counts with
  | nil => exact ⟨h.passed, h⟩
  | cons entry rest ih =>
    unfold installEntries
    cases hadmit : admitEntry report entry with
    | error e => exact ⟨h.passed, h⟩
    | ok planned =>
      cases planned with
      | none =>
        rw [admittedEntries_none hadmit] at hplans
        exact ih hplans h
      | some plan =>
        rw [admittedEntries_some hadmit] at hplans
        have hrest : ∀ other ∈ admittedEntries report rest, other ∈ plans :=
          fun other hother => hplans other (List.mem_cons_of_mem _ hother)
        refine holds_bind.mpr ((installEntry_holds h (hplans plan List.mem_cons_self)).imp
          (fun _ ht => ht) fun r t _ hq => ?_)
        cases r with
        | error e => exact hq
        | ok counts' => exact andThen_ok.mpr (ih hrest hq)

/-- The loop runs through when every entry can be admitted and nothing is in its way, and then it
has settled everything it admits. -/
theorem installEntries_run {after : InstallFiles} :
    (∃ counts', (installEntries report entries counts).run files = (.ok counts', after)) ↔
      (∀ entry ∈ entries, ∃ planned, admitEntry report entry = .ok planned) ∧
        Admissible (admittedEntries report entries) files.dataRaw ∧
        after = settleAll (admittedEntries report entries) files := by
  induction entries generalizing files counts with
  | nil =>
    constructor
    · intro ⟨counts', hrun⟩
      exact ⟨fun _ hmem => absurd hmem List.not_mem_nil,
        fun _ _ hmem => absurd hmem List.not_mem_nil, (Prod.mk.inj hrun).2.symm⟩
    · intro ⟨_, _, hafter⟩
      exact ⟨counts, by rw [hafter]; rfl⟩
  | cons entry rest ih =>
    rw [List.forall_mem_cons]
    unfold installEntries
    cases hadmit : admitEntry report entry with
    | error e =>
      refine iff_of_false ?_ ?_
      · intro ⟨counts', hrun⟩
        exact absurd (Prod.mk.inj hrun).1 (by simp)
      · intro ⟨⟨⟨planned, hplanned⟩, _⟩, _⟩
        exact absurd hplanned (by simp)
    | ok planned =>
      cases planned with
      | none =>
        rw [admittedEntries_none hadmit]
        exact ih.trans (and_congr_left fun _ => ⟨fun h => ⟨⟨_, rfl⟩, h⟩, fun h => h.2⟩)
      | some plan =>
        rw [admittedEntries_some hadmit]
        constructor
        · intro ⟨counts', hrun⟩
          obtain ⟨counts'', middle, hentry, hrest⟩ := run_bind_ok.mp hrun
          have hfree := installEntry_free hentry
          obtain ⟨_, hsettled⟩ := installEntry_run counts hfree
          have hmiddle : middle = settle plan files :=
            (Prod.mk.inj (hentry.symm.trans hsettled)).2
          obtain ⟨hadmits, hadmissible, hafter⟩ := ih.mp ⟨counts', hrest⟩
          rw [hmiddle] at hadmissible hafter
          exact ⟨⟨⟨_, rfl⟩, hadmits⟩, admissible_cons.mpr ⟨hfree, hadmissible⟩, hafter⟩
        · intro ⟨⟨_, hadmits⟩, hadmissible, hafter⟩
          obtain ⟨hfree, hrest⟩ := admissible_cons.mp hadmissible
          obtain ⟨counts'', hsettled⟩ := installEntry_run counts hfree
          obtain ⟨counts', hrun⟩ := ih.mpr ⟨hadmits, hrest, hafter⟩
          exact ⟨counts', run_bind_ok.mpr ⟨counts'', _, hsettled, hrun⟩⟩

end Entries

/-! ## Settling twice -/

/-- Where there is no backup of a path, everything the bundle has for it is there already. -/
def Steady (plans : List (AssetPath × Bytes)) (files : InstallFiles) : Prop :=
  ∀ path bytes, (path, bytes) ∈ plans → files.backup path = none →
    files.dataRaw path = some bytes

/-- A settled entry keeps a steady rest steady: a backup is made when a path has two contents. -/
theorem Steady.settle {files : InstallFiles} {plan : AssetPath × Bytes}
    {done : List (AssetPath × Bytes)} (h : Steady done files) :
    Steady (plan :: done) (settle plan files) := by
  intro path bytes hmem hnone
  unfold Assets.settle at hnone ⊢
  dsimp only at hnone ⊢
  by_cases heq : path = plan.1
  · rw [heq, Function.update_self]
    rcases List.mem_cons.mp hmem with hplan | hdone
    · rw [← hplan]
    · -- an earlier content of the path is the one that is there
      split at hnone
      next hsame =>
        rw [heq] at hnone hdone
        rcases hsame with hsame | hbackup
        · rw [← hsame]
          exact h plan.1 bytes hdone hnone
        · rw [hnone] at hbackup
          exact absurd hbackup (by simp)
      next hother =>
        rw [heq, Function.update_self] at hnone
        rw [heq] at hdone
        have hbefore := h plan.1 bytes hdone
          (Option.not_isSome_iff_eq_none.mp fun hsome => hother (.inr hsome))
        rw [hbefore] at hnone
        exact absurd hnone (by simp)
  · rw [Function.update_of_ne heq]
    have hdone : (path, bytes) ∈ done := by
      rcases List.mem_cons.mp hmem with hplan | hdone
      · exact absurd (congrArg Prod.fst hplan) heq
      · exact hdone
    refine h path bytes hdone ?_
    split at hnone
    next => exact hnone
    next => rwa [Function.update_of_ne heq] at hnone

theorem steady_settleAll {files : InstallFiles} {done : List (AssetPath × Bytes)}
    (later : List (AssetPath × Bytes)) (h : Steady done files) :
    Steady (later.reverse ++ done) (settleAll later files) := by
  induction later generalizing files done with
  | nil => exact h
  | cons plan rest ih =>
    rw [List.reverse_cons, List.append_assoc]
    exact ih h.settle

/-- Steady files get no more backups. -/
theorem settleAll_backup {files : InstallFiles} (later : List (AssetPath × Bytes))
    (hlater : ∀ plan ∈ later, plan ∈ plans) (h : Steady plans files) :
    (settleAll later files).backup = files.backup := by
  induction later generalizing files with
  | nil => rfl
  | cons plan rest ih =>
    have hplan : plan ∈ plans := hlater plan List.mem_cons_self
    have hbackup : (settle plan files).backup = files.backup := by
      unfold settle
      dsimp only
      refine if_pos ?_
      cases hnone : files.backup plan.1 with
      | none => exact .inl (h plan.1 plan.2 hplan hnone)
      | some kept => exact .inr rfl
    have hsteady : Steady plans (settle plan files) := by
      intro path bytes hmem hnone
      rw [hbackup] at hnone
      have hbefore := h path bytes hmem hnone
      by_cases heq : path = plan.1
      · rw [heq] at hnone hbefore ⊢
        rw [← hbefore, h plan.1 plan.2 hplan hnone]
        exact Function.update_self _ _ _
      · exact (Function.update_of_ne heq _ _).trans hbefore
    exact (ih (fun other hother => hlater other (List.mem_cons_of_mem _ hother)) hsteady).trans
      hbackup

theorem settleAll_idem (files : InstallFiles) :
    settleAll plans (settleAll plans files) = settleAll plans files := by
  have hsteady : Steady plans (settleAll plans files) := by
    have hall : Steady (plans.reverse ++ []) (settleAll plans files) :=
      steady_settleAll plans fun _ _ hmem => absurd hmem List.not_mem_nil
    intro path bytes hmem
    refine hall path bytes ?_
    rw [List.append_nil]
    exact List.mem_reverse.mpr hmem
  have hbackup := settleAll_backup plans (fun _ hplan => hplan) hsteady
  have hdataRaw : (settleAll plans (settleAll plans files)).dataRaw =
      (settleAll plans files).dataRaw := by
    rw [settleAll_dataRaw, settleAll_dataRaw, written_idem]
  calc settleAll plans (settleAll plans files)
      = ⟨(settleAll plans (settleAll plans files)).dataRaw,
          (settleAll plans (settleAll plans files)).backup⟩ := rfl
    _ = settleAll plans files := by rw [hdataRaw, hbackup]

/-! ## The whole installation -/

/-- Every bundle entry the report admits, with its path and bytes. -/
def bundlePlans (tools : BundleTools) (bundle : TrackBundle) : List (AssetPath × Bytes) :=
  match checkBundle tools bundle with
  | .ok (report, entries) => admittedEntries report entries
  | .error _ => []

section Install

variable {tools : BundleTools} {bundle : TrackBundle} {files : InstallFiles}

theorem holds_lift {α β : Type} {result : Except InstallError α} {f : α → InstallProgram β}
    {C : InstallFiles → Prop} {Q : Except InstallError β → InstallFiles → Prop}
    (hC : C files) (herror : ∀ e, result = .error e → Q (.error e) files)
    (hok : ∀ a, result = .ok a → (f a).Holds C Q files) : (lift result >>= f).Holds C Q files := by
  cases result with
  | error e => exact ⟨hC, herror e rfl⟩
  | ok a => exact hok a rfl

/-- Wherever an installation is cut off that starts from files which are intact. -/
theorem install_holds (h : Intact (bundlePlans tools bundle) initial files) :
    (installTracksDataraw tools bundle).Holds (Passed (bundlePlans tools bundle) initial)
      (fun _ t => Intact (bundlePlans tools bundle) initial t) files := by
  refine holds_lift h.passed (fun _ _ => h) fun _ _ => ?_
  refine holds_lift h.passed (fun _ _ => h) fun _ _ => ?_
  refine holds_ask.mpr ⟨h.passed, ?_⟩
  refine holds_lift h.passed (fun _ _ => h) fun _ _ => ?_
  refine holds_lift h.passed (fun _ _ => h) fun checked hchecked => ?_
  obtain ⟨report, entries⟩ := checked
  have hplans : bundlePlans tools bundle = admittedEntries report entries := by
    unfold bundlePlans
    rw [hchecked]
  refine holds_bind.mpr ((installEntries_holds (fun plan hplan => ?_) h).imp (fun _ ht => ht)
    fun r t _ hq => ?_)
  · rw [hplans]
    exact hplan
  · cases r with
    | error e => exact hq
    | ok counts =>
      refine andThen_ok.mpr (holds_ask.mpr ⟨hq.passed, ?_⟩)
      exact holds_lift hq.passed (fun _ _ => hq) fun _ _ => ⟨hq.passed, hq⟩

theorem run_lift {α β : Type} {result : Except InstallError α} {f : α → InstallProgram β}
    {b : β} {after : InstallFiles} : (lift result >>= f).run files = (.ok b, after) ↔
      ∃ a, result = .ok a ∧ (f a).run files = (.ok b, after) := by
  cases result with
  | error e =>
    refine iff_of_false (fun h => absurd (Prod.mk.inj h).1 (by simp)) ?_
    intro ⟨a, ha, _⟩
    exact absurd ha (by simp)
  | ok a =>
    refine ⟨fun h => ⟨a, rfl, h⟩, ?_⟩
    intro ⟨a', ha, h⟩
    rw [Except.ok.inj ha]
    exact h

/-- What makes an installation run through, and what it leaves. -/
structure Installs (tools : BundleTools) (bundle : TrackBundle) (files after : InstallFiles)
    (report : TrackBundleReport) (entries : List Rho5Entry) : Prop where
  places : ensure bundle.dataRawIsDirectory "DataRaw directory does not exist" [] = .ok () ∧
    ensure bundle.bundleIsDirectory "track bundle directory does not exist" [] = .ok ()
  complete : (files.dataRaw sourceTrackTable).isSome ∧ (files.dataRaw targetTrackLocale).isSome
  checked : checkBundle tools bundle = .ok (report, entries)
  admitted : ∀ entry ∈ entries, ∃ planned, admitEntry report entry = .ok planned
  admissible : Admissible (admittedEntries report entries) files.dataRaw
  settled : after = settleAll (admittedEntries report entries) files
  verified : verifyInstalled tools report after.dataRaw = .ok ()

theorem ensure_complete {complete : Bool} {message : String} {subject : Text} :
    ensure complete message subject = .ok () ↔ complete = true := by
  unfold ensure
  cases complete with
  | false => exact iff_of_false (by simp) (by simp)
  | true => exact iff_of_true rfl rfl

theorem install_run {after : InstallFiles} :
    (∃ counts, (installTracksDataraw tools bundle).run files = (.ok counts, after)) ↔
      ∃ report entries, Installs tools bundle files after report entries := by
  constructor
  · intro ⟨counts, hrun⟩
    obtain ⟨_, hdataRaw, hrun⟩ := run_lift.mp hrun
    obtain ⟨_, hbundle, hrun⟩ := run_lift.mp hrun
    rw [run_ask] at hrun
    obtain ⟨_, hcomplete, hrun⟩ := run_lift.mp hrun
    obtain ⟨⟨report, entries⟩, hchecked, hrun⟩ := run_lift.mp hrun
    obtain ⟨counts', middle, hentries, hrun⟩ := run_bind_ok.mp hrun
    rw [run_ask] at hrun
    obtain ⟨_, hverified, hrun⟩ := run_lift.mp hrun
    obtain ⟨hadmits, hadmissible, hmiddle⟩ := installEntries_run.mp ⟨counts', hentries⟩
    have hafter : middle = after := (Prod.mk.inj hrun).2
    rw [hafter] at hmiddle hverified
    have hfiles := (Bool.and_eq_true _ _).mp (ensure_complete.mp hcomplete)
    exact ⟨report, entries, ⟨hdataRaw, hbundle⟩, hfiles, hchecked, hadmits, hadmissible, hmiddle,
      hverified⟩
  · intro ⟨report, entries, h⟩
    obtain ⟨counts, hentries⟩ : ∃ counts', (installEntries report entries ⟨0, 0, 0, []⟩).run files =
        (.ok counts', after) := installEntries_run.mpr ⟨h.admitted, h.admissible, h.settled⟩
    refine ⟨counts, run_lift.mpr ⟨_, h.places.1, run_lift.mpr ⟨_, h.places.2, ?_⟩⟩⟩
    rw [run_ask]
    refine run_lift.mpr ⟨_, ensure_complete.mpr ((Bool.and_eq_true _ _).mpr h.complete), ?_⟩
    refine run_lift.mpr ⟨_, h.checked, run_bind_ok.mpr ⟨counts, after, hentries, ?_⟩⟩
    rw [run_ask]
    exact run_lift.mpr ⟨_, h.verified, rfl⟩

/-! ## Installations one after another -/

/-- The files that installations of one bundle leave from the initial tree, each cut off somewhere,
but neither while a resource is written nor while a backup is made. -/
inductive Interrupted (tools : BundleTools) (bundle : TrackBundle)
    (initial : AssetPath → Option Bytes) : InstallFiles → Prop
  | start : Interrupted tools bundle initial ⟨initial, fun _ => none⟩
  | cut {s t : InstallFiles} : Interrupted tools bundle initial s →
      Cuts (installTracksDataraw tools bundle) s t →
      ¬ Torn (bundlePlans tools bundle) initial t → Interrupted tools bundle initial t

theorem Interrupted.intact (h : Interrupted tools bundle initial files) :
    Intact (bundlePlans tools bundle) initial files := by
  induction h with
  | start =>
    refine ⟨fun path => ⟨.inl rfl, fun _ _ hinitial => hinitial,
      fun _ hinitial hchanged => absurd hinitial hchanged, fun _ _ => .inl rfl⟩, ?_⟩
    intro ⟨path, htorn⟩
    rcases htorn with ⟨_, _, _, hempty⟩ | ⟨_, hnone, hempty, _⟩
    · exact absurd hempty (by simp)
    · exact absurd (hnone.symm.trans hempty) (by simp)
  | cut _ hcuts hwhole ih => exact ⟨(holds_iff.mp (install_holds ih)).1 _ hcuts, hwhole⟩

/-- Where an installation can start again, the initial tree is no more than the other paths. -/
theorem Intact.written (h : Intact plans initial files) :
    written plans files.dataRaw = written plans initial := by
  refine written_congr fun path hpath => ?_
  rcases (h.passed path).comes with hsame | ⟨bytes, hplanned, -⟩
  · exact hsame
  · exact absurd hplanned (hpath bytes)

theorem Intact.admissible (h : Intact plans initial files) (hinitial : Admissible plans initial) :
    Admissible plans files.dataRaw := by
  intro path bytes hmem hresource
  obtain ⟨hfree, hsame⟩ := hinitial path bytes hmem hresource
  refine ⟨?_, hsame⟩
  rcases (h.passed path).comes with hunchanged | ⟨other, hplanned, hfull | hempty⟩
  · rw [hunchanged]
    exact hfree
  · rw [hfull, hsame other hplanned]
    exact .inr rfl
  · -- a resource that is empty was to be empty
    rcases hfree with hnone | hsome
    · by_cases hplan : (path, []) ∈ plans
      · rw [hempty, hsame [] hplan]
        exact .inr rfl
      · exact absurd ⟨path, .inr ⟨hresource, hnone, hempty, hplan⟩⟩ h.whole
    · exact .inr ((h.passed path).kept hresource bytes hsome)

theorem Passed.isSome {path : AssetPath} (h : Passed plans initial files)
    (hsome : (initial path).isSome) : (files.dataRaw path).isSome := by
  rcases (h path).comes with hsame | ⟨_, -, hfull | hempty⟩
  · rw [hsame]
    exact hsome
  · rw [hfull]
    rfl
  · rw [hempty]
    rfl

theorem Installs.bundlePlans_eq {after : InstallFiles} {report : TrackBundleReport}
    {entries : List Rho5Entry} (h : Installs tools bundle files after report entries) :
    bundlePlans tools bundle = admittedEntries report entries := by
  unfold bundlePlans
  rw [h.checked]

end Install

/-- Installations of one bundle from any initial tree, with no backups yet, of which none was cut
off while a resource was written or a backup was made. Only catalogs ever change, each with a
backup of what it was. An installation that runs through leaves the initial tree with the bundle
written over it, and another one changes nothing. Where one runs through from the initial tree, one
does from wherever it was interrupted. -/
theorem track_installations (tools : BundleTools) (bundle : TrackBundle)
    (initial : AssetPath → Option Bytes) (files : InstallFiles)
    (h : Interrupted tools bundle initial files) :
    (∀ t, Cuts (installTracksDataraw tools bundle) files t →
      ∀ path bytes, initial path = some bytes → t.dataRaw path ≠ some bytes →
        isTrackBundleCatalogPath path = true ∧ t.backup path = some bytes) ∧
    (∀ counts after, (installTracksDataraw tools bundle).run files = (.ok counts, after) →
      after.dataRaw = written (bundlePlans tools bundle) initial ∧
        ∃ again, (installTracksDataraw tools bundle).run after = (.ok again, after)) ∧
    (∀ counts after, (installTracksDataraw tools bundle).run ⟨initial, fun _ => none⟩ =
        (.ok counts, after) →
      ∃ counts' after', (installTracksDataraw tools bundle).run files = (.ok counts', after')) := by
  have hintact := h.intact
  refine ⟨?_, ?_, ?_⟩
  · intro t hcuts path bytes hinitial hchanged
    have hpassed := (holds_iff.mp (install_holds hintact)).1 t hcuts path
    refine ⟨?_, hpassed.changed bytes hinitial hchanged⟩
    by_contra hresource
    exact hchanged (hpassed.kept (Bool.not_eq_true _ ▸ hresource) bytes hinitial)
  · intro counts after hrun
    obtain ⟨report, entries, hinstalls⟩ := install_run.mp ⟨counts, hrun⟩
    have hplans := hinstalls.bundlePlans_eq
    have hdataRaw : after.dataRaw = written (bundlePlans tools bundle) files.dataRaw := by
      rw [hinstalls.settled, settleAll_dataRaw, hplans]
    refine ⟨hdataRaw.trans hintact.written, ?_⟩
    -- everything is there already, and has its backup
    refine install_run.mpr ⟨report, entries, hinstalls.places, ?_, hinstalls.checked,
      hinstalls.admitted, ?_, ?_, hinstalls.verified⟩
    · have hpassed : ∀ path, (files.dataRaw path).isSome → (after.dataRaw path).isSome := by
        intro path hsome
        rw [hdataRaw]
        exact written_isSome hsome
      exact ⟨hpassed _ hinstalls.complete.1, hpassed _ hinstalls.complete.2⟩
    · rw [hinstalls.settled, settleAll_dataRaw]
      exact hinstalls.admissible.written
    · rw [hinstalls.settled, settleAll_idem]
  · intro counts after hrun
    obtain ⟨report, entries, hinstalls⟩ := install_run.mp ⟨counts, hrun⟩
    have hplans := hinstalls.bundlePlans_eq
    have hadmissible := hinstalls.admissible
    rw [← hplans] at hadmissible
    obtain ⟨counts', hagain⟩ := install_run.mpr ⟨report, entries, hinstalls.places,
      ⟨hintact.passed.isSome hinstalls.complete.1, hintact.passed.isSome hinstalls.complete.2⟩,
      hinstalls.checked, hinstalls.admitted, hplans ▸ hintact.admissible hadmissible, rfl, by
        rw [settleAll_dataRaw, ← hplans, hintact.written]
        have hverified := hinstalls.verified
        rwa [hinstalls.settled, settleAll_dataRaw, ← hplans] at hverified⟩
    exact ⟨counts', _, hagain⟩

/-! ## A bundle of one track -/

/-- A track list with the track `a`. -/
def sampleTrackList : BmlNode :=
  .node [] [] [] [.node [] [] [("id".toList, ['a'])] []]

def sampleTable : Bytes := ((encodeWithLimits bmlLimits sampleTrackList).run.run []).2

def sampleReport : TrackBundleReport where
  schemaVersion := 5
  tracks := [['a']]
  themes := []
  archives := [⟨"a.rho5".toList, "track_resources".toList, 0, []⟩]
  contentRegistryCatalogs := []

def sampleEntries : List Rho5Entry :=
  [⟨"a.rho5".toList, sourceTrackTable, .ok sampleTable⟩, ⟨"a.rho5".toList, [['r']], .ok [7]⟩]

/-- It replaces the track table and adds one resource. -/
def sampleBundle : TrackBundle where
  bundleIsDirectory := true
  dataRawIsDirectory := true
  bundleInsideDataRaw := false
  backupInsideDataRaw := false
  report := .ok sampleReport
  stagedArchive := fun _ => some []
  archiveCount := 1
  entries := .ok sampleEntries

def sampleTools : BundleTools where
  sha256 := fun _ => []
  contentRegistryEntryEnabled := fun _ _ _ => .ok false

/-- The stock track table is `[9]`, and the locale knows the track. -/
def sampleTree (path : AssetPath) : Option Bytes :=
  if path = sourceTrackTable then some [9]
  else if path = targetTrackLocale then some sampleTable
  else none

theorem decodeBml_sampleTable (path : AssetPath) :
    decodeBml path sampleTable = .ok sampleTrackList := by
  have hencoded : Yields (encodeWithLimits bmlLimits sampleTrackList) [] ⟨⟩ sampleTable := rfl
  obtain ⟨w, hw, hdecodes⟩ := (bml_roundTrip bmlLimits sampleTrackList).1 _ _ hencoded
  rw [List.nil_append] at hw
  obtain ⟨reader, hdecoded, hend⟩ := hdecodes ⟨sampleTable, 0⟩ [] (by
    rw [List.append_nil, ← hw]
    rfl)
  have hrun : ((decodeWithLimits bmlLimits).run.run ⟨sampleTable, 0⟩ :
    Except BmlError BmlNode × PacketReader) = (.ok sampleTrackList, reader) := hdecoded
  unfold decodeBml
  rw [hrun]
  dsimp only
  rw [hend]
  rfl

theorem verifyInstalled_sample {dataRaw : AssetPath → Option Bytes}
    (htable : dataRaw sourceTrackTable = some sampleTable)
    (hlocale : dataRaw targetTrackLocale = some sampleTable) :
    verifyInstalled sampleTools sampleReport dataRaw = .ok () := by
  unfold verifyInstalled readInstalled
  rw [htable, hlocale]
  show (decodeBml sourceTrackTable sampleTable >>= fun table =>
    decodeBml targetTrackLocale sampleTable >>= fun locale => _) = _
  rw [decodeBml_sampleTable, decodeBml_sampleTable]
  rfl

theorem sampleBundle_installs (files : InstallFiles)
    (htable : (files.dataRaw sourceTrackTable).isSome)
    (hlocale : files.dataRaw targetTrackLocale = some sampleTable)
    (hresource : files.dataRaw [['r']] = none ∨ files.dataRaw [['r']] = some [7]) :
    ∃ counts, (installTracksDataraw sampleTools sampleBundle).run files =
      (.ok counts, settleAll [(sourceTrackTable, sampleTable), ([['r']], [7])] files) := by
  have hother : Function.update files.dataRaw sourceTrackTable (some sampleTable) [['r']] =
      files.dataRaw [['r']] := Function.update_of_ne (by decide) _ _
  refine install_run.mpr ⟨sampleReport, sampleEntries, ⟨rfl, rfl⟩,
    ⟨htable, by rw [hlocale]; rfl⟩, rfl, ?_, ?_, rfl, verifyInstalled_sample ?_ ?_⟩
  · intro entry hentry
    rcases List.mem_cons.mp hentry with rfl | hentry
    · exact ⟨_, rfl⟩
    · rw [List.mem_singleton.mp hentry]
      exact ⟨_, rfl⟩
  · refine admissible_cons.mpr ⟨fun hcatalog => absurd hcatalog (by decide), ?_⟩
    refine admissible_cons.mpr ⟨fun _ => ?_, fun _ _ hmem => absurd hmem List.not_mem_nil⟩
    rw [hother]
    exact hresource
  · rw [settleAll_dataRaw]
    show Function.update (Function.update files.dataRaw sourceTrackTable (some sampleTable))
      [['r']] (some [7]) sourceTrackTable = some sampleTable
    rw [Function.update_of_ne (by decide), Function.update_self]
  · rw [settleAll_dataRaw]
    show Function.update (Function.update files.dataRaw sourceTrackTable (some sampleTable))
      [['r']] (some [7]) targetTrackLocale = some sampleTable
    rw [Function.update_of_ne (by decide), Function.update_of_ne (by decide)]
    exact hlocale

/-- Cut off between the two entries, and run again. -/
theorem sampleBundle_again : ∃ files counts after,
    Interrupted sampleTools sampleBundle sampleTree files ∧
      (installTracksDataraw sampleTools sampleBundle).run files = (.ok counts, after) ∧
      after.backup sourceTrackTable = some [9] ∧
      ∃ again, (installTracksDataraw sampleTools sampleBundle).run after = (.ok again, after) := by
  let files := (installTracksDataraw sampleTools sampleBundle).cut 9 ⟨sampleTree, fun _ => none⟩
  have hfiles : files = ⟨Function.update sampleTree sourceTrackTable (some sampleTable),
      Function.update (fun _ => none) sourceTrackTable (some [9])⟩ := by
    show InstallFiles.mk (Function.update (Function.update sampleTree sourceTrackTable (some []))
      sourceTrackTable (some sampleTable)) (Function.update (Function.update (fun _ => none)
      sourceTrackTable (some [])) sourceTrackTable (some [9])) = _
    rw [Function.update_idem, Function.update_idem]
  have hwhole : ¬ Torn (bundlePlans sampleTools sampleBundle) sampleTree files := by
    rw [hfiles]
    intro ⟨path, htorn⟩
    dsimp only at htorn
    by_cases hpath : path = sourceTrackTable
    · rw [hpath, Function.update_self, Function.update_self] at htorn
      rcases htorn with ⟨_, _, _, hempty⟩ | ⟨hresource, _⟩
      · exact absurd hempty (by decide)
      · exact absurd hresource (by decide)
    · rw [Function.update_of_ne hpath, Function.update_of_ne hpath] at htorn
      rcases htorn with ⟨_, _, _, hempty⟩ | ⟨_, hnone, hempty, _⟩
      · exact absurd hempty (by simp)
      · exact absurd (hnone.symm.trans hempty) (by simp)
  have hinterrupted : Interrupted sampleTools sampleBundle sampleTree files :=
    .cut .start (cuts_cut 9) hwhole
  obtain ⟨hbacked, hagain, hresumes⟩ := track_installations _ _ _ files hinterrupted
  obtain ⟨counts, after, hrun⟩ := hresumes _ _ (sampleBundle_installs
    ⟨sampleTree, fun _ => none⟩ rfl rfl (.inl rfl)).choose_spec
  obtain ⟨hafter, hsame⟩ := hagain counts after hrun
  refine ⟨files, counts, after, hinterrupted, hrun, ?_, hsame⟩
  -- the table changed, and its backup is what it was
  have hcuts : Cuts (installTracksDataraw sampleTools sampleBundle) files after := by
    have hend := cuts_run (p := installTracksDataraw sampleTools sampleBundle) (s := files)
    rwa [hrun] at hend
  refine (hbacked after hcuts sourceTrackTable [9] rfl ?_).2
  rw [hafter]
  show Function.update (Function.update sampleTree sourceTrackTable (some sampleTable))
    [['r']] (some [7]) sourceTrackTable ≠ some [9]
  rw [Function.update_of_ne (by decide), Function.update_self]
  decide

/-- Cut off while the resource is written, the installation never runs through again. Cut off while
the backup is made, it runs through and what the table was is lost. -/
theorem sampleBundle_torn :
    (∃ counts after, (installTracksDataraw sampleTools sampleBundle).run
      ⟨sampleTree, fun _ => none⟩ = (.ok counts, after)) ∧
    (∃ files e, Cuts (installTracksDataraw sampleTools sampleBundle) ⟨sampleTree, fun _ => none⟩
        files ∧
      ((installTracksDataraw sampleTools sampleBundle).run files).1 = .error e) ∧
    ∃ files counts after, Cuts (installTracksDataraw sampleTools sampleBundle)
        ⟨sampleTree, fun _ => none⟩ files ∧
      (installTracksDataraw sampleTools sampleBundle).run files = (.ok counts, after) ∧
      sampleTree sourceTrackTable = some [9] ∧ after.dataRaw sourceTrackTable = some sampleTable ∧
      after.backup sourceTrackTable = some [] := by
  refine ⟨?_, ?_, ?_⟩
  · obtain ⟨counts, hrun⟩ := sampleBundle_installs ⟨sampleTree, fun _ => none⟩ rfl rfl
      (.inl rfl)
    exact ⟨counts, _, hrun⟩
  · exact ⟨_, _, cuts_cut 11, rfl⟩
  · obtain ⟨counts, hrun⟩ := sampleBundle_installs
      ((installTracksDataraw sampleTools sampleBundle).cut 5
        ⟨sampleTree, fun _ => none⟩) rfl rfl (.inl rfl)
    exact ⟨_, counts, _, cuts_cut 5, hrun, rfl, rfl, rfl⟩

end P4475.Assets
