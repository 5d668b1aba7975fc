import P4475.Connector.Pristine

/-!
# Runs of calls on one file

Each invariant below says what holds of the file between calls, and during a call what the rest of
the call will do wherever it is cut off.
-/

namespace P4475.Connector

open Lib Program

variable {initial : PersistentFile} {s s' : FileRun} {a : FileAction} {r : FileAnswer}

/-! ## Steps -/

/-- What taking a step of a call can be. -/
theorem FileRun.advance_cases (h : s.advance = some (r, s')) :
    (∃ result, s.call = some (.preparing (.done result)) ∧ r = .prepared result ∧
      s' = ⟨s.file, none, s.returned ++ result.toOption.toList⟩) ∨
    (∃ maximumBytes result, s.call = some (.restoring maximumBytes (.done result)) ∧
      r = .restored result ∧ s' = ⟨s.file, none, s.returned⟩) ∨
    (∃ rest rest' file, s.call = some (.preparing rest) ∧ rest.step s.file = some (rest', file) ∧
      r = .advanced ∧ s' = ⟨file, some (.preparing rest'), s.returned⟩) ∨
    (∃ maximumBytes rest rest' file, s.call = some (.restoring maximumBytes rest) ∧
      rest.step s.file = some (rest', file) ∧ r = .advanced ∧
      s' = ⟨file, some (.restoring maximumBytes rest'), s.returned⟩) := by
  unfold FileRun.advance at h
  split at h
  next => exact absurd h (by simp)
  next result hcall =>
    obtain ⟨rfl, rfl⟩ := Prod.mk.inj (Option.some.inj h)
    exact .inl ⟨result, hcall, rfl, rfl⟩
  next maximumBytes result hcall =>
    obtain ⟨rfl, rfl⟩ := Prod.mk.inj (Option.some.inj h)
    exact .inr (.inl ⟨maximumBytes, result, hcall, rfl, rfl⟩)
  next rest _ hcall =>
    obtain ⟨⟨rest', file⟩, hstep, heq⟩ := Option.map_eq_some_iff.mp h
    obtain ⟨rfl, rfl⟩ := Prod.mk.inj heq
    exact .inr (.inr (.inl ⟨rest, rest', file, hcall, hstep, rfl, rfl⟩))
  next maximumBytes rest _ hcall =>
    obtain ⟨⟨rest', file⟩, hstep, heq⟩ := Option.map_eq_some_iff.mp h
    obtain ⟨rfl, rfl⟩ := Prod.mk.inj heq
    exact .inr (.inr (.inr ⟨maximumBytes, rest, rest', file, hcall, hstep, rfl, rfl⟩))

/-- What holds of a file and of the rest of a call on it: `Idle` between calls, and what the rest
of a call does otherwise. The rest of a call keeps it, so only the ends of calls and what comes
between them are left to check. -/
structure Guard where
  idle : List PersistentFilePreparation → PersistentFile → Prop
  preparing : List PersistentFilePreparation → PersistentFile → Prop
  prepared : List PersistentFilePreparation →
    Except ConnectorFileError PersistentFilePreparation → PersistentFile → Prop
  restoring : List PersistentFilePreparation → PersistentFile → Prop
  restored : List PersistentFilePreparation → Nat → Except ConnectorFileError Unit →
    PersistentFile → Prop

def Guard.Ok (G : Guard) (s : FileRun) : Prop :=
  match s.call with
  | none => G.idle s.returned s.file
  | some (.preparing rest) => rest.Holds (G.preparing s.returned) (G.prepared s.returned) s.file
  | some (.restoring maximumBytes rest) =>
    rest.Holds (G.restoring s.returned) (G.restored s.returned maximumBytes) s.file

/-- What is left to check of a guard. `Crash` is what is known of a file where a call is cut off. -/
structure Guard.Sound (G : Guard) (Crash : PersistentFile → Prop) : Prop where
  prepare : ∀ {returned file} (required : Bool) (maximumBytes : Nat), G.idle returned file →
    (preparePersistentFile required maximumBytes).Holds (G.preparing returned)
      (G.prepared returned) file
  prepared : ∀ {returned result file}, G.prepared returned result file →
    G.idle (returned ++ result.toOption.toList) file
  restore : ∀ {returned file preparation} (maximumBytes : Nat), G.idle returned file →
    preparation ∈ returned → (restorePersistentFile preparation maximumBytes).Holds
      (G.restoring returned) (G.restored returned maximumBytes) file
  restored : ∀ {returned result file} (maximumBytes : Nat), G.restoring returned file →
    G.restored returned maximumBytes result file → G.idle returned file
  overwrite : ∀ {returned file} (bytes : Bytes), G.idle returned file → returned ≠ [] →
    G.idle returned (Function.update file .live (some bytes))
  cutPreparing : ∀ {returned file}, G.preparing returned file → Crash file →
    G.idle returned file
  cutRestoring : ∀ {returned file}, G.restoring returned file → Crash file →
    G.idle returned file

theorem Guard.Sound.step {G : Guard} {Crash : PersistentFile → Prop} (hG : G.Sound Crash)
    (hok : G.Ok s) (hcut : a = .crash → Crash s.file) (h : s.step a = some (r, s')) : G.Ok s' := by
  unfold Guard.Ok at hok
  cases a with
  | prepare required maximumBytes =>
    simp only [FileRun.step] at h
    cases hcall : s.call with
    | some call => simp [hcall] at h
    | none =>
      rw [hcall] at hok
      simp only [hcall, Option.isSome_none, Bool.false_eq_true, if_false] at h
      obtain ⟨rfl, rfl⟩ := Prod.mk.inj (Option.some.inj h)
      exact hG.prepare required maximumBytes hok
  | restore preparation maximumBytes =>
    simp only [FileRun.step] at h
    split at h
    next => exact absurd h (by simp)
    next hfree =>
      obtain ⟨hcall, hmem⟩ := not_or.mp hfree
      rw [Option.not_isSome_iff_eq_none.mp hcall] at hok
      obtain ⟨rfl, rfl⟩ := Prod.mk.inj (Option.some.inj h)
      exact hG.restore maximumBytes hok (not_not.mp hmem)
  | overwrite bytes =>
    simp only [FileRun.step] at h
    split at h
    next => exact absurd h (by simp)
    next hfree =>
      obtain ⟨hcall, hreturned⟩ := not_or.mp hfree
      have hidle := Option.not_isSome_iff_eq_none.mp hcall
      rw [hidle] at hok
      obtain ⟨rfl, rfl⟩ := Prod.mk.inj (Option.some.inj h)
      unfold Guard.Ok
      dsimp only
      rw [hidle]
      exact hG.overwrite bytes hok hreturned
  | crash =>
    simp only [FileRun.step] at h
    cases hcall : s.call with
    | none => simp [hcall] at h
    | some call =>
      simp only [hcall, Option.isSome_some, if_true] at h
      obtain ⟨rfl, rfl⟩ := Prod.mk.inj (Option.some.inj h)
      rw [hcall] at hok
      cases call with
      | preparing rest => exact hG.cutPreparing hok.here (hcut rfl)
      | restoring maximumBytes rest => exact hG.cutRestoring hok.here (hcut rfl)
  | advance =>
    rcases FileRun.advance_cases h with ⟨result, hcall, -, rfl⟩ |
      ⟨maximumBytes, result, hcall, -, rfl⟩ | ⟨rest, rest', file, hcall, hstep, -, rfl⟩ |
      ⟨maximumBytes, rest, rest', file, hcall, hstep, -, rfl⟩
    · rw [hcall] at hok
      exact hG.prepared hok.2
    · rw [hcall] at hok
      exact hG.restored maximumBytes hok.1 hok.2
    · rw [hcall] at hok
      exact hok.step hstep
    · rw [hcall] at hok
      exact hok.step hstep

/-- A guard that holds at first holds in every run that is cut off only where `Crash` is known. -/
theorem Guard.Sound.run {G : Guard} {Crash : PersistentFile → Prop} (hG : G.Sound Crash)
    {start : FileRun} (hstart : G.Ok start)
    (h : (fileMachine initial).RunBy (fun s a => a = .crash → Crash s.file) start s) : G.Ok s :=
  h.invariant hstart fun hok hcut hstep => hG.step hok hcut hstep

/-! ## The record -/

/-- Every preparation that was returned says which record there is. -/
def StatesKnown (initial : PersistentFile) (returned : List PersistentFilePreparation) : Prop :=
  ∀ prep ∈ returned, (prep.state = .backup ↔ (stock initial).isSome)

/-- Nothing was done yet, or the stock state is on record. -/
def Known (initial : PersistentFile) (returned : List PersistentFilePreparation)
    (file : PersistentFile) : Prop :=
  (returned = [] ∧ file = initial ∨ Recorded initial file) ∧ StatesKnown initial returned

theorem StatesKnown.returned {returned : List PersistentFilePreparation}
    {result : Except ConnectorFileError PersistentFilePreparation}
    (h : StatesKnown initial returned)
    (hresult : ∀ prep, result = .ok prep → (prep.state = .backup ↔ (stock initial).isSome)) :
    StatesKnown initial (returned ++ result.toOption.toList) := by
  intro prep hprep
  rcases List.mem_append.mp hprep with hprep | hprep
  · exact h prep hprep
  · cases result with
    | error e => exact absurd hprep List.not_mem_nil
    | ok prep' => exact hresult prep (by rw [List.mem_singleton.mp hprep])

/-- Once a preparation was returned there is a record. -/
theorem Known.recorded {returned : List PersistentFilePreparation} {file : PersistentFile}
    (h : Known initial returned file) (hreturned : returned ≠ []) : Recorded initial file :=
  h.1.resolve_left fun hfresh => hreturned hfresh.1

def knownGuard (initial : PersistentFile) : Guard where
  idle := Known initial
  preparing := Known initial
  prepared returned r file := Known initial returned file ∧ ∀ prep, r = .ok prep →
    Recorded initial file ∧ (prep.state = .backup ↔ (stock initial).isSome)
  restoring returned file := Recorded initial file ∧ StatesKnown initial returned
  restored _ maximumBytes r file := Restores initial maximumBytes r file

theorem knownGuard_sound (hbackup : initial .pristineBackup = none)
    (habsent : initial .pristineAbsent = none) : (knownGuard initial).Sound fun _ => True where
  prepare {returned file} required maximumBytes h := by
    rcases h.1 with ⟨hreturned, rfl⟩ | hrecorded
    · -- the first call, or one after calls that did nothing
      refine (prepare_initial hbackup habsent).imp ?_ ?_
      · intro t ht
        rcases ht with rfl | ⟨hrecorded, -⟩
        · exact h
        · exact ⟨.inr hrecorded, h.2⟩
      · intro r t _ ⟨hok, hend, hreturns⟩
        refine ⟨⟨?_, h.2⟩, fun prep hr => ⟨(hok prep hr).1, (hreturns prep hr).1⟩⟩
        rcases hend with rfl | ⟨hrecorded, -⟩
        · exact .inl ⟨hreturned, rfl⟩
        · exact .inr hrecorded
    · refine (prepare_recorded hrecorded).imp ?_ ?_
      · exact fun t ht => ⟨.inr (ht.recorded hrecorded), h.2⟩
      · exact fun r t ht hq => ⟨⟨.inr (ht.recorded hrecorded), h.2⟩,
          fun prep hr => ⟨ht.recorded hrecorded, (hq prep hr).1⟩⟩
  prepared {returned result file} h := by
    refine ⟨?_, h.1.2.returned fun prep hr => (h.2 prep hr).2⟩
    cases result with
    | ok prep => exact .inr (h.2 prep rfl).1
    | error e =>
      rw [Except.toOption, Option.toList_none, List.append_nil]
      exact h.1.1
  restore {returned file preparation} maximumBytes h hmem := by
    have hrecorded := h.recorded (List.ne_nil_of_mem hmem)
    refine (restore_recorded hrecorded (h.2 preparation hmem)).imp ?_ fun _ _ _ hq => hq
    intro t ht
    exact ⟨⟨(ht _ (by decide)).trans hrecorded.backup, (ht _ (by decide)).trans hrecorded.absent⟩,
      h.2⟩
  restored _ h _ := ⟨.inr h.1, h.2⟩
  overwrite bytes h hreturned :=
    ⟨.inr ((h.recorded hreturned).update _ _ (by decide) (by decide)), h.2⟩
  cutPreparing h _ := h
  cutRestoring h _ := ⟨.inr h.1, h.2⟩

/-! ## Migrations that are not cut off -/

/-- Nothing was done yet, or what was begun is finished. -/
def Settled (initial : PersistentFile) (returned : List PersistentFilePreparation)
    (file : PersistentFile) : Prop :=
  (returned = [] ∧ file = initial ∨ Recorded initial file ∧ ¬ MigrationLeft file ∧
    (returned = [] → Migrated initial file)) ∧ StatesKnown initial returned

theorem Recorded.pristine {file : PersistentFile} (h : Recorded initial file) :
    (file .pristineBackup).isSome ∨ (file .pristineAbsent).isSome := by
  by_cases hbackup : (file .pristineBackup).isSome
  · exact .inl hbackup
  · exact .inr (not_not.mp fun hno => hbackup (h.one.mpr hno))

theorem Migrated.not_left {file : PersistentFile} (h : Migrated initial file) :
    ¬ MigrationLeft file := by
  intro hleft
  rcases hleft.2 with hsome | hsome
  · rw [h.legacyBackup] at hsome
    exact absurd hsome (by decide)
  · rw [h.legacyCreated] at hsome
    exact absurd hsome (by decide)

/-- A change beside the old companions leaves a migration as it is. -/
theorem MigrationLeft.of_same {before after : PersistentFile}
    (hbefore : Recorded initial before) (hafter : Recorded initial after)
    (hbackup : after .legacyBackup = before .legacyBackup)
    (hcreated : after .legacyCreated = before .legacyCreated) :
    MigrationLeft after ↔ MigrationLeft before := by
  unfold MigrationLeft
  rw [hbackup, hcreated]
  exact and_congr_left fun _ => ⟨fun _ => hbefore.pristine, fun _ => hafter.pristine⟩

def settledGuard (initial : PersistentFile) : Guard where
  idle := Settled initial
  preparing returned file :=
    (MigrationLeft file ∨ Settled initial returned file) ∧ StatesKnown initial returned
  prepared returned r file := Settled initial returned file ∧ ∀ prep, r = .ok prep →
    Recorded initial file ∧ ¬ MigrationLeft file ∧ (returned = [] → Migrated initial file) ∧
      (prep.state = .backup ↔ (stock initial).isSome) ∧ file .legacyTemporary = none
  restoring returned file := returned ≠ [] ∧ Settled initial returned file
  restored _ _ _ _ := True

theorem settledGuard_sound (hbackup : initial .pristineBackup = none)
    (habsent : initial .pristineAbsent = none) :
    (settledGuard initial).Sound fun file => ¬ MigrationLeft file where
  prepare {returned file} required maximumBytes h := by
    rcases h.1 with ⟨hreturned, rfl⟩ | ⟨hrecorded, hdone, hmigrated⟩
    · refine (prepare_initial hbackup habsent).imp ?_ ?_
      · intro t ht
        rcases ht with rfl | ⟨hrecorded, hleft | hmigrated⟩
        · exact ⟨.inr h, h.2⟩
        · exact ⟨.inl hleft, h.2⟩
        · exact ⟨.inr ⟨.inr ⟨hrecorded, hmigrated.not_left, fun _ => hmigrated⟩, h.2⟩, h.2⟩
      · intro r t _ ⟨hok, hend, hreturns⟩
        refine ⟨⟨?_, h.2⟩, fun prep hr => ⟨(hok prep hr).1, (hok prep hr).2.not_left,
          fun _ => (hok prep hr).2, hreturns prep hr⟩⟩
        rcases hend with rfl | ⟨hrecorded, hmigrated⟩
        · exact .inl ⟨hreturned, rfl⟩
        · exact .inr ⟨hrecorded, hmigrated.not_left, fun _ => hmigrated⟩
    · have hkept : ∀ t, Beside file t → Recorded initial t ∧ ¬ MigrationLeft t ∧
          (returned = [] → Migrated initial t) := by
        intro t ht
        have hafter := ht.recorded hrecorded
        exact ⟨hafter, fun hleft => hdone ((MigrationLeft.of_same hrecorded hafter ht.legacyBackup
          ht.legacyCreated).mp hleft), fun hfirst => ht.migrated hrecorded (hmigrated hfirst)⟩
      refine (prepare_recorded hrecorded).imp ?_ ?_
      · exact fun t ht => ⟨.inr ⟨.inr (hkept t ht), h.2⟩, h.2⟩
      · intro r t ht hq
        obtain ⟨hafter, hnot, hgone⟩ := hkept t ht
        exact ⟨⟨.inr (hkept t ht), h.2⟩, fun prep hr => ⟨hafter, hnot, hgone, hq prep hr⟩⟩
  prepared {returned result file} h := by
    refine ⟨?_, h.1.2.returned fun prep hr => (h.2 prep hr).2.2.2.1⟩
    cases result with
    | ok prep =>
      obtain ⟨hrecorded, hnot, -⟩ := h.2 prep rfl
      exact .inr ⟨hrecorded, hnot, fun hnil => absurd hnil (by simp [Except.toOption])⟩
    | error e =>
      rw [Except.toOption, Option.toList_none, List.append_nil]
      exact h.1.1
  restore {returned file preparation} maximumBytes h hmem := by
    have hreturned := List.ne_nil_of_mem hmem
    obtain ⟨hrecorded, hdone, -⟩ := h.1.resolve_left fun hfresh => hreturned hfresh.1
    refine (restore_recorded hrecorded (h.2 preparation hmem)).imp ?_ fun _ _ _ _ => trivial
    intro t ht
    have hafter : Recorded initial t :=
      ⟨(ht _ (by decide)).trans hrecorded.backup, (ht _ (by decide)).trans hrecorded.absent⟩
    refine ⟨hreturned, .inr ⟨hafter, fun hleft => hdone ?_, fun hnil => absurd hnil hreturned⟩, h.2⟩
    exact (MigrationLeft.of_same hrecorded hafter (ht _ (by decide)) (ht _ (by decide))).mp hleft
  restored _ h _ := h.2
  overwrite {returned file} bytes h hreturned := by
    obtain ⟨hrecorded, hdone, -⟩ := h.1.resolve_left fun hfresh => hreturned hfresh.1
    exact ⟨.inr ⟨hrecorded.update _ _ (by decide) (by decide), hdone,
      fun hnil => absurd hnil hreturned⟩, h.2⟩
  cutPreparing h hcut := h.1.resolve_left hcut
  cutRestoring h _ := h.2

/-! ## Migrations that are cut off -/

/-- The stock state is recorded, and the migration is not finished. -/
def Stuck (initial : PersistentFile) (returned : List PersistentFilePreparation)
    (file : PersistentFile) : Prop :=
  Recorded initial file ∧ MigrationLeft file ∧ StatesKnown initial returned

def stuckGuard (initial : PersistentFile) : Guard where
  idle := Stuck initial
  preparing := Stuck initial
  prepared returned r file := Stuck initial returned file ∧
    ∀ prep, r = .ok prep → (prep.state = .backup ↔ (stock initial).isSome)
  restoring := Stuck initial
  restored _ _ _ _ := True

/-- No later call takes a migration up again. -/
theorem stuckGuard_sound : (stuckGuard initial).Sound fun _ => True where
  prepare {returned file} required maximumBytes h := by
    have hkept : ∀ t, Beside file t → Stuck initial returned t := by
      intro t ht
      have hafter := ht.recorded h.1
      exact ⟨hafter, (MigrationLeft.of_same h.1 hafter ht.legacyBackup ht.legacyCreated).mpr h.2.1,
        h.2.2⟩
    exact (prepare_recorded h.1).imp hkept
      fun r t ht hq => ⟨hkept t ht, fun prep hr => (hq prep hr).1⟩
  prepared h := ⟨h.1.1, h.1.2.1, h.1.2.2.returned h.2⟩
  restore {returned file preparation} maximumBytes h hmem := by
    refine (restore_recorded h.1 (h.2.2 preparation hmem)).imp ?_ fun _ _ _ _ => trivial
    intro t ht
    have hafter : Recorded initial t :=
      ⟨(ht _ (by decide)).trans h.1.backup, (ht _ (by decide)).trans h.1.absent⟩
    exact ⟨hafter, (MigrationLeft.of_same h.1 hafter (ht _ (by decide))
      (ht _ (by decide))).mpr h.2.1, h.2.2⟩
  restored _ h _ := h
  overwrite bytes h _ := ⟨h.1.update _ _ (by decide) (by decide), h.2.1, h.2.2⟩
  cutPreparing h _ := h
  cutRestoring h _ := h

/-! ## Every run -/

/-- The record in a state of a run: one of two, of the stock state, never changed, and what a
restore comes back to. -/
structure StockKept (initial : PersistentFile) (s : FileRun) : Prop where
  backup : ∀ bytes, s.file .pristineBackup = some bytes →
    stock initial = some bytes ∧ s.file .pristineAbsent = none
  absent : (s.file .pristineAbsent).isSome →
    stock initial = none ∧ s.file .pristineBackup = none
  unchanged : ∀ a r s', s.step a = some (r, s') →
    (∀ bytes, s.file .pristineBackup = some bytes → s'.file .pristineBackup = some bytes) ∧
      ∀ bytes, s.file .pristineAbsent = some bytes → s'.file .pristineAbsent = some bytes
  restored : ∀ s', s.step .advance = some (.restored (.ok ()), s') →
    s'.file .live = stock initial
  refused : ∀ maximumBytes rest e s', s.call = some (.restoring maximumBytes rest) →
    s.step .advance = some (.restored (.error e), s') →
      ∃ bytes, stock initial = some bytes ∧ maximumBytes < bytes.length

/-- What the first preparation to be returned says: nothing of an earlier launcher is left, and
what it had backed up is live. -/
def FirstPrepared (initial : PersistentFile) (s : FileRun) : Prop :=
  ∀ prep s', s.returned = [] → s.step .advance = some (.prepared (.ok prep), s') →
    s'.file .legacyBackup = none ∧ s'.file .legacyCreated = none ∧
      s'.file .legacyTemporary = none ∧
      ∀ bytes, initial .legacyBackup = some bytes → s'.file .live = some bytes

/-- A call is not cut off while its migration is begun and not finished. -/
def CutWhole (s : FileRun) (a : FileAction) : Prop := a = .crash → ¬ MigrationLeft s.file

/-- What is left of a call does not undo a record. -/
structure CallKeeps (path : Companion) (bytes : Bytes) (s : FileRun) : Prop where
  preparing : ∀ rest, s.call = some (.preparing rest) →
    rest.Keeps fun file => file path = some bytes
  restoring : ∀ maximumBytes rest, s.call = some (.restoring maximumBytes rest) →
    rest.Keeps fun file => file path = some bytes

theorem CallKeeps.idle {path : Companion} {bytes : Bytes} (h : s.call = none) :
    CallKeeps path bytes s := by
  refine ⟨fun rest hcall => ?_, fun maximumBytes rest hcall => ?_⟩
  · rw [h] at hcall
    exact absurd hcall (by simp)
  · rw [h] at hcall
    exact absurd hcall (by simp)

theorem CallKeeps.step {path : Companion} {bytes : Bytes} (h : CallKeeps path bytes s)
    (hpath : path = .pristineBackup ∨ path = .pristineAbsent) (hstep : s.step a = some (r, s')) :
    CallKeeps path bytes s' ∧ (s.file path = some bytes → s'.file path = some bytes) := by
  cases a with
  | prepare required maximumBytes =>
    simp only [FileRun.step] at hstep
    split at hstep
    next => exact absurd hstep (by simp)
    next =>
      obtain ⟨rfl, rfl⟩ := Prod.mk.inj (Option.some.inj hstep)
      refine ⟨⟨fun rest hcall => ?_, fun _ _ hcall => absurd hcall (by simp)⟩, fun hfile => hfile⟩
      rw [← FileCall.preparing.inj (Option.some.inj hcall)]
      exact prepare_keeps hpath
  | restore preparation maximumBytes =>
    simp only [FileRun.step] at hstep
    split at hstep
    next => exact absurd hstep (by simp)
    next =>
      obtain ⟨rfl, rfl⟩ := Prod.mk.inj (Option.some.inj hstep)
      refine ⟨⟨fun _ hcall => absurd hcall (by simp), fun _ rest hcall => ?_⟩, fun hfile => hfile⟩
      rw [← (FileCall.restoring.inj (Option.some.inj hcall)).2]
      exact restore_keeps hpath
  | overwrite new =>
    simp only [FileRun.step] at hstep
    split at hstep
    next => exact absurd hstep (by simp)
    next =>
      obtain ⟨rfl, rfl⟩ := Prod.mk.inj (Option.some.inj hstep)
      have hlive : path ≠ .live := by rcases hpath with rfl | rfl <;> decide
      exact ⟨⟨h.preparing, h.restoring⟩, (Function.update_of_ne hlive _ _).trans⟩
  | crash =>
    simp only [FileRun.step] at hstep
    split at hstep
    next =>
      obtain ⟨rfl, rfl⟩ := Prod.mk.inj (Option.some.inj hstep)
      exact ⟨.idle rfl, fun hfile => hfile⟩
    next => exact absurd hstep (by simp)
  | advance =>
    rcases FileRun.advance_cases hstep with ⟨result, hcall, -, rfl⟩ |
      ⟨maximumBytes, result, hcall, -, rfl⟩ | ⟨rest, rest', file, hcall, hnext, -, rfl⟩ |
      ⟨maximumBytes, rest, rest', file, hcall, hnext, -, rfl⟩
    · exact ⟨.idle rfl, fun hfile => hfile⟩
    · exact ⟨.idle rfl, fun hfile => hfile⟩
    · obtain ⟨hrest, hfile⟩ := (h.preparing rest hcall).step hnext
      refine ⟨⟨fun other hother => ?_, fun _ _ hother => absurd hother (by simp)⟩, hfile⟩
      rw [← FileCall.preparing.inj (Option.some.inj hother)]
      exact hrest
    · obtain ⟨hrest, hfile⟩ := (h.restoring maximumBytes rest hcall).step hnext
      refine ⟨⟨fun _ hother => absurd hother (by simp), fun _ other hother => ?_⟩, hfile⟩
      rw [← (FileCall.restoring.inj (Option.some.inj hother)).2]
      exact hrest

theorem callKeeps_of_reachable {path : Companion} {bytes : Bytes}
    (hpath : path = .pristineBackup ∨ path = .pristineAbsent)
    (h : (fileMachine initial).Reachable s) : CallKeeps path bytes s :=
  h.invariant (P := CallKeeps path bytes) (.idle rfl) fun hkeeps hstep => (hkeeps.step hpath hstep).1

theorem knownGuard_known (h : (knownGuard initial).Ok s) : Known initial s.returned s.file := by
  unfold Guard.Ok at h
  split at h
  next => exact h
  next => exact h.here
  next =>
    have hhere := h.here
    exact ⟨.inr hhere.1, hhere.2⟩

theorem knownGuard_of_reachable (hbackup : initial .pristineBackup = none)
    (habsent : initial .pristineAbsent = none) (h : (fileMachine initial).Reachable s) :
    (knownGuard initial).Ok s := by
  have hstart : Known initial [] initial :=
    ⟨.inl ⟨rfl, rfl⟩, fun _ hmem => absurd hmem List.not_mem_nil⟩
  have hok : (knownGuard initial).Ok (fileMachine initial).init := hstart
  exact h.invariant (P := (knownGuard initial).Ok) hok
    fun hok hstep => (knownGuard_sound hbackup habsent).step hok (fun _ => trivial) hstep

/-- In every state of every run, wherever its calls are cut off. -/
theorem stockKept_of_reachable (hbackup : initial .pristineBackup = none)
    (habsent : initial .pristineAbsent = none) (h : (fileMachine initial).Reachable s) :
    StockKept initial s := by
  have hok := knownGuard_of_reachable hbackup habsent h
  have hrecord : (s.file .pristineBackup).isSome ∨ (s.file .pristineAbsent).isSome →
      Recorded initial s.file := by
    intro hsome
    rcases (knownGuard_known hok).1 with ⟨-, hfile⟩ | hrecorded
    · rw [hfile, hbackup, habsent] at hsome
      exact absurd hsome (by simp)
    · exact hrecorded
  -- a call that restores returns what its guard says
  have hrestored : ∀ maximumBytes rest result s', s.call = some (.restoring maximumBytes rest) →
      s.step .advance = some (.restored result, s') → Restores initial maximumBytes result s'.file := by
    intro maximumBytes rest result s' hcall hstep
    rcases FileRun.advance_cases hstep with ⟨result', -, hr, -⟩ |
      ⟨maximumBytes', result', hcall', hr, rfl⟩ | ⟨rest, rest', file, -, -, hr, -⟩ |
      ⟨maximumBytes', rest, rest', file, -, -, hr, -⟩
    · exact absurd hr (by simp)
    · rw [hcall] at hcall'
      obtain ⟨hmaximum, hrest⟩ := FileCall.restoring.inj (Option.some.inj hcall')
      unfold Guard.Ok at hok
      rw [hcall, hrest] at hok
      rw [FileAnswer.restored.inj hr]
      exact hok.2
    · exact absurd hr (by simp)
    · exact absurd hr (by simp)
  refine ⟨?_, ?_, ?_, ?_, ?_⟩
  · intro bytes hbytes
    have hrecorded := hrecord (.inl (by simp [hbytes]))
    rw [hrecorded.backup] at hbytes
    refine ⟨hbytes, ?_⟩
    rw [hrecorded.absent, hbytes]
    rfl
  · intro hsome
    have hrecorded := hrecord (.inr hsome)
    rw [hrecorded.absent] at hsome
    cases hstock : stock initial with
    | none => exact ⟨rfl, hrecorded.backup.trans hstock⟩
    | some bytes => simp [hstock] at hsome
  · intro a r s' hstep
    exact ⟨fun bytes => ((callKeeps_of_reachable (.inl rfl) h).step (.inl rfl) hstep).2,
      fun bytes => ((callKeeps_of_reachable (.inr rfl) h).step (.inr rfl) hstep).2⟩
  · intro s' hstep
    rcases FileRun.advance_cases hstep with ⟨result', -, hr, -⟩ |
      ⟨maximumBytes, result', hcall, -, -⟩ | ⟨rest, rest', file, -, -, hr, -⟩ |
      ⟨maximumBytes, rest, rest', file, -, -, hr, -⟩
    · exact absurd hr (by simp)
    · exact (hrestored maximumBytes _ _ s' hcall hstep).1 rfl
    · exact absurd hr (by simp)
    · exact absurd hr (by simp)
  · intro maximumBytes rest e s' hcall hstep
    exact (hrestored maximumBytes rest _ s' hcall hstep).2 e rfl

/-- In every run whose migrations are not cut off. -/
theorem firstPrepared_of_settled (h : (settledGuard initial).Ok s) : FirstPrepared initial s := by
  intro prep s' hfirst hstep
  rcases FileRun.advance_cases hstep with ⟨result, hcall, hr, rfl⟩ |
    ⟨maximumBytes, result, -, hr, -⟩ | ⟨rest, rest', file, -, -, hr, -⟩ |
    ⟨maximumBytes, rest, rest', file, -, -, hr, -⟩
  · unfold Guard.Ok at h
    rw [hcall] at h
    obtain ⟨-, -, hmigrated, -, htemporary⟩ := h.2.2 prep (FileAnswer.prepared.inj hr).symm
    have hgone := hmigrated hfirst
    exact ⟨hgone.legacyBackup, hgone.legacyCreated, htemporary, hgone.live⟩
  · exact absurd hr (by simp)
  · exact absurd hr (by simp)
  · exact absurd hr (by simp)

/-- Calls on one file, in any order and cut off anywhere: the record is kept, and restores come
back to it. The first preparation leaves nothing of an earlier launcher, with what that had backed
up live, unless a call was cut off in its migration; after such a cut the migration is never
finished. -/
theorem pristine_runs (hbackup : initial .pristineBackup = none)
    (habsent : initial .pristineAbsent = none) :
    (∀ s, (fileMachine initial).Reachable s → StockKept initial s) ∧
    (∀ s, (fileMachine initial).RunBy CutWhole (fileMachine initial).init s →
      FirstPrepared initial s) ∧
    ∀ s s₁ s₂ r, (fileMachine initial).Reachable s → MigrationLeft s.file →
      s.step .crash = some (r, s₁) → (fileMachine initial).RunBy (fun _ _ => True) s₁ s₂ →
      MigrationLeft s₂.file := by
  refine ⟨fun s h => stockKept_of_reachable hbackup habsent h, fun s h => ?_, ?_⟩
  · have hstart : Settled initial [] initial :=
      ⟨.inl ⟨rfl, rfl⟩, fun _ hmem => absurd hmem List.not_mem_nil⟩
    have hok : (settledGuard initial).Ok (fileMachine initial).init := hstart
    exact firstPrepared_of_settled ((settledGuard_sound hbackup habsent).run hok h)
  · intro s s₁ s₂ r hreachable hleft hcrash hrun
    have hknown := knownGuard_known (knownGuard_of_reachable hbackup habsent hreachable)
    have hrecorded : Recorded initial s.file := by
      rcases hknown.1 with ⟨-, hfile⟩ | hrecorded
      · obtain ⟨hsome, -⟩ := hleft
        rw [hfile, hbackup, habsent] at hsome
        exact absurd hsome (by simp)
      · exact hrecorded
    have hstart : (stuckGuard initial).Ok s₁ := by
      simp only [FileRun.step] at hcrash
      split at hcrash
      next =>
        obtain ⟨rfl, rfl⟩ := Prod.mk.inj (Option.some.inj hcrash)
        exact ⟨hrecorded, hleft, hknown.2⟩
      next => exact absurd hcrash (by simp)
    have hend : (stuckGuard initial).Ok s₂ :=
      hrun.invariant hstart fun hok _ hstep => stuckGuard_sound.step hok (fun _ => trivial) hstep
    have hstuck : Stuck initial s₂.returned s₂.file := by
      unfold Guard.Ok at hend
      split at hend
      next => exact hend
      next => exact hend.here
      next => exact hend.here
    exact hstuck.2.1

/-- A file that was patched by an earlier launcher, which had backed it up. -/
def patchedFile : PersistentFile
  | .live => some [1]
  | .legacyBackup => some [2]
  | _ => none

theorem patchedFile_prepared : ∃ s s' prep,
    (fileMachine patchedFile).RunBy CutWhole (fileMachine patchedFile).init s ∧
      s.returned = [] ∧ s.step .advance = some (.prepared (.ok prep), s') ∧
      s'.file .legacyBackup = none ∧ s'.file .live = some [2] := by
  have hrun : ∃ s tr, (fileMachine patchedFile).exec (fileMachine patchedFile).init []
      (.prepare true 8 :: List.replicate 11 .advance) = some (tr, s) ∧ s.returned = [] ∧
      ∃ s' prep, s.step .advance = some (.prepared (.ok prep), s') := ⟨_, _, rfl, rfl, _, _, rfl⟩
  obtain ⟨s, tr, hexec, hfirst, s', prep, hstep⟩ := hrun
  have hcut : (fileMachine patchedFile).RunBy CutWhole (fileMachine patchedFile).init s := by
    refine Machine.runBy_of_exec _ (fun a ha s hcrash => ?_) hexec
    rw [hcrash] at ha
    simp at ha
  obtain ⟨-, hprepared, -⟩ := @pristine_runs patchedFile rfl rfl
  obtain ⟨hlegacy, -, -, hlive⟩ := hprepared s hcut prep s' hfirst hstep
  exact ⟨s, s', prep, hcut, hfirst, hstep, hlegacy, hlive [2] rfl⟩

/-- Cut off once the backup is made, the call is never made good: the next one returns, with the
patched file live and the old backup beside it. -/
theorem patchedFile_cut : ∃ s s' prep, (fileMachine patchedFile).Reachable s ∧
    s.returned = [] ∧ s.step .advance = some (.prepared (.ok prep), s') ∧
    s'.file .legacyBackup = some [2] ∧ s'.file .live = some [1] := by
  have hrun : ∃ s tr, (fileMachine patchedFile).exec (fileMachine patchedFile).init []
      ((.prepare true 8 :: List.replicate 5 .advance) ++
        (.crash :: .prepare true 8 :: List.replicate 4 .advance)) = some (tr, s) ∧
      s.returned = [] ∧ ∃ s' prep, s.step .advance = some (.prepared (.ok prep), s') ∧
        s'.file .legacyBackup = some [2] ∧ s'.file .live = some [1] :=
    ⟨_, _, rfl, rfl, _, _, rfl, rfl, rfl⟩
  obtain ⟨s, tr, hexec, hfirst, s', prep, hstep, hlegacy, hlive⟩ := hrun
  exact ⟨s, s', prep, (Machine.history_of_exec _ .init hexec).reachable, hfirst, hstep, hlegacy,
    hlive⟩

end P4475.Connector
