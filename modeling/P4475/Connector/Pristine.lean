import P4475.Connector.FileSafety

/-!
# The record of the stock file

The stock state of a file is what it was before any patch: what an earlier launcher backed up, or
else what the file is when it is prepared first. Whatever calls come and wherever they are cut off,
a record is made of the stock state and of nothing else, and it never changes. A migration that is
cut off once the record is made is not taken up again, so its companions stay.
-/

namespace P4475.Connector

open Lib Program

/-- The file as it was before it was patched, by any launcher. -/
def stock (initial : PersistentFile) : Option Bytes :=
  match initial .legacyBackup with
  | some bytes => some bytes
  | none => if (initial .legacyCreated).isSome then none else initial .live

/-- The stock state is on record. -/
structure Recorded (initial file : PersistentFile) : Prop where
  backup : file .pristineBackup = stock initial
  absent : file .pristineAbsent = if (stock initial).isSome then none else some []

/-- A migration was not finished: the stock state is recorded, and what it was taken from is
still there. -/
def MigrationLeft (file : PersistentFile) : Prop :=
  ((file .pristineBackup).isSome ∨ (file .pristineAbsent).isSome) ∧
    ((file .legacyBackup).isSome ∨ (file .legacyCreated).isSome)

instance (file : PersistentFile) : Decidable (MigrationLeft file) :=
  inferInstanceAs (Decidable (_ ∧ _))

variable {initial file : PersistentFile} {C : PersistentFile → Prop}

theorem Recorded.update (h : Recorded initial file) (path : Companion) (bytes : Option Bytes)
    (hbackup : path ≠ .pristineBackup) (habsent : path ≠ .pristineAbsent) :
    Recorded initial (Function.update file path bytes) := by
  refine ⟨?_, ?_⟩
  · rw [Function.update_of_ne hbackup.symm]
    exact h.backup
  · rw [Function.update_of_ne habsent.symm]
    exact h.absent

/-- One of the two records is there, and only one. -/
theorem Recorded.one (h : Recorded initial file) :
    ((file .pristineBackup).isSome ↔ ¬ (file .pristineAbsent).isSome) := by
  rw [h.backup, h.absent]
  cases stock initial with
  | none => simp
  | some bytes => simp

/-! ## Steps -/

section Steps

variable {source destination : Companion} {bytes : Bytes} {maximumBytes : Nat}
  {Q : Except ConnectorFileError Unit → PersistentFile → Prop}

theorem createNew_of_none (hnone : file destination = none) :
    createNew destination bytes file = Function.update file destination (some bytes) :=
  if_neg (by simp [hnone])

/-- A copy either is too large and does nothing, or puts the bytes at the destination. -/
theorem atomicCopy_holds (hsource : file source = some bytes) (hC : C file)
    (hlarge : maximumBytes < bytes.length →
      Q (.error (.fileTooLarge source (maximumBytes + 1) maximumBytes)) file)
    (hcopy : bytes.length ≤ maximumBytes →
      C (Function.update file destination (some bytes)) ∧
        Q (.ok ()) (Function.update file destination (some bytes))) :
    (atomicCopy source destination maximumBytes).Holds C Q file := by
  refine holds_ask.mpr ⟨hC, ?_⟩
  rw [hsource]
  dsimp only
  by_cases hlength : maximumBytes < bytes.length
  · have hcopied : min bytes.length (maximumBytes + 1) = maximumBytes + 1 :=
      Nat.min_eq_right hlength
    rw [hcopied, if_pos (Nat.lt_succ_self _)]
    exact ⟨hC, hlarge hlength⟩
  · have hcopied : min bytes.length (maximumBytes + 1) = bytes.length :=
      Nat.min_eq_left (by omega)
    rw [hcopied, if_neg hlength]
    exact ⟨hC, hcopy (by omega)⟩

/-- A backup is made of what the source holds, unless it is too large. -/
theorem createBackupOnce_holds (hsource : file source = some bytes)
    (hnone : file destination = none) (hC : C file)
    (hlarge : maximumBytes < bytes.length →
      Q (.error (.fileTooLarge source bytes.length maximumBytes)) file)
    (hcopy : bytes.length ≤ maximumBytes →
      C (Function.update file destination (some bytes)) ∧
        Q (.ok ()) (Function.update file destination (some bytes))) :
    (createBackupOnce source destination maximumBytes).Holds C Q file := by
  refine holds_ask.mpr ⟨hC, ?_⟩
  rw [hsource]
  dsimp only
  by_cases hlength : maximumBytes < bytes.length
  · rw [if_pos hlength]
    exact ⟨hC, hlarge hlength⟩
  · rw [if_neg hlength]
    refine ⟨hC, ?_⟩
    rw [createNew_of_none hnone]
    exact hcopy (by omega)

theorem createAbsentMarkerOnce_holds (hnone : file destination = none) (hC : C file)
    (hcreate : C (Function.update file destination (some [])) ∧
      Q (.ok ()) (Function.update file destination (some []))) :
    (createAbsentMarkerOnce destination).Holds C Q file := by
  refine ⟨hC, ?_⟩
  rw [createNew_of_none hnone]
  exact hcreate

end Steps

/-! ## What no call undoes -/

section Kept

variable {path : Companion} {bytes : Bytes}

theorem removeFileIfExists_keeps {other : Companion} (hpath : path ≠ other) :
    (removeFileIfExists other).Keeps fun file => file path = some bytes :=
  keeps_change fun _ h => (Function.update_of_ne hpath _ _).trans h

theorem createNew_keeps {other : Companion} {new : Bytes} (h : file path = some bytes) :
    createNew other new file path = some bytes := by
  unfold createNew
  by_cases hother : (file other).isSome
  · rw [if_pos hother]
    exact h
  · rw [if_neg hother]
    have hpath : path ≠ other := by
      intro heq
      rw [heq] at h
      rw [h] at hother
      exact hother rfl
    exact (Function.update_of_ne hpath _ _).trans h

theorem createBackupOnce_keeps {source other : Companion} {maximumBytes : Nat} :
    (createBackupOnce source other maximumBytes).Keeps fun file => file path = some bytes := by
  refine keeps_ask fun found => ?_
  cases found source with
  | none => trivial
  | some new =>
    dsimp only
    split
    next => trivial
    next => exact keeps_change fun _ h => createNew_keeps h

theorem createAbsentMarkerOnce_keeps {other : Companion} :
    (createAbsentMarkerOnce other).Keeps fun file => file path = some bytes :=
  keeps_change fun _ h => createNew_keeps h

theorem atomicCopy_keeps {source other : Companion} {maximumBytes : Nat} (hpath : path ≠ other) :
    (atomicCopy source other maximumBytes).Keeps fun file => file path = some bytes := by
  refine keeps_ask fun found => ?_
  cases found source with
  | none => trivial
  | some new =>
    dsimp only
    split
    next => trivial
    next => exact keeps_change fun _ h => (Function.update_of_ne hpath _ _).trans h

theorem recordPristine_keeps {required : Bool} {maximumBytes : Nat}
    (hpath : path = .pristineBackup ∨ path = .pristineAbsent) :
    (recordPristine required maximumBytes).Keeps fun file => file path = some bytes := by
  have hlive : path ≠ .live := by rcases hpath with rfl | rfl <;> decide
  have hlegacy : path ≠ .legacyBackup := by rcases hpath with rfl | rfl <;> decide
  have hcreated : path ≠ .legacyCreated := by rcases hpath with rfl | rfl <;> decide
  intro file
  show Keeps _ (if _ then _ else _)
  split
  next =>
    exact createBackupOnce_keeps.bind fun _ => (atomicCopy_keeps hlive).bind fun _ =>
      (removeFileIfExists_keeps hlegacy).bind fun _ =>
        (removeFileIfExists_keeps hcreated).bind fun _ => trivial
  next =>
    intro file
    show Keeps _ (if _ then _ else _)
    split
    next =>
      cases required with
      | true => trivial
      | false => exact createAbsentMarkerOnce_keeps.bind fun _ =>
          (removeFileIfExists_keeps hcreated).bind fun _ => trivial
    next =>
      intro file
      show Keeps _ (if _ then _ else _)
      split
      next => exact createBackupOnce_keeps.bind fun _ => trivial
      next =>
        cases required with
        | true => trivial
        | false => exact createAbsentMarkerOnce_keeps.bind fun _ => trivial

theorem finishPreparation_keeps {recorded : PersistentFilePreparation} {required : Bool}
    {maximumBytes : Nat} (hpath : path = .pristineBackup ∨ path = .pristineAbsent) :
    (finishPreparation recorded required maximumBytes).Keeps
      fun file => file path = some bytes := by
  have hlive : path ≠ .live := by rcases hpath with rfl | rfl <;> decide
  have htemporary : path ≠ .legacyTemporary := by rcases hpath with rfl | rfl <;> decide
  refine (removeFileIfExists_keeps htemporary).bind fun _ => keeps_ask fun file => ?_
  split
  next =>
    cases recorded.state with
    | backup => exact (atomicCopy_keeps hlive).bind fun _ => trivial
    | absent => trivial
  next => trivial

theorem prepare_keeps {required : Bool} {maximumBytes : Nat}
    (hpath : path = .pristineBackup ∨ path = .pristineAbsent) :
    (preparePersistentFile required maximumBytes).Keeps fun file => file path = some bytes := by
  intro file other
  show Keeps _ (if _ then _ else if _ then _ else if _ then _ else _)
  split
  next => trivial
  next =>
    split
    next => exact finishPreparation_keeps hpath
    next =>
      split
      next => exact finishPreparation_keeps hpath
      next => exact (recordPristine_keeps hpath).bind fun _ => finishPreparation_keeps hpath

theorem restore_keeps {preparation : PersistentFilePreparation} {maximumBytes : Nat}
    (hpath : path = .pristineBackup ∨ path = .pristineAbsent) :
    (restorePersistentFile preparation maximumBytes).Keeps fun file => file path = some bytes := by
  have hlive : path ≠ .live := by rcases hpath with rfl | rfl <;> decide
  unfold restorePersistentFile
  cases preparation.state with
  | backup => exact atomicCopy_keeps hlive
  | absent => exact removeFileIfExists_keeps hlive

end Kept

/-! ## The second half of a call -/

/-- What a call does to a file whose record is made: the old temporary file goes, and a required
file may come back. -/
structure Beside (before after : PersistentFile) : Prop where
  backup : after .pristineBackup = before .pristineBackup
  absent : after .pristineAbsent = before .pristineAbsent
  legacyBackup : after .legacyBackup = before .legacyBackup
  legacyCreated : after .legacyCreated = before .legacyCreated
  live : after .live = before .live ∨ before .live = none ∧ after .live = before .pristineBackup

theorem Beside.refl (file : PersistentFile) : Beside file file :=
  ⟨rfl, rfl, rfl, rfl, .inl rfl⟩

theorem Beside.recorded {before after : PersistentFile} (h : Beside before after)
    (hrecorded : Recorded initial before) : Recorded initial after :=
  ⟨h.backup.trans hrecorded.backup, h.absent.trans hrecorded.absent⟩

theorem finishPreparation_holds {recorded : PersistentFilePreparation} {required : Bool}
    {maximumBytes : Nat} (hbackup : recorded.state = .backup → (file .pristineBackup).isSome) :
    (finishPreparation recorded required maximumBytes).Holds (Beside file)
      (fun r t => ∀ prep, r = .ok prep →
        prep.state = recorded.state ∧ t .legacyTemporary = none) file := by
  have hremoved : Beside file (Function.update file .legacyTemporary none) :=
    ⟨rfl, rfl, rfl, rfl, .inl rfl⟩
  refine holds_change.mpr ⟨.refl file, holds_ask.mpr ⟨hremoved, ?_⟩⟩
  have hpresent : (Function.update file .legacyTemporary none .live).isSome =
      (file .live).isSome := rfl
  rw [hpresent]
  cases required with
  | false => exact ⟨hremoved, fun prep h => Except.ok.inj h ▸ ⟨rfl, rfl⟩⟩
  | true =>
    cases hlive : file .live with
    | some bytes => exact ⟨hremoved, fun prep h => Except.ok.inj h ▸ ⟨rfl, rfl⟩⟩
    | none =>
      rw [if_pos (by simp)]
      cases hstate : recorded.state with
      | absent => exact ⟨hremoved, fun prep h => absurd h (by simp)⟩
      | backup =>
        -- the file comes back
        obtain ⟨bytes, hbytes⟩ := Option.isSome_iff_exists.mp (hbackup hstate)
        refine holds_bind.mpr (atomicCopy_holds hbytes hremoved ?_ ?_)
        · exact fun _ prep h => absurd h (by simp)
        · intro _
          have hback : Beside file (Function.update (Function.update file .legacyTemporary none)
              .live (some bytes)) := ⟨rfl, rfl, rfl, rfl, .inr ⟨hlive, hbytes.symm⟩⟩
          exact ⟨hback, hback, fun prep h => Except.ok.inj h ▸ ⟨rfl, rfl⟩⟩

/-! ## A whole call -/

/-- Nothing of an earlier launcher is left, and a file it had backed up is stock again. -/
structure Migrated (initial file : PersistentFile) : Prop where
  legacyBackup : file .legacyBackup = none
  legacyCreated : file .legacyCreated = none
  live : ∀ bytes, initial .legacyBackup = some bytes → file .live = some bytes

theorem stock_of_legacyBackup {bytes : Bytes} (h : initial .legacyBackup = some bytes) :
    stock initial = some bytes := by
  unfold stock
  rw [h]

theorem Beside.migrated {before after : PersistentFile} (h : Beside before after)
    (hrecorded : Recorded initial before) (hmigrated : Migrated initial before) :
    Migrated initial after := by
  refine ⟨h.legacyBackup.trans hmigrated.legacyBackup,
    h.legacyCreated.trans hmigrated.legacyCreated, fun bytes hbytes => ?_⟩
  rcases h.live with hsame | ⟨-, hback⟩
  · exact hsame.trans (hmigrated.live bytes hbytes)
  · rw [hback, hrecorded.backup, stock_of_legacyBackup hbytes]

/-- Where a call may be cut off that finds nothing recorded. -/
def Passing (initial file : PersistentFile) : Prop :=
  file = initial ∨ Recorded initial file ∧ (MigrationLeft file ∨ Migrated initial file)

/-- The result of the first half of a call, and the file it leaves. -/
def RecordResult (initial : PersistentFile)
    (r : Except ConnectorFileError PersistentFilePreparation) (t : PersistentFile) : Prop :=
  (∀ prep, r = .ok prep → Recorded initial t ∧ Migrated initial t ∧
    (prep.state = .backup ↔ (stock initial).isSome)) ∧ ∀ e, r = .error e → t = initial

theorem RecordResult.fail (e : ConnectorFileError) : RecordResult initial (.error e) initial :=
  ⟨fun _ h => absurd h (by simp), fun _ _ => rfl⟩

/-- An old backup is copied twice, then it goes, and the old marker with it. -/
theorem migrateBackup_holds {bytes : Bytes} {maximumBytes : Nat}
    (hlegacy : initial .legacyBackup = some bytes)
    (hbackup : initial .pristineBackup = none) (habsent : initial .pristineAbsent = none) :
    (do createBackupOnce .legacyBackup .pristineBackup maximumBytes
        atomicCopy .legacyBackup .live maximumBytes
        removeFileIfExists .legacyBackup
        removeFileIfExists .legacyCreated
        return ⟨.backup, .migratedLegacyBackup⟩ :
      FileProgram PersistentFilePreparation).Holds (Passing initial) (RecordResult initial)
      initial := by
  have hstock : stock initial = some bytes := stock_of_legacyBackup hlegacy
  have hpath : Companion.legacyBackup ≠ .pristineBackup := by decide
  have hrecorded : Recorded initial (Function.update initial .pristineBackup (some bytes)) := by
    refine ⟨hstock.symm, ?_⟩
    rw [hstock]
    exact habsent
  refine holds_bind.mpr (createBackupOnce_holds hlegacy hbackup (.inl rfl)
    (fun _ => .fail _) fun hfits => ?_)
  have hfirst : Passing initial (Function.update initial .pristineBackup (some bytes)) :=
    .inr ⟨hrecorded, .inl ⟨.inl rfl, .inl (by simp [hlegacy])⟩⟩
  refine ⟨hfirst, holds_bind.mpr (atomicCopy_holds (by simp [hlegacy] : _ = some bytes) hfirst
    (fun hlarge => absurd hfits (by omega)) fun _ => ?_)⟩
  -- the file is stock again
  have hlive := hrecorded.update .live (some bytes) (by decide) (by decide)
  have hsecond : Passing initial (Function.update (Function.update initial .pristineBackup
      (some bytes)) .live (some bytes)) :=
    .inr ⟨hlive, .inl ⟨.inl rfl, .inl (by simp [hlegacy])⟩⟩
  refine ⟨hsecond, andThen_ok.mpr (holds_change.mpr ⟨hsecond, holds_change.mpr ⟨?_, ?_⟩⟩)⟩
  · have hremoved := hlive.update .legacyBackup none (by decide) (by decide)
    refine .inr ⟨hremoved, ?_⟩
    by_cases hcreated : (initial .legacyCreated).isSome
    · exact .inl ⟨.inl rfl, .inr hcreated⟩
    · refine .inr ⟨rfl, Option.not_isSome_iff_eq_none.mp hcreated, fun other hother => ?_⟩
      rw [← hother, hlegacy]
      rfl
  · have hdone := (hlive.update .legacyBackup none (by decide)
      (by decide)).update .legacyCreated none (by decide) (by decide)
    have hmigrated : Migrated initial (Function.update (Function.update (Function.update
        (Function.update initial .pristineBackup (some bytes)) .live (some bytes))
        .legacyBackup none) .legacyCreated none) := by
      refine ⟨rfl, rfl, fun other hother => ?_⟩
      rw [← hother, hlegacy]
      rfl
    refine ⟨.inr ⟨hdone, .inr hmigrated⟩, fun prep h => ⟨hdone, hmigrated, ?_⟩,
      fun e h => absurd h (by simp)⟩
    rw [← Except.ok.inj h, hstock]
    exact ⟨fun _ => rfl, fun _ => rfl⟩

/-- A record made where no earlier launcher left a backup: it is made in one step. -/
theorem Migrated.of_none {file : PersistentFile} (hnone : initial .legacyBackup = none)
    (hbackup : file .legacyBackup = none) (hcreated : file .legacyCreated = none) :
    Migrated initial file := by
  refine ⟨hbackup, hcreated, fun bytes hbytes => ?_⟩
  rw [hnone] at hbytes
  exact absurd hbytes (by simp)

/-- The first half of a call records the stock state, or fails and does nothing. -/
theorem recordPristine_holds {required : Bool} {maximumBytes : Nat}
    (hbackup : initial .pristineBackup = none) (habsent : initial .pristineAbsent = none) :
    (recordPristine required maximumBytes).Holds (Passing initial) (RecordResult initial)
      initial := by
  have hstart : Passing initial initial := .inl rfl
  refine holds_ask.mpr ⟨hstart, ?_⟩
  cases hlegacy : initial .legacyBackup with
  | some bytes => exact migrateBackup_holds hlegacy hbackup habsent
  | none =>
    refine holds_ask.mpr ⟨hstart, ?_⟩
    cases hcreated : initial .legacyCreated with
    | some marker =>
      -- an old marker is taken over: the file was not there
      have hstock : stock initial = none := by
        unfold stock
        rw [hlegacy, hcreated]
        rfl
      cases required with
      | true => exact ⟨hstart, .fail _⟩
      | false =>
        have hrecorded : Recorded initial (Function.update initial .pristineAbsent (some [])) := by
          refine ⟨hbackup.trans hstock.symm, ?_⟩
          rw [hstock]
          rfl
        have hleft : MigrationLeft (Function.update initial .pristineAbsent (some [])) :=
          ⟨.inr rfl, .inr (by simp [hcreated])⟩
        refine holds_bind.mpr (createAbsentMarkerOnce_holds habsent hstart
          ⟨.inr ⟨hrecorded, .inl hleft⟩, andThen_ok.mpr (holds_change.mpr
            ⟨.inr ⟨hrecorded, .inl hleft⟩, ?_⟩)⟩)
        have hdone := hrecorded.update .legacyCreated none (by decide)
          (by decide)
        have hmigrated : Migrated initial (Function.update (Function.update initial
          .pristineAbsent (some [])) .legacyCreated none) := .of_none hlegacy hlegacy rfl
        refine ⟨.inr ⟨hdone, .inr hmigrated⟩, fun prep h => ⟨hdone, hmigrated, ?_⟩,
          fun e h => absurd h (by simp)⟩
        rw [← Except.ok.inj h, hstock]
        exact ⟨fun hb => absurd hb (by decide), fun hb => absurd hb (by simp)⟩
    | none =>
      have hstock : stock initial = initial .live := by
        unfold stock
        rw [hlegacy, hcreated]
        rfl
      refine holds_ask.mpr ⟨hstart, ?_⟩
      cases hlive : initial .live with
      | some bytes =>
        -- the file itself is stock
        have hrecorded : Recorded initial
            (Function.update initial .pristineBackup (some bytes)) := by
          refine ⟨(hstock.trans hlive).symm, ?_⟩
          rw [hstock, hlive]
          exact habsent
        have hmigrated : Migrated initial
          (Function.update initial .pristineBackup (some bytes)) := .of_none hlegacy hlegacy hcreated
        refine holds_bind.mpr (createBackupOnce_holds hlive hbackup hstart
          (fun _ => .fail _) fun _ => ?_)
        refine ⟨.inr ⟨hrecorded, .inr hmigrated⟩, .inr ⟨hrecorded, .inr hmigrated⟩,
          fun prep h => ⟨hrecorded, hmigrated, ?_⟩, fun e h => absurd h (by simp)⟩
        rw [← Except.ok.inj h, hstock, hlive]
        exact ⟨fun _ => rfl, fun _ => rfl⟩
      | none =>
        cases required with
        | true => exact ⟨hstart, .fail _⟩
        | false =>
          have hrecorded : Recorded initial
              (Function.update initial .pristineAbsent (some [])) := by
            refine ⟨hbackup.trans (hstock.trans hlive).symm, ?_⟩
            rw [hstock, hlive]
            rfl
          have hmigrated : Migrated initial
            (Function.update initial .pristineAbsent (some [])) := .of_none hlegacy hlegacy hcreated
          refine holds_bind.mpr (createAbsentMarkerOnce_holds habsent hstart
            ⟨.inr ⟨hrecorded, .inr hmigrated⟩, .inr ⟨hrecorded, .inr hmigrated⟩,
              fun prep h => ⟨hrecorded, hmigrated, ?_⟩, fun e h => absurd h (by simp)⟩)
          rw [← Except.ok.inj h, hstock, hlive]
          exact ⟨fun hb => absurd hb (by decide), fun hb => absurd hb (by simp)⟩

/-- What a call says when it returns: which record there is, with the old temporary file gone. -/
def Returns (initial : PersistentFile)
    (r : Except ConnectorFileError PersistentFilePreparation) (t : PersistentFile) : Prop :=
  ∀ prep, r = .ok prep →
    (prep.state = .backup ↔ (stock initial).isSome) ∧ t .legacyTemporary = none

/-- A call on a file whose record is made. -/
theorem prepare_recorded {required : Bool} {maximumBytes : Nat} (h : Recorded initial file) :
    (preparePersistentFile required maximumBytes).Holds (Beside file) (Returns initial) file := by
  have hfinish : ∀ recorded : PersistentFilePreparation,
      (recorded.state = .backup ↔ (stock initial).isSome) →
      (finishPreparation recorded required maximumBytes).Holds (Beside file)
        (Returns initial) file := by
    intro recorded hstate
    refine (finishPreparation_holds fun hbackup => ?_).imp (fun _ ht => ht) fun r t _ hq prep hr => ?_
    · rw [h.backup]
      exact hstate.mp hbackup
    · obtain ⟨hsame, htemporary⟩ := hq prep hr
      exact ⟨by rw [hsame, hstate], htemporary⟩
  refine holds_ask.mpr ⟨.refl file, holds_ask.mpr ⟨.refl file, ?_⟩⟩
  rw [h.backup, h.absent]
  cases hstock : stock initial with
  | some bytes => exact hfinish _ (by simp [hstock])
  | none => exact hfinish _ (by simp [hstock])

/-- A call on a file where nothing is recorded. -/
theorem prepare_initial {required : Bool} {maximumBytes : Nat}
    (hbackup : initial .pristineBackup = none) (habsent : initial .pristineAbsent = none) :
    (preparePersistentFile required maximumBytes).Holds (Passing initial)
      (fun r t => (∀ prep, r = .ok prep → Recorded initial t ∧ Migrated initial t) ∧
        (t = initial ∨ Recorded initial t ∧ Migrated initial t) ∧ Returns initial r t)
      initial := by
  refine holds_ask.mpr ⟨.inl rfl, holds_ask.mpr ⟨.inl rfl, ?_⟩⟩
  rw [hbackup, habsent]
  refine holds_bind.mpr ((recordPristine_holds hbackup habsent).imp (fun _ ht => ht) ?_)
  intro r t _ ⟨hok, herror⟩
  cases r with
  | error e =>
    exact ⟨fun _ h => absurd h (by simp), .inl (herror e rfl), fun _ h => absurd h (by simp)⟩
  | ok recorded =>
    obtain ⟨hrecorded, hmigrated, hstate⟩ := hok recorded rfl
    refine andThen_ok.mpr ((finishPreparation_holds fun h => ?_).imp ?_ ?_)
    · rw [hrecorded.backup]
      exact hstate.mp h
    · intro t' hbeside
      exact .inr ⟨hbeside.recorded hrecorded, .inr (hbeside.migrated hrecorded hmigrated)⟩
    · intro r t' hbeside hq
      have hafter := hbeside.recorded hrecorded
      have hgone := hbeside.migrated hrecorded hmigrated
      refine ⟨fun _ _ => ⟨hafter, hgone⟩, .inr ⟨hafter, hgone⟩, fun prep hr => ?_⟩
      obtain ⟨hsame, htemporary⟩ := hq prep hr
      exact ⟨by rw [hsame, hstate], htemporary⟩

/-- What a restore does: the file is stock again, unless the backup is too large for it. -/
def Restores (initial : PersistentFile) (maximumBytes : Nat) (r : Except ConnectorFileError Unit)
    (t : PersistentFile) : Prop :=
  (r = .ok () → t .live = stock initial) ∧
    ∀ e, r = .error e → ∃ bytes, stock initial = some bytes ∧ maximumBytes < bytes.length

theorem restore_recorded {prep : PersistentFilePreparation} {maximumBytes : Nat}
    (h : Recorded initial file) (hstate : prep.state = .backup ↔ (stock initial).isSome) :
    (restorePersistentFile prep maximumBytes).Holds
      (fun t => ∀ path, path ≠ .live → t path = file path)
      (Restores initial maximumBytes) file := by
  have hothers : ∀ bytes : Option Bytes, ∀ path, path ≠ .live →
      Function.update file .live bytes path = file path :=
    fun bytes path hpath => Function.update_of_ne hpath _ _
  unfold restorePersistentFile
  cases hprep : prep.state with
  | backup =>
    obtain ⟨bytes, hstock⟩ := Option.isSome_iff_exists.mp (hstate.mp hprep)
    refine atomicCopy_holds (h.backup.trans hstock) (fun _ _ => rfl) ?_ ?_
    · exact fun hlarge => ⟨fun h => absurd h (by simp), fun _ _ => ⟨bytes, hstock, hlarge⟩⟩
    · exact fun _ => ⟨hothers _, fun _ => hstock.symm, fun _ h => absurd h (by simp)⟩
  | absent =>
    have hstock : stock initial = none := by
      refine Option.not_isSome_iff_eq_none.mp fun hsome => ?_
      rw [hstate.mpr hsome] at hprep
      exact absurd hprep (by decide)
    exact ⟨fun _ _ => rfl, hothers _, fun _ => hstock.symm, fun _ h => absurd h (by simp)⟩

end P4475.Connector
