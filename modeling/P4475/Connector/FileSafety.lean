import Mathlib.Logic.Function.Basic
import P4475.Lib.Interruptible
import P4475.Lib.Machine

/-!
# Files of the installation

A file of the game is patched in place. What it was before is kept in a companion beside it: a
backup, or a marker that there was no such file. An earlier launcher kept companions of its own,
which are taken over. Every rename, creation and removal is one atomic step, and a call may be cut
off between any two of them.
-/

namespace P4475.Connector

open Lib Program

abbrev Bytes := List UInt8

/-- The file itself and what stands beside it. -/
inductive Companion
  | live
  | pristineBackup
  | pristineAbsent
  | legacyBackup
  | legacyCreated
  | legacyTemporary
  deriving DecidableEq

/-- What is appended to the file's name. -/
def Companion.suffix : Companion → String
  | .live => ""
  | .pristineBackup => ".pristine.bak"
  | .pristineAbsent => ".pristine.absent"
  | .legacyBackup => ".launcher-v2.bak"
  | .legacyCreated => ".launcher-v2.created"
  | .legacyTemporary => ".launcher-v2.tmp"

/-- What each of them holds, where it exists. -/
abbrev PersistentFile := Companion → Option Bytes

inductive ConnectorFileError
  | io (operation : String) (path : Companion)
  | fileTooLarge (path : Companion) (actual maximum : Nat)
  | pristineStateConflict (path : Companion)
  | missingRequiredFile (path : Companion)
  | requiredFileWasLegacyCreated (path : Companion)
  deriving DecidableEq

inductive PristineState
  | backup
  | absent
  deriving DecidableEq

inductive PristineAction
  | reused
  | createdBackup
  | recordedAbsence
  | migratedLegacyBackup
  | migratedLegacyAbsence
  | recoveredRequiredFile
  deriving DecidableEq

structure PersistentFilePreparation where
  state : PristineState
  action : PristineAction
  deriving DecidableEq

abbrev FileProgram (α : Type) := Program PersistentFile ConnectorFileError α

def isFile (path : Companion) : FileProgram Bool := ask fun file => (file path).isSome

/-- `remove_file_if_exists`. -/
def removeFileIfExists (path : Companion) : FileProgram Unit :=
  change fun file => Function.update file path none

/-- A file is created unless there is one. -/
def createNew (path : Companion) (bytes : Bytes) (file : PersistentFile) : PersistentFile :=
  if (file path).isSome then file else Function.update file path (some bytes)

/-- `create_backup_once`: a backup that is already there is left alone. -/
def createBackupOnce (source backup : Companion) (maximumBytes : Nat) : FileProgram Unit := do
  match ← ask (· source) with
  | none => fail (.io "open pristine source" source)
  | some bytes =>
    if bytes.length > maximumBytes then fail (.fileTooLarge source bytes.length maximumBytes)
    else change (createNew backup bytes)

/-- `create_absent_marker_once`. -/
def createAbsentMarkerOnce (path : Companion) : FileProgram Unit :=
  change (createNew path [])

/-- `atomic_copy`: no more than one byte beyond the limit is read. -/
def atomicCopy (source destination : Companion) (maximumBytes : Nat) : FileProgram Unit := do
  match ← ask (· source) with
  | none => fail (.io "open copy source" source)
  | some bytes =>
    let copied := min bytes.length (maximumBytes + 1)
    if copied > maximumBytes then fail (.fileTooLarge source copied maximumBytes)
    else change fun file => Function.update file destination (some bytes)

/-- The first half of `prepare_persistent_file`, where nothing is recorded yet. -/
def recordPristine (required : Bool) (maximumBytes : Nat) :
    FileProgram PersistentFilePreparation := do
  if ← isFile .legacyBackup then
    createBackupOnce .legacyBackup .pristineBackup maximumBytes
    atomicCopy .legacyBackup .live maximumBytes
    removeFileIfExists .legacyBackup
    removeFileIfExists .legacyCreated
    return ⟨.backup, .migratedLegacyBackup⟩
  else if ← isFile .legacyCreated then
    if required then fail (.requiredFileWasLegacyCreated .live)
    else
      createAbsentMarkerOnce .pristineAbsent
      removeFileIfExists .legacyCreated
      return ⟨.absent, .migratedLegacyAbsence⟩
  else if ← isFile .live then
    createBackupOnce .live .pristineBackup maximumBytes
    return ⟨.backup, .createdBackup⟩
  else if required then fail (.missingRequiredFile .live)
  else
    createAbsentMarkerOnce .pristineAbsent
    return ⟨.absent, .recordedAbsence⟩

/-- The second half: a required file that is gone comes back from its backup. -/
def finishPreparation (recorded : PersistentFilePreparation) (required : Bool)
    (maximumBytes : Nat) : FileProgram PersistentFilePreparation := do
  removeFileIfExists .legacyTemporary
  let present ← isFile .live
  if required && !present then
    match recorded.state with
    | .backup =>
      atomicCopy .pristineBackup .live maximumBytes
      return { recorded with action := .recoveredRequiredFile }
    | .absent => fail (.missingRequiredFile .live)
  else return recorded

/-- `prepare_persistent_file`. -/
def preparePersistentFile (required : Bool) (maximumBytes : Nat) :
    FileProgram PersistentFilePreparation := do
  let hasBackup ← isFile .pristineBackup
  let wasAbsent ← isFile .pristineAbsent
  if hasBackup && wasAbsent then fail (.pristineStateConflict .live)
  else if hasBackup then finishPreparation ⟨.backup, .reused⟩ required maximumBytes
  else if wasAbsent then finishPreparation ⟨.absent, .reused⟩ required maximumBytes
  else
    let recorded ← recordPristine required maximumBytes
    finishPreparation recorded required maximumBytes

/-- `restore_persistent_file`. -/
def restorePersistentFile (preparation : PersistentFilePreparation) (maximumBytes : Nat) :
    FileProgram Unit :=
  match preparation.state with
  | .backup => atomicCopy .pristineBackup .live maximumBytes
  | .absent => removeFileIfExists .live

/-! ## Calls, one after another

The installation is locked for as long as a call runs, so calls follow each other. Between calls
the file is overwritten once it has been prepared, and a call may be cut off before any step. -/

/-- What is left of a call. -/
inductive FileCall
  | preparing (rest : FileProgram PersistentFilePreparation)
  | restoring (maximumBytes : Nat) (rest : FileProgram Unit)

structure FileRun where
  file : PersistentFile
  call : Option FileCall
  returned : List PersistentFilePreparation

inductive FileAction
  | prepare (required : Bool) (maximumBytes : Nat)
  | restore (preparation : PersistentFilePreparation) (maximumBytes : Nat)
  | overwrite (bytes : Bytes)
  | advance
  | crash

inductive FileAnswer
  | began
  | advanced
  | prepared (result : Except ConnectorFileError PersistentFilePreparation)
  | restored (result : Except ConnectorFileError Unit)
  | overwritten
  | crashed

namespace FileRun

/-- A call that has ended returns; any other takes its next step. -/
def advance (s : FileRun) : Option (FileAnswer × FileRun) :=
  match s.call with
  | none => none
  | some (.preparing (.done result)) =>
    some (.prepared result, { s with
      call := none
      returned := s.returned ++ result.toOption.toList })
  | some (.restoring _ (.done result)) => some (.restored result, { s with call := none })
  | some (.preparing rest) =>
    (rest.step s.file).map fun (rest, file) =>
      (.advanced, { s with
        file := file
        call := some (.preparing rest) })
  | some (.restoring maximumBytes rest) =>
    (rest.step s.file).map fun (rest, file) =>
      (.advanced, { s with
        file := file
        call := some (.restoring maximumBytes rest) })

def step (s : FileRun) : FileAction → Option (FileAnswer × FileRun)
  | .prepare required maximumBytes =>
    if s.call.isSome then none
    else some (.began, { s with
      call := some (.preparing (preparePersistentFile required maximumBytes)) })
  | .restore preparation maximumBytes =>
    if s.call.isSome ∨ preparation ∉ s.returned then none
    else some (.began, { s with
      call := some (.restoring maximumBytes (restorePersistentFile preparation maximumBytes)) })
  | .overwrite bytes =>
    if s.call.isSome ∨ s.returned = [] then none
    else some (.overwritten, { s with file := Function.update s.file .live (some bytes) })
  | .advance => s.advance
  | .crash => if s.call.isSome then some (.crashed, { s with call := none }) else none

end FileRun

/-- The calls on one file, from its initial state. -/
def fileMachine (initial : PersistentFile) : Machine FileRun FileAction FileAnswer where
  init := ⟨initial, none, []⟩
  step := FileRun.step

end P4475.Connector
