import P4475.Lib.Machine
import P4475.Lib.Outcome
import P4475.Profile.Sidecar

/-!
# Kart levels

`LevelData.json` keeps for each kart the grade, the points still free and the four levels
they were spent on. The loader checks every record; the four calls that change a record
rely on their own arithmetic and write it back unchecked.
-/

namespace P4475.Profile

open Lib

structure KartLevelExcRecord where
  id : Int
  serial : Int
  grade : Int
  points : Int
  level1 : Int
  level2 : Int
  level3 : Int
  level4 : Int
  effect : Int
  deriving DecidableEq

/-- A record of the file; `X` stands for the fields that the server does not know. -/
structure LevelState (X : Type) where
  id : Int
  serial : Int
  grade : Int
  points : Int
  level1 : Int
  level2 : Int
  level3 : Int
  level4 : Int
  effect : Int
  extra : X
  deriving DecidableEq

variable {X : Type}

namespace LevelState

def key (state : LevelState X) : Int × Int := (state.id, state.serial)

def levels (state : LevelState X) : List Int :=
  [state.level1, state.level2, state.level3, state.level4]

def asException (state : LevelState X) : KartLevelExcRecord :=
  ⟨state.id, normalizeKartSerial state.id state.serial, state.grade, state.points, state.level1,
    state.level2, state.level3, state.level4, state.effect⟩

/-- The default record of a kart. -/
def fresh [Inhabited X] (id serial : Int) : LevelState X :=
  ⟨id, serial, 0, 0, 0, 0, 0, 0, 0, default⟩

end LevelState

/-! ## The loader -/

/-- The sum of the levels, in `i16`. -/
def allocate (levels : List Int) : Except EquipmentStateError Int :=
  levels.foldlM (fun total value => okOr .kartLevelPointOverflow (checkedAdd total value)) 0

def checkLevel (slot : Nat) (value : Int) : Except EquipmentStateError Unit :=
  check (0 ≤ value ∧ value ≤ 10) (.invalidKartLevelPoint slot value)

def validateLevelState (state : LevelState X) : Except EquipmentStateError Unit := do
  check (0 < state.id) (.invalidKartLevelKart state.id)
  check (0 ≤ state.points ∧ state.points ≤ 35) (.invalidKartLevelRemainingPoints state.points)
  checkLevel 1 state.level1
  checkLevel 2 state.level2
  checkLevel 3 state.level3
  checkLevel 4 state.level4
  let allocated ← allocate state.levels
  check (allocated ≤ 35) (.kartLevelPointBudgetExceeded allocated)

/-- One record as the loader takes it. -/
def readLevelState (state : LevelState X) : Except EquipmentStateError (LevelState X) := do
  validateLevelState state
  return { state with serial := normalizeKartSerial state.id state.serial }

def parseLevelStates : SidecarFile (LevelState X) → Except EquipmentStateError (List (LevelState X))
  | none => .ok []
  | some records => do
    check (records.length ≤ maxEquipmentRecords) (.tooManyRecords "kart level" maxEquipmentRecords)
    let states ← records.mapM readLevelState
    return deduplicateLast LevelState.key states

/-! ## The calls -/

/-- The record of the kart, or a default one that is pushed. -/
def findOrPushLevelState [Inhabited X] (states : List (LevelState X)) (kartId serial : Int) :
    Except EquipmentStateError (Spot (LevelState X)) :=
  match Spot.find? LevelState.key states (kartId, serial) with
  | some spot => .ok spot
  | none => do
    check (states.length < maxEquipmentRecords) (.tooManyRecords "kart level" maxEquipmentRecords)
    return .push states (.fresh kartId serial)

def mutateLevelStateCapability [Inhabited X] (io : SidecarIo (LevelState X))
    (kartId kartSerial : Int)
    (mutation : LevelState X → Bool → Except EquipmentStateError (LevelState X)) :
    SidecarCall (LevelState X) (EquipmentMutationOutcome KartLevelExcRecord) := do
  ensure (0 < kartId) (.invalidKartLevelKart kartId)
  let serial := normalizeKartSerial kartId kartSerial
  let file ← readOptionalBounded io
  let states ← liftResult (parseLevelStates file)
  let spot ← liftResult (findOrPushLevelState states kartId serial)
  let next ← liftResult (mutation spot.row spot.existed)
  let warning ← writeEquipmentStates io "LevelData.json" (spot.set next)
  return ⟨next.asException, warning⟩

/-- Grade five with all points free. -/
def LevelState.renewed (state : LevelState X) : LevelState X :=
  { state with grade := 5, points := 35, level1 := 0, level2 := 0, level3 := 0, level4 := 0 }

/-- A record that was just pushed starts at grade five. -/
def LevelState.started (state : LevelState X) (existed : Bool) : LevelState X :=
  if existed then state else { state with grade := 5, points := 35 }

/-- The points that the levels leave; the difference fails on overflow only. -/
def remainingPoints (levels : List Int) : Except EquipmentStateError Int := do
  let allocated ← allocate levels
  okOr (.kartLevelPointBudgetExceeded allocated) (checkedSub 35 allocated)

def upgradeMutation (state : LevelState X) (existed : Bool) :
    Except EquipmentStateError (LevelState X) :=
  if existed = false ∨ state.grade ≠ 5 then .ok state.renewed
  else do
    let points ← remainingPoints state.levels
    return { state with points }

def raiseLevel (slot : Nat) (current addition : Int) : Except EquipmentStateError Int := do
  let next ← okOr .kartLevelPointOverflow (checkedAdd current addition)
  checkLevel slot next
  return next

def updateMutation (additions : Int × Int × Int × Int) (state : LevelState X) (existed : Bool) :
    Except EquipmentStateError (LevelState X) := do
  let state := state.started existed
  let level1 ← raiseLevel 1 state.level1 additions.1
  let level2 ← raiseLevel 2 state.level2 additions.2.1
  let level3 ← raiseLevel 3 state.level3 additions.2.2.1
  let level4 ← raiseLevel 4 state.level4 additions.2.2.2
  let points ← remainingPoints [level1, level2, level3, level4]
  return { state with points, level1, level2, level3, level4 }

def clearMutation (state : LevelState X) (_existed : Bool) :
    Except EquipmentStateError (LevelState X) :=
  .ok { state.renewed with effect := 0 }

def effectMutation (effect : Int) (state : LevelState X) (existed : Bool) :
    Except EquipmentStateError (LevelState X) :=
  .ok { state.started existed with effect }

section Calls

variable [Inhabited X] (io : SidecarIo (LevelState X)) (kartId kartSerial : Int)

def upgradeKartLevelCapability :=
  mutateLevelStateCapability io kartId kartSerial upgradeMutation

def updateKartLevelPointsCapability (additions : Int × Int × Int × Int) :=
  mutateLevelStateCapability io kartId kartSerial (updateMutation additions)

def clearKartLevelPointsCapability :=
  mutateLevelStateCapability io kartId kartSerial clearMutation

def updateKartLevelEffectCapability (effect : Int) :=
  mutateLevelStateCapability io kartId kartSerial (effectMutation effect)

end Calls

inductive LevelCall
  | upgrade
  | updatePoints (additions : Int × Int × Int × Int)
  | clearPoints
  | updateEffect (effect : Int)

/-- What a call does to the record of its kart. -/
def LevelCall.mutation : LevelCall → LevelState X → Bool →
    Except EquipmentStateError (LevelState X)
  | .upgrade => upgradeMutation
  | .updatePoints additions => updateMutation additions
  | .clearPoints => clearMutation
  | .updateEffect effect => effectMutation effect

/-- A call, for a kart, and what it meets. -/
structure LevelAction (X : Type) where
  io : SidecarIo (LevelState X)
  kartId : Int
  kartSerial : Int
  call : LevelCall

def LevelAction.run [Inhabited X] (action : LevelAction X) :
    SidecarCall (LevelState X) (EquipmentMutationOutcome KartLevelExcRecord) :=
  match action.call with
  | .upgrade => upgradeKartLevelCapability action.io action.kartId action.kartSerial
  | .updatePoints additions =>
    updateKartLevelPointsCapability action.io action.kartId action.kartSerial additions
  | .clearPoints => clearKartLevelPointsCapability action.io action.kartId action.kartSerial
  | .updateEffect effect =>
    updateKartLevelEffectCapability action.io action.kartId action.kartSerial effect

/-- The calls on one file, from what it holds at first. -/
def levelMachine [Inhabited X] (records : SidecarFile (LevelState X)) :
    Machine (SidecarFile (LevelState X)) (LevelAction X)
      (Except EquipmentStateError (EquipmentMutationOutcome KartLevelExcRecord)) where
  init := records
  step file action := some (action.run.run.run file)

end P4475.Profile
