import P4475.Lib.FinmapExt

/-!
# Race object registry

`p4475-server/src/race_object_registry.rs`: which item objects of a race exist,
who installed them and how far they have got. A client operation is planned
against the registry and answered at once; the mutation a plan may hold is
committed later, if the registry has not changed in between. The meaning of an
operation and the evidence for it come from the packet decoder
(`p4475-core/src/game_slot_item_semantics.rs`) and are plain data here.
-/

namespace P4475.RaceObject

open Lib

/-- `MAX_RACE_OBJECTS`. -/
def maxRaceObjects : Nat := 1024

inductive ItemSemanticEvidence
  | unresolved
  | staticConsumer
  | producerAndConsumer
  | retainedTraceCorrelated
  deriving DecidableEq

inductive ItemLifecycleMeaning
  | unknown
  | initializeObject
  | place
  | launch
  | activate
  | impact
  | resolve
  | retarget
  | remove
  | rebindSource
  | respawn
  | updateRuntimeFlag
  | noClientAction
  deriving DecidableEq

structure RaceObjectActor where
  userNo : Nat
  generation : Nat
  playerId : Nat
  deriving DecidableEq

structure RaceObjectClass where
  operationHash : Nat
  baseHash : Nat
  deriving DecidableEq

inductive RaceObjectPhase
  | initialized
  | active
  | hit
  | removed
  deriving DecidableEq

inductive RaceObjectLifecycleEvent
  | installed
  | activated
  | hit
  | removed
  | stateUpdated (state : Nat)
  | runtimeFlagUpdated (flag : Nat)
  deriving DecidableEq

inductive RaceObjectDuplicateKind
  | install
  | activation
  | hit
  | removal
  | terminalState
  | runtimeFlagUpdate
  deriving DecidableEq

structure RaceObjectOperation where
  raceEpoch : Nat
  class' : RaceObjectClass
  className : String
  objectId : Nat
  state : Nat
  meaning : ItemLifecycleMeaning
  evidence : ItemSemanticEvidence
  transitionToken : Option Nat
  sourceObjectId : Option Nat
  targetObjectId : Option Nat
  variant : Option Nat
  reporter : RaceObjectActor
  /-- The installer a native payload names, when it names one: the victim of a
  barricade reports the hit while the nested owner is still the installer. -/
  ownerClaim : Option RaceObjectActor
  deriving DecidableEq

structure RaceObjectKey where
  raceEpoch : Nat
  objectId : Nat
  deriving DecidableEq

structure RaceObjectRecord where
  class' : RaceObjectClass
  className : String
  owner : RaceObjectActor
  lastReporter : RaceObjectActor
  phase : RaceObjectPhase
  lastState : Nat
  lastMeaning : ItemLifecycleMeaning
  lastTransitionToken : Option Nat
  lastSourceObjectId : Option Nat
  lastTargetObjectId : Option Nat
  runtimeFlag : Option Nat
  deriving DecidableEq

structure RaceObjectMutation where
  expectedRevision : Nat
  key : RaceObjectKey
  next : RaceObjectRecord
  events : Option RaceObjectLifecycleEvent × Option RaceObjectLifecycleEvent
  deriving DecidableEq

inductive RaceObjectAdmission
  | publishTracked (mutation : RaceObjectMutation)
  | publishUntracked
  | suppressDuplicate (objectId : Nat) (className : String) (phase : RaceObjectPhase)
      (state : Nat) (kind : RaceObjectDuplicateKind)
  deriving DecidableEq

inductive RaceObjectRegistryError
  | capacity (raceEpoch objectId maximum : Nat)
  | classMismatch (raceEpoch objectId expectedOperationHash expectedBaseHash
      actualOperationHash actualBaseHash : Nat)
  | ownerMismatch (raceEpoch objectId expectedPlayerId expectedGeneration
      actualPlayerId actualGeneration : Nat)
  | stalePlan (plannedRevision currentRevision : Nat)
  deriving DecidableEq

/-- The revision is a `u64` that wraps. -/
structure RaceObjectRegistry where
  revision : Nat
  objects : Map RaceObjectKey RaceObjectRecord

def RaceObjectOperation.key (operation : RaceObjectOperation) : RaceObjectKey :=
  ⟨operation.raceEpoch, operation.objectId⟩

/-- The record of an object nobody has tracked yet. -/
def RaceObjectOperation.install (operation : RaceObjectOperation) (phase : RaceObjectPhase) :
    RaceObjectRecord where
  class' := operation.class'
  className := operation.className
  owner := operation.ownerClaim.getD operation.reporter
  lastReporter := operation.reporter
  phase := phase
  lastState := operation.state
  lastMeaning := operation.meaning
  lastTransitionToken := operation.transitionToken
  lastSourceObjectId := operation.sourceObjectId
  lastTargetObjectId := operation.targetObjectId
  runtimeFlag := none

/-- The fields every recorded transition of a known object overwrites. -/
def RaceObjectRecord.transition (current : RaceObjectRecord)
    (operation : RaceObjectOperation) : RaceObjectRecord :=
  { current with
    lastReporter := operation.reporter
    lastState := operation.state
    lastMeaning := operation.meaning
    lastTransitionToken := operation.transitionToken
    lastSourceObjectId := operation.sourceObjectId
    lastTargetObjectId := operation.targetObjectId }

/-- Every `SuppressDuplicate` of the source reads the same fields. -/
def suppressDuplicate (current : RaceObjectRecord) (operation : RaceObjectOperation)
    (kind : RaceObjectDuplicateKind) : RaceObjectAdmission :=
  .suppressDuplicate operation.objectId current.className current.phase operation.state kind

namespace RaceObjectRegistry

def empty : RaceObjectRegistry := ⟨0, ∅⟩

/-- `ensure_capacity`. -/
def ensureCapacity (self : RaceObjectRegistry) (key : RaceObjectKey) :
    Except RaceObjectRegistryError Unit :=
  if self.objects.keys.card ≥ maxRaceObjects then
    .error (.capacity key.raceEpoch key.objectId maxRaceObjects)
  else
    .ok ()

/-- `validate_existing`. -/
def validateExisting (key : RaceObjectKey) (current : RaceObjectRecord)
    (operation : RaceObjectOperation) : Except RaceObjectRegistryError Unit :=
  if current.class' ≠ operation.class' then
    .error (.classMismatch key.raceEpoch key.objectId current.class'.operationHash
      current.class'.baseHash operation.class'.operationHash operation.class'.baseHash)
  else
    match operation.ownerClaim with
    | none => .ok ()
    | some owner =>
      if owner ≠ current.owner then
        .error (.ownerMismatch key.raceEpoch key.objectId current.owner.playerId
          current.owner.generation owner.playerId owner.generation)
      else
        .ok ()

/-- `next_record`. -/
def nextRecord (self : RaceObjectRegistry) (key : RaceObjectKey)
    (current : Option RaceObjectRecord) (operation : RaceObjectOperation)
    (phase : RaceObjectPhase) : Except RaceObjectRegistryError RaceObjectRecord :=
  match current with
  | some current => .ok { current.transition operation with phase := phase }
  | none => do
    self.ensureCapacity key
    return operation.install phase

/-- The mutation that writes `next` under `key`. -/
def tracked (self : RaceObjectRegistry) (key : RaceObjectKey) (next : RaceObjectRecord)
    (events : Option RaceObjectLifecycleEvent × Option RaceObjectLifecycleEvent) :
    RaceObjectAdmission :=
  .publishTracked ⟨self.revision, key, next, events⟩

/-- `plan_install`. -/
def planInstall (self : RaceObjectRegistry) (key : RaceObjectKey)
    (current : Option RaceObjectRecord) (operation : RaceObjectOperation) :
    Except RaceObjectRegistryError RaceObjectAdmission :=
  match current with
  | some current =>
    if current.phase = .initialized ∧ current.lastMeaning = .initializeObject ∧
        (operation.meaning = .place ∨ operation.meaning = .launch ∨
          operation.meaning = .activate) then do
      let next ← self.nextRecord key (some current) operation .active
      return self.tracked key next (some .activated, none)
    else
      .ok (suppressDuplicate current operation .install)
  | none => do
    self.ensureCapacity key
    if operation.meaning = .initializeObject then
      return self.tracked key (operation.install .initialized) (some .installed, none)
    else
      return self.tracked key (operation.install .active) (some .installed, some .activated)

/-- `plan_respawn`: a respawn of an object whose installation was not seen is
relayed, but no owner is invented for it. -/
def planRespawn (self : RaceObjectRegistry) (key : RaceObjectKey)
    (current : Option RaceObjectRecord) (operation : RaceObjectOperation) :
    Except RaceObjectRegistryError RaceObjectAdmission :=
  match current with
  | none => .ok .publishUntracked
  | some current =>
    if current.phase = .active ∧ current.lastMeaning = .respawn ∧
        current.lastState = operation.state ∧
        current.lastTransitionToken = operation.transitionToken ∧
        current.lastSourceObjectId = operation.sourceObjectId ∧
        current.lastTargetObjectId = operation.targetObjectId then
      .ok (suppressDuplicate current operation .activation)
    else do
      let next ← self.nextRecord key (some current) operation .active
      return self.tracked key next (some .activated, none)

/-- `plan_hit`. -/
def planHit (self : RaceObjectRegistry) (key : RaceObjectKey)
    (current : Option RaceObjectRecord) (operation : RaceObjectOperation) :
    Except RaceObjectRegistryError RaceObjectAdmission :=
  let repeated (record : RaceObjectRecord) : Bool :=
    record.phase = .removed ∨ (record.phase = .hit ∧ record.lastState = operation.state ∧
      record.lastTransitionToken = operation.transitionToken ∧
      record.lastTargetObjectId = operation.targetObjectId)
  match current.filter repeated with
  | some current => .ok (suppressDuplicate current operation .hit)
  | none => do
    let next ← self.nextRecord key current operation .hit
    return self.tracked key next (some .hit, none)

/-- `plan_removal`: a consumer-only removal of an unknown object leaves no orphan
tombstone. -/
def planRemoval (self : RaceObjectRegistry) (key : RaceObjectKey)
    (current : Option RaceObjectRecord) (operation : RaceObjectOperation) :
    Except RaceObjectRegistryError RaceObjectAdmission :=
  match current.filter fun record => record.phase = .removed with
  | some current => .ok (suppressDuplicate current operation .removal)
  | none =>
    if current = none ∧ operation.evidence = .staticConsumer then
      .ok .publishUntracked
    else do
      let next ← self.nextRecord key current operation .removed
      return self.tracked key next (some .removed, none)

/-- `plan_state_update`. -/
def planStateUpdate (self : RaceObjectRegistry) (key : RaceObjectKey)
    (current : Option RaceObjectRecord) (operation : RaceObjectOperation) :
    RaceObjectAdmission :=
  match current with
  | none => .publishUntracked
  | some current =>
    self.tracked key (current.transition operation)
      (some (.stateUpdated operation.state), none)

/-- `plan_runtime_flag_update`: the flag does not replace the last authoritative
transition, whose fingerprint suppresses replays. -/
def planRuntimeFlagUpdate (self : RaceObjectRegistry) (key : RaceObjectKey)
    (current : Option RaceObjectRecord) (operation : RaceObjectOperation) :
    RaceObjectAdmission :=
  match current, operation.variant with
  | none, _ => .publishUntracked
  | some _, none => .publishUntracked
  | some current, some runtimeFlag =>
    if current.runtimeFlag = some runtimeFlag then
      suppressDuplicate current operation .runtimeFlagUpdate
    else
      self.tracked key
        { current with lastReporter := operation.reporter, runtimeFlag := some runtimeFlag }
        (some (.runtimeFlagUpdated runtimeFlag), none)

/-- The dispatch on the meaning, once the early answers of `plan` are given. -/
def planMeaning (self : RaceObjectRegistry) (key : RaceObjectKey)
    (current : Option RaceObjectRecord) (operation : RaceObjectOperation) :
    Except RaceObjectRegistryError RaceObjectAdmission :=
  match operation.meaning with
  | .initializeObject | .place | .launch | .activate => self.planInstall key current operation
  | .impact => self.planHit key current operation
  | .remove => self.planRemoval key current operation
  | .respawn => self.planRespawn key current operation
  | .updateRuntimeFlag => .ok (self.planRuntimeFlagUpdate key current operation)
  | .unknown => .ok .publishUntracked
  | .resolve | .retarget | .rebindSource | .noClientAction =>
    .ok (self.planStateUpdate key current operation)

/-- `plan`. -/
def plan (self : RaceObjectRegistry) (operation : RaceObjectOperation) :
    Except RaceObjectRegistryError RaceObjectAdmission :=
  let key := operation.key
  let current := self.objects.lookup key
  if operation.meaning = .unknown ∨ operation.meaning = .noClientAction then
    match current.filter fun record =>
        record.class' = operation.class' ∧ record.phase = .removed with
    | some current => .ok (suppressDuplicate current operation .terminalState)
    | none => .ok .publishUntracked
  else do
    match current with
    | some current => validateExisting key current operation
    | none => pure ()
    match current.filter fun record => record.phase = .removed ∧
        ¬ (operation.meaning = .remove ∨ operation.meaning = .respawn) with
    | some current => return suppressDuplicate current operation .terminalState
    | none => self.planMeaning key current operation

/-- `commit`. -/
def commit (self : RaceObjectRegistry) (mutation : RaceObjectMutation) :
    Except RaceObjectRegistryError RaceObjectRegistry :=
  if mutation.expectedRevision ≠ self.revision then
    .error (.stalePlan mutation.expectedRevision self.revision)
  else
    .ok { revision := (self.revision + 1) % 2 ^ 64
          objects := self.objects.insert mutation.key mutation.next }

end RaceObjectRegistry

end P4475.RaceObject
