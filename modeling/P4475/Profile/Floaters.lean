import P4475.Lib.Machine
import P4475.Lib.Outcome
import P4475.Profile.Sidecar

/-!
# Floaters

`TuneData.json` keeps for each kart three tune codes and two protections, each on one of the
slots for a number of resets. Every call checks the record that it changed before it writes
(`validateTuneState`), and the loader checks all of them.
-/

namespace P4475.Profile

open Lib

structure TuneExcRecord where
  id : Int
  serial : Int
  tune1 : Int
  tune2 : Int
  tune3 : Int
  slot1 : Int
  count1 : Int
  slot2 : Int
  count2 : Int
  deriving DecidableEq

/-- A record of the file; `X` stands for the fields that the server does not know. -/
structure TuneState (X : Type) where
  id : Int
  serial : Int
  tune1 : Int
  tune2 : Int
  tune3 : Int
  slot1 : Int
  count1 : Int
  slot2 : Int
  count2 : Int
  extra : X
  deriving DecidableEq

variable {X : Type}

namespace TuneState

def key (state : TuneState X) : Int × Int := (state.id, state.serial)

def codes (state : TuneState X) : List Int := [state.tune1, state.tune2, state.tune3]

def new [Inhabited X] (id serial : Int) : TuneState X := ⟨id, serial, 0, 0, 0, -1, 0, -1, 0, default⟩

def asException (state : TuneState X) : TuneExcRecord :=
  ⟨state.id, normalizeKartSerial state.id state.serial, state.tune1, state.tune2, state.tune3,
    state.slot1, state.count1, state.slot2, state.count2⟩

end TuneState

/-! ## Codes -/

def speedFloaterCodes : List Int := [103, 203, 303, 403, 503, 603, 703, 803, 903]

def itemFloaterCodes : List Int :=
  [10103, 10203, 10303, 10401, 10503, 10603, 10703, 10803, 10901, 11001, 11103, 11201, 11301,
    11403, 11501, 11601, 11701, 11803, 11903, 12003]

def blackFloaterCodes : Int × Int × Int := (603, 703, 903)

/-- The kind is in the hundreds and the grade in the rest. -/
def isSpeedFloaterCode (code : Int) : Bool :=
  let kind := code.tdiv 100
  let grade := code.tmod 100
  decide (1 ≤ kind ∧ kind ≤ 9 ∧ 1 ≤ grade ∧ grade ≤ 3)

def isKnownFloaterCode (code : Int) : Bool :=
  code = 0 || isSpeedFloaterCode code || itemFloaterCodes.contains code

def floaterCodePool (selector : Int) : Option (List Int) :=
  if selector ≤ 0 then none
  else if selector = 6 then some speedFloaterCodes
  else if selector = 4 then some itemFloaterCodes
  else some (speedFloaterCodes ++ itemFloaterCodes)

/-! ## The loader -/

/-- The codes one by one; an empty slot counts as known and never as a repetition. -/
def validateCodes (seen : List Int) : List Int → Except EquipmentStateError Unit
  | [] => .ok ()
  | code :: rest => do
    check (isKnownFloaterCode code) (.invalidFloaterCode code)
    if code ≠ 0 then do
      check (code ∉ seen) (.duplicateFloaterCode code)
      validateCodes (seen ++ [code]) rest
    else
      validateCodes seen rest

def validateProtection (slot count maximum : Int) : Except EquipmentStateError Unit := do
  check (-1 ≤ slot ∧ slot ≤ 2) (.invalidFloaterProtectionSlot slot)
  check (0 ≤ count ∧ count ≤ maximum) (.invalidFloaterProtectionCount count)
  check (¬ (slot = -1 ∧ count ≠ 0)) (.invalidFloaterProtectionCount count)

def validateTuneState (state : TuneState X) : Except EquipmentStateError Unit := do
  check (0 < state.id) (.invalidFloaterKart state.id)
  validateCodes [] state.codes
  validateProtection state.slot1 state.count1 4
  validateProtection state.slot2 state.count2 3
  check (¬ (0 < state.count1 ∧ 0 < state.count2 ∧ state.slot1 = state.slot2))
    (.duplicateFloaterProtectionSlot state.slot1)

def TuneState.normalized (state : TuneState X) : TuneState X :=
  { state with serial := normalizeKartSerial state.id state.serial }

def parseTuneStates : SidecarFile (TuneState X) → Except EquipmentStateError (List (TuneState X))
  | none => .ok []
  | some records => do
    check (records.length ≤ maxEquipmentRecords) (.tooManyRecords "Floater" maxEquipmentRecords)
    let states := deduplicateLast TuneState.key (records.map TuneState.normalized)
    let _ ← states.mapM validateTuneState
    return states

/-! ## The calls -/

/-- The record of the kart, or a new one where the call may insert it. -/
def findOrInsertTuneState [Inhabited X] (states : List (TuneState X)) (kartId serial : Int)
    (insertIfMissing : Bool) : Except EquipmentStateError (Spot (TuneState X)) :=
  match Spot.find? TuneState.key states (kartId, serial) with
  | some spot => .ok spot
  | none =>
    if insertIfMissing then do
      check (states.length < maxEquipmentRecords) (.tooManyRecords "Floater" maxEquipmentRecords)
      return .push states (.new kartId serial)
    else .error (.missingFloaterState kartId serial)

/-- The outcome comes with the record that the mutation was given. -/
def mutateTuneStateCapability [Inhabited X] (io : SidecarIo (TuneState X))
    (kartId kartSerial : Int) (insertIfMissing : Bool)
    (mutation : TuneState X → Except EquipmentStateError (TuneState X)) :
    SidecarCall (TuneState X) (TuneState X × EquipmentMutationOutcome TuneExcRecord) := do
  ensure (0 < kartId) (.invalidFloaterKart kartId)
  let serial := normalizeKartSerial kartId kartSerial
  let file ← readOptionalBounded io
  let states ← liftResult (parseTuneStates file)
  let spot ← liftResult (findOrInsertTuneState states kartId serial insertIfMissing)
  let next ← liftResult (mutation spot.row)
  liftResult (validateTuneState next)
  let warning ← writeEquipmentStates io "TuneData.json" (spot.set next)
  return (spot.row, ⟨next.asException, warning⟩)

def TuneState.withCodes (state : TuneState X) (codes : Int × Int × Int) : TuneState X :=
  { state with tune1 := codes.1, tune2 := codes.2.1, tune3 := codes.2.2 }

/-- What a shuffle makes of a list. -/
abbrev Shuffle := (codes : List Int) → {shuffled : List Int // shuffled.Perm codes}

/-- An empty slot takes the last of the available codes. -/
def fillSlot (selector slot : Int) (available : List Int) :
    Except EquipmentStateError (Int × List Int) :=
  if slot = 0 then
    match available.getLast? with
    | some code => .ok (code, available.dropLast)
    | none => .error (.floaterCodePoolExhausted selector)
  else .ok (slot, available)

def applyMutation (selector : Int) (shuffle : Shuffle) (state : TuneState X) :
    Except EquipmentStateError (TuneState X) :=
  if selector = 5 then .ok (state.withCodes blackFloaterCodes)
  else do
    check (∃ code ∈ state.codes, code = 0) .floaterSlotsFull
    let pool ← okOr (.invalidFloaterSelector selector) (floaterCodePool selector)
    let available := (shuffle (pool.filter (· ∉ state.codes))).val
    let (tune1, available) ← fillSlot selector state.tune1 available
    let (tune2, available) ← fillSlot selector state.tune2 available
    let (tune3, _) ← fillSlot selector state.tune3 available
    return { state with tune1, tune2, tune3 }

def protectMutation (protectKind slot : Int) (state : TuneState X) :
    Except EquipmentStateError (TuneState X) := do
  check (state.codes.getD slot.toNat 0 ≠ 0) (.emptyFloaterProtectionSlot slot)
  check (¬ (0 < state.count1 ∧ state.slot1 = slot ∨ 0 < state.count2 ∧ state.slot2 = slot))
    (.duplicateFloaterProtectionSlot slot)
  if protectKind = 49 then .ok { state with slot1 := slot, count1 := 4 }
  else if protectKind = 53 then .ok { state with slot2 := slot, count2 := 3 }
  else .error (.invalidFloaterProtectionKind protectKind)

def consumeFloaterProtection (slot count : Int) (kept : List Bool) : Int × List Bool :=
  if count ≤ 0 then (count, kept)
  else (count - 1, if 0 ≤ slot then kept.set slot.toNat true else kept)

/-- One protection in a reset: it lets go of its slot, or keeps it once more. -/
def resetProtection (slot count : Int) (kept : List Bool) : Int × Int × List Bool :=
  if count = 0 then (-1, count, kept)
  else
    let (count, kept) := consumeFloaterProtection slot count kept
    (slot, count, kept)

def resetMutation (state : TuneState X) : TuneState X :=
  let (slot1, count1, kept) := resetProtection state.slot1 state.count1 [false, false, false]
  let (slot2, count2, kept) := resetProtection state.slot2 state.count2 kept
  { state with
    slot1, count1, slot2, count2
    tune1 := if kept.getD 0 false then state.tune1 else 0
    tune2 := if kept.getD 1 false then state.tune2 else 0
    tune3 := if kept.getD 2 false then state.tune3 else 0 }

structure FloaterResetOutcome where
  before : TuneExcRecord
  after : TuneExcRecord
  deriving DecidableEq

section Calls

variable [Inhabited X] (io : SidecarIo (TuneState X)) (kartId kartSerial : Int)

def activateFloaterSocketCapability :
    SidecarCall (TuneState X) (EquipmentMutationOutcome TuneExcRecord) := do
  return (← mutateTuneStateCapability io kartId kartSerial true .ok).2

def setFloaterCodesCapability (codes : Int × Int × Int) :
    SidecarCall (TuneState X) (EquipmentMutationOutcome TuneExcRecord) := do
  return (← mutateTuneStateCapability io kartId kartSerial true
    fun state => .ok (state.withCodes codes)).2

def applyFloaterTuneCapability (selector : Int) (shuffle : Shuffle) :
    SidecarCall (TuneState X) (EquipmentMutationOutcome TuneExcRecord) := do
  ensure (4 ≤ selector ∧ selector ≤ 6) (.invalidFloaterSelector selector)
  return (← mutateTuneStateCapability io kartId kartSerial false
    (applyMutation selector shuffle)).2

def protectFloaterSlotCapability (protectKind slot : Int) :
    SidecarCall (TuneState X) (EquipmentMutationOutcome TuneExcRecord) := do
  ensure (0 ≤ slot ∧ slot ≤ 2) (.invalidFloaterProtectionSlot slot)
  return (← mutateTuneStateCapability io kartId kartSerial false
    (protectMutation protectKind slot)).2

def resetFloaterSocketCapability :
    SidecarCall (TuneState X) (EquipmentMutationOutcome FloaterResetOutcome) := do
  let mutated ← mutateTuneStateCapability io kartId kartSerial false
    fun state => .ok (resetMutation state)
  return ⟨⟨mutated.1.asException, mutated.2.value⟩, mutated.2.durabilityWarning⟩

end Calls

inductive FloaterCall
  | activate
  | setCodes (codes : Int × Int × Int)
  | applyTune (selector : Int) (shuffle : Shuffle)
  | protect (protectKind slot : Int)
  | reset

inductive FloaterAnswer
  | state (outcome : EquipmentMutationOutcome TuneExcRecord)
  | reset (outcome : EquipmentMutationOutcome FloaterResetOutcome)
  deriving DecidableEq

/-- A call, for a kart, and what it meets. -/
structure FloaterAction (X : Type) where
  io : SidecarIo (TuneState X)
  kartId : Int
  kartSerial : Int
  call : FloaterCall

def FloaterAction.run [Inhabited X] (action : FloaterAction X) :
    SidecarCall (TuneState X) FloaterAnswer :=
  let io := action.io
  let kartId := action.kartId
  let kartSerial := action.kartSerial
  match action.call with
  | .activate => do return .state (← activateFloaterSocketCapability io kartId kartSerial)
  | .setCodes codes => do return .state (← setFloaterCodesCapability io kartId kartSerial codes)
  | .applyTune selector shuffle => do
    return .state (← applyFloaterTuneCapability io kartId kartSerial selector shuffle)
  | .protect protectKind slot => do
    return .state (← protectFloaterSlotCapability io kartId kartSerial protectKind slot)
  | .reset => do return .reset (← resetFloaterSocketCapability io kartId kartSerial)

/-- The calls on one file, from what it holds at first. -/
def floaterMachine [Inhabited X] (records : SidecarFile (TuneState X)) :
    Machine (SidecarFile (TuneState X)) (FloaterAction X)
      (Except EquipmentStateError FloaterAnswer) where
  init := records
  step file action := some (action.run.run.run file)

end P4475.Profile
