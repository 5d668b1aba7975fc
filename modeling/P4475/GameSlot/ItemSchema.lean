import P4475.Lib.Fields
import P4475.MyRoom.OwnerItems

/-!
# Shapes of item operations

The 80 classes of type-12 operations whose native writers are known: where the state of a body is,
and which length its state asks for. A body is validated when it has that length.
-/

namespace P4475.GameSlot

open Lib
open MyRoom (checkedAdd checkedMul)

abbrev Bytes := List UInt8

/-- `MAX_ITEM_OPERATION_RAW_LENGTH`. -/
def maxItemOperationRawLength : Nat := 0x3c0

inductive ClassName
  | gopAngel | gopAreaUfo | gopBalloon | gopBanana | gopBarricade | gopBigTimebomb | gopBlock
  | gopBossPrison | gopBoundRoad | gopBoundWall | gopCloud | gopCloud2 | gopCokeRocket
  | gopCokebomb | gopCourse | gopCube | gopCubeForBoss | gopDinoClawRocket | gopDynamite | gopEmp
  | gopDevil | gopEventObject | gopFalling | gopForceZone | gopGiantTalisman | gopGhost
  | gopGoldRocket | gopGoldShield | gopHammer | gopHeadBand | gopIcefly | gopInfectedBomb
  | gopInfectedWaterfly | gopItemTimeFlybomb | gopLockdownRocket | gopMagnet | gopLucci | gopMine
  | gopMovingUfo | gopMqDevil | gopNewDevil | gopOil | gopPiratebomb | gopPress | gopRobotBeam
  | gopRocket | gopRollingCokebomb | gopRollingInfectedbomb | gopRollingbomb | gopScanning
  | gopShield | gopSilence | gopSiren | gopSirenShield | gopSlotLock | gopSnowWaterfly
  | gopSnowbomb | gopSnowman | gopSpaceCraft | gopSpecialShield | gopSpecialSiren | gopSpecialSmall
  | gopSpeedDown | gopStraightRocket | gopSuperMag | gopTargetKart | gopThunderbolt
  | gopTigerRocket | gopTimeCokebomb | gopTimeInfectedBomb | gopTimeMine | gopTimeSnowbomb
  | gopTimebomb | gopTombStone | gopUfo | gopWaterMine | gopWaterbomb | gopWaterbombFly
  | gopWaterfly | gopWitchUnionMagic
  deriving DecidableEq

inductive ItemOperationEvidence
  | retainedTrace
  | staticWriterBranch
  | staticWriterDefault
  deriving DecidableEq

inductive ItemOperationStateField
  | u8 (offset : Nat)
  | u32 (offset : Nat)
  deriving DecidableEq

structure StateLengthCase where
  states : List Nat
  length : Nat
  evidence : ItemOperationEvidence
  deriving DecidableEq

inductive ItemOperationLengthRule
  | fixed (length : Nat) (evidence : ItemOperationEvidence)
  | stateMap (cases : List StateLengthCase) (defaultLength : Nat)
  | countedAnyState (countOffset baseLength elementWidth : Nat)
  | countedState (countedState countOffset baseLength elementWidth : Nat)
      (cases : List StateLengthCase) (defaultLength : Nat)
  deriving DecidableEq

structure ItemOperationSchema where
  className : ClassName
  operationHash : Nat
  baseHash : Nat
  stateField : ItemOperationStateField
  lengthRule : ItemOperationLengthRule
  deriving DecidableEq

/-! ## Validation -/

inductive ItemOperationValidationError
  | truncatedField (className : ClassName) (field : String) (offset width actual : Nat)
  | missingObjectId (className : ClassName)
  | invalidLength (className : ClassName) (state actual expected : Nat)
  | countOverCap (className : ClassName) (count required maximum : Nat)
  | countLengthOverflow (className : ClassName) (count : Nat)
  deriving DecidableEq

structure ValidatedItemOperation where
  schema : ItemOperationSchema
  objectId : Nat
  state : Nat
  evidence : ItemOperationEvidence

/-- A field, or the error that it is truncated. -/
def readField (raw : Bytes) (place : ByteField) (className : ClassName) (field : String) :
    Except ItemOperationValidationError Nat :=
  match numberAt raw place with
  | some value => .ok value
  | none => .error (.truncatedField className field place.offset place.width raw.length)

/-- `counted_length`. -/
def countedLength (className : ClassName) (count baseLength elementWidth : Nat) :
    Except ItemOperationValidationError Nat :=
  match (checkedMul count elementWidth).bind (checkedAdd baseLength) with
  | none => .error (.countLengthOverflow className count)
  | some required =>
    if maxItemOperationRawLength < required then
      .error (.countOverCap className count required maxItemOperationRawLength)
    else .ok required

/-- The first case of a state; otherwise the default of the writer. -/
def caseLength (cases : List StateLengthCase) (defaultLength state : Nat) :
    Nat × ItemOperationEvidence :=
  ((cases.find? fun entry => entry.states.contains state).map fun entry =>
    (entry.length, entry.evidence)).getD (defaultLength, .staticWriterDefault)

namespace ItemOperationSchema

variable (schema : ItemOperationSchema)

/-- `expected_length`. -/
def expectedLength (raw : Bytes) (state : Nat) :
    Except ItemOperationValidationError (Nat × ItemOperationEvidence) :=
  match schema.lengthRule with
  | .fixed length evidence => .ok (length, evidence)
  | .stateMap cases defaultLength => .ok (caseLength cases defaultLength state)
  | .countedAnyState countOffset baseLength elementWidth => do
    let count ← readField raw ⟨countOffset, 4⟩ schema.className "element count"
    let expected ← countedLength schema.className count baseLength elementWidth
    let traced := schema.className = .gopCourse ∧ (state = 0 ∨ state = 1) ∧ count = 4
    return (expected, if traced then .retainedTrace else .staticWriterDefault)
  | .countedState countedState countOffset baseLength elementWidth cases defaultLength =>
    if state = countedState then do
      let count ← readField raw ⟨countOffset, 4⟩ schema.className "element count"
      let expected ← countedLength schema.className count baseLength elementWidth
      return (expected, .staticWriterBranch)
    else .ok (caseLength cases defaultLength state)

def readState (raw : Bytes) : Except ItemOperationValidationError Nat :=
  match schema.stateField with
  | .u8 offset => readField raw ⟨offset, 1⟩ schema.className "state byte"
  | .u32 offset => readField raw ⟨offset, 4⟩ schema.className "state dword"

/-- `validate`. -/
def validate (raw : Bytes) : Except ItemOperationValidationError ValidatedItemOperation := do
  let objectId ← readField raw ⟨8, 4⟩ schema.className "object ID"
  if objectId = u32Max then throw (.missingObjectId schema.className)
  let state ← schema.readState raw
  let (expected, evidence) ← schema.expectedLength raw state
  if raw.length ≠ expected then
    throw (.invalidLength schema.className state raw.length expected)
  return ⟨schema, objectId, state, evidence⟩

end ItemOperationSchema

/-! ## The table -/

def mappedU32 (className : ClassName) (operationHash baseHash stateOffset : Nat)
    (cases : List StateLengthCase) (defaultLength : Nat) : ItemOperationSchema :=
  ⟨className, operationHash, baseHash, .u32 stateOffset, .stateMap cases defaultLength⟩

def mappedU8 (className : ClassName) (operationHash baseHash stateOffset : Nat)
    (cases : List StateLengthCase) (defaultLength : Nat) : ItemOperationSchema :=
  ⟨className, operationHash, baseHash, .u8 stateOffset, .stateMap cases defaultLength⟩

def fixedU32 (className : ClassName) (operationHash baseHash stateOffset length : Nat) :
    ItemOperationSchema :=
  ⟨className, operationHash, baseHash, .u32 stateOffset, .fixed length .staticWriterDefault⟩

/-- `c!` of a state that the writer has a branch for. -/
def writer (states : List Nat) (length : Nat) : StateLengthCase :=
  ⟨states, length, .staticWriterBranch⟩

/-- `c!` of a state that the traces have. -/
def trace (states : List Nat) (length : Nat) : StateLengthCase :=
  ⟨states, length, .retainedTrace⟩

/-- `P4475_TYPE12_SCHEMAS`. -/
def type12Schemas : List ItemOperationSchema :=
  [mappedU32 .gopAngel 0x0D49030D 0x184D042C 12 [writer [0] 25, writer [2] 28] 16,
   mappedU32 .gopAreaUfo 0x145703C9 0x219904E8 12 [writer [1] 33, writer [2] 24] 16,
   mappedU32 .gopBalloon 0x14A603ED 0x21E8050C 12 [writer [1] 28] 16,
   mappedU32 .gopBanana 0x10900367 0x1CB30486 12 [writer [1] 74, trace [2] 30, writer [3] 30] 16,
   mappedU8 .gopBarricade 0x1D8604A3 0x2D0605C2 12
      [trace [1] 73, trace [2, 3] 25, writer [4] 26] 25,
   fixedU32 .gopBigTimebomb 0x276B0567 0x39290686 13 29,
   mappedU32 .gopBlock 0x0D590311 0x185D0430 16 [writer [1] 89, writer [2] 29] 20,
   mappedU32 .gopBossPrison 0x233A0538 0x33D90657 12
      [writer [1] 77, writer [2] 64, writer [3] 68] 16,
   mappedU32 .gopBoundRoad 0x1DB904A4 0x2D3905C3 16 [writer [1] 63, writer [2, 3] 33] 20,
   mappedU32 .gopBoundWall 0x1DC104AE 0x2D4105CD 16 [writer [1] 137, writer [2, 3] 29] 20,
   mappedU32 .gopCloud 0x0D7B031D 0x187F043C 12 [writer [1] 73, writer [2] 20] 16,
   mappedU32 .gopCloud2 0x10CA034F 0x1CED046E 12 [writer [1] 73, writer [2] 20] 16,
   mappedU32 .gopCokeRocket 0x22610510 0x3300062F 12
      [writer [1] 77, writer [2] 72, writer [3, 4] 20, writer [5, 6] 16, writer [7] 24,
       writer [8, 9, 10] 20] 16,
   mappedU32 .gopCokebomb 0x19000448 0x27610567 12 [writer [1] 120, writer [2, 3, 4] 28] 16,
   ⟨.gopCourse, 0x11390397, 0x0D730327, .u32 12, .countedAnyState 16 24 2⟩,
   mappedU32 .gopCube 0x0A4F02A5 0x143403C4 12 [writer [1] 24, writer [2] 28] 16,
   mappedU32 .gopCubeForBoss 0x273E0563 0x38FC0682 12 [writer [1] 77] 69,
   mappedU32 .gopDinoClawRocket 0x3A06069F 0x4F2107BE 12
      [writer [1] 77, writer [2] 72, writer [3, 4] 20, writer [5, 6] 16, writer [7] 24,
       writer [8, 9, 10] 20] 16,
   mappedU32 .gopDynamite 0x19770461 0x27D80580 12 [writer [1] 30, writer [2] 29] 16,
   mappedU32 .gopEmp 0x07AE0248 0x10740367 12 [writer [0] 26] 16,
   mappedU32 .gopDevil 0x0D69031A 0x186D0439 12 [writer [1] 31] 16,
   fixedU32 .gopEventObject 0x2856057F 0x3A14069E 12 20,
   mappedU32 .gopFalling 0x14A703E3 0x21E90502 16 [writer [1] 91, writer [2, 3] 33] 20,
   mappedU32 .gopForceZone 0x1DC604B1 0x2D4605D0 12
      [writer [1] 72, writer [2, 3] 29, writer [5] 25] 16,
   fixedU32 .gopGiantTalisman 0x34420652 0x483E0771 12 28,
   mappedU32 .gopGhost 0x0D8B032B 0x188F044A 12 [writer [1] 29] 16,
   mappedU32 .gopGoldRocket 0x228A0514 0x33290633 12
      [writer [1] 77, writer [2] 72, writer [3] 22, writer [4] 20, writer [5, 6] 16,
       writer [7] 24, writer [8, 9, 10] 20] 16,
   mappedU32 .gopGoldShield 0x22710505 0x33100624 12 [writer [0] 28, writer [2] 34] 16,
   mappedU32 .gopHammer 0x10D30380 0x1CF6049F 12 [writer [1] 30, writer [2] 29] 16,
   mappedU32 .gopHeadBand 0x17FB040D 0x265C052C 12 [writer [1] 21] 16,
   mappedU32 .gopIcefly 0x10C30382 0x1CE604A1 12 [writer [1] 78] 16,
   mappedU32 .gopInfectedBomb 0x2DC105C8 0x409E06E7 12 [writer [1] 121, writer [2, 3] 33] 16,
   mappedU32 .gopInfectedWaterfly 0x49AB0796 0x610408B5 12
      [writer [1] 77, writer [2] 65, writer [3] 68, writer [4] 28, writer [5] 20] 16,
   mappedU32 .gopItemTimeFlybomb 0x41CC070F 0x3996067F 12
      [writer [1] 24, writer [2] 28, writer [3, 4] 24] 16,
   mappedU8 .gopLockdownRocket 0x3BEA06CF 0x510507EE 12
      [writer [1] 20, writer [2] 17, writer [4, 9] 25, writer [5, 6] 18, writer [7, 8] 26] 13,
   mappedU32 .gopMagnet 0x10DE0382 0x1D0104A1 12 [writer [1] 30] 16,
   mappedU32 .gopLucci 0x0D890316 0x0A3302A6 12 [writer [0] 74, writer [1] 25] 16,
   mappedU32 .gopMine 0x0A6B02AF 0x145003CE 12
      [writer [1] 77, trace [2] 29, writer [3, 4, 5] 29, writer [6] 68] 16,
   mappedU32 .gopMovingUfo 0x1E5204C0 0x2DD205DF 12 [writer [1] 72, writer [2] 24] 16,
   mappedU32 .gopMqDevil 0x147603D8 0x21B804F7 12 [writer [1] 31] 16,
   mappedU32 .gopNewDevil 0x18D80444 0x27390563 12 [writer [1] 27] 16,
   mappedU32 .gopOil 0x07C0024A 0x10860369 12 [writer [1] 73, writer [2] 29, writer [3] 25] 16,
   mappedU32 .gopPiratebomb 0x2369052B 0x3408064A 12 [writer [1, 2, 3, 4] 28] 16,
   mappedU32 .gopPress 0x0DC10333 0x18C50452 12 [writer [1] 72, writer [2] 28] 16,
   mappedU32 .gopRobotBeam 0x1DC504A1 0x2D4505C0 12 [writer [1] 72, writer [2] 24] 16,
   mappedU32 .gopRocket 0x1129038E 0x1D4C04AD 12
      [writer [1] 82, trace [2] 73, writer [3, 4] 20, writer [5, 6] 16, writer [7] 24,
       writer [8, 9, 10] 20] 16,
   mappedU32 .gopRollingCokebomb 0x42E4071F 0x591E083E 12
      [writer [1] 132, writer [2] 28, writer [3, 4] 24] 16,
   mappedU32 .gopRollingInfectedbomb 0x638108BF 0x7E3709DE 12
      [writer [1] 132, writer [2] 32, writer [3] 28] 16,
   mappedU32 .gopRollingbomb 0x2954059D 0x3B1206BC 12
      [writer [1] 132, writer [2] 28, writer [3, 4] 24] 16,
   mappedU32 .gopScanning 0x19420457 0x27A30576 12 [writer [1] 30] 16,
   mappedU32 .gopShield 0x1110037F 0x1D33049E 12 [writer [1] 31, writer [2] 29] 16,
   mappedU32 .gopSilence 0x150D03E9 0x224F0508 12 [writer [1, 2] 29] 17,
   mappedU32 .gopSiren 0x0DB20327 0x18B60446 12 [writer [1] 26, writer [2] 31] 16,
   mappedU32 .gopSirenShield 0x28A50580 0x3A63069F 12 [writer [0, 2] 25, writer [1] 24] 16,
   fixedU32 .gopSlotLock 0x196B0451 0x27CC0570 12 29,
   mappedU32 .gopSnowWaterfly 0x2F69061B 0x4246073A 12
      [writer [1] 77, writer [2] 65, writer [3] 68, writer [4] 28, writer [5] 20] 16,
   mappedU32 .gopSnowbomb 0x19EB046D 0x284C058C 12 [writer [1] 120, writer [2, 3, 4] 28] 16,
   mappedU32 .gopSnowman 0x15840409 0x22C60528 12
      [writer [1] 77, writer [2] 72, writer [3, 4] 20, writer [5, 6] 16, writer [7] 24,
       writer [8, 9, 10] 20] 16,
   mappedU32 .gopSpaceCraft 0x22620502 0x33010621 12
      [writer [0] 30, writer [2, 3, 4, 5] 29, writer [7] 17] 16,
   mappedU32 .gopSpecialShield 0x34730640 0x486F075F 12 [writer [0] 27, writer [2, 3] 25] 17,
   mappedU32 .gopSpecialSiren 0x2E5405E8 0x41310707 12 [writer [0] 26] 16,
   mappedU32 .gopSpecialSmall 0x2E3D05E0 0x411A06FF 12
      [writer [0] 30, writer [1] 29, writer [2] 17] 16,
   mappedU32 .gopSpeedDown 0x1DB204AF 0x2D3205CE 12 [writer [1] 24, writer [2] 20] 16,
   mappedU32 .gopStraightRocket 0x3C6F06D4 0x518A07F3 12 [writer [1] 58, writer [2, 3] 24] 16,
   mappedU32 .gopSuperMag 0x198F044A 0x27F00569 12 [writer [1] 29] 16,
   fixedU32 .gopTargetKart 0x22FA051F 0x1D7404AF 12 20,
   ⟨.gopThunderbolt, 0x297305B1, 0x3B3106D0, .u32 12, .countedState 1 25 30 4
      [writer [2] 25, writer [3] 29] 16⟩,
   mappedU32 .gopTigerRocket 0x28820589 0x3A4006A8 12
      [writer [1] 77, writer [2] 72, writer [3, 4] 20, writer [5, 6] 16, writer [7] 24,
       writer [8, 9, 10] 20] 16,
   mappedU32 .gopTimeCokebomb 0x2DDA05D7 0x40B706F6 12
      [writer [1] 24, writer [2] 28, writer [3, 4] 24] 16,
   mappedU32 .gopTimeInfectedBomb 0x48D70757 0x60300876 12
      [writer [1] 24, writer [2] 32, writer [3] 28] 16,
   mappedU32 .gopTimeMine 0x1909043E 0x276A055D 16
      [writer [1] 85, writer [2, 3, 4] 33, writer [5] 24] 20,
   mappedU32 .gopTimeSnowbomb 0x2EC505FC 0x41A2071B 12 [writer [1] 24, writer [2, 3, 4] 28] 16,
   mappedU32 .gopTimebomb 0x196A0455 0x27CB0574 12 [writer [1] 24, writer [2, 3, 4] 28] 16,
   mappedU32 .gopTombStone 0x1E2904C1 0x2DA905E0 12 [writer [1] 72, writer [2] 24] 16,
   mappedU32 .gopUfo 0x07CF0250 0x1095036F 12 [writer [1] 33, writer [2] 20] 16,
   mappedU32 .gopWaterMine 0x1E0404B2 0x2D8405D1 12 [writer [1] 73, writer [2, 3, 4, 7] 29] 16,
   mappedU32 .gopWaterbomb 0x1E6504C9 0x2DE505E8 12 [writer [1] 125, writer [2, 3, 4] 29] 16,
   mappedU32 .gopWaterbombFly 0x2EE305F4 0x41C00713 12
      [writer [1] 77, writer [2] 64, writer [3, 4] 28, writer [5] 20] 16,
   mappedU32 .gopWaterfly 0x19AE0474 0x280F0593 12
      [writer [1] 77, writer [2] 65, writer [3] 68, writer [4] 28, writer [5] 20] 16,
   fixedU32 .gopWitchUnionMagic 0x42B8070F 0x58F2082E 12 28]

/-- `item_operation_schema`. -/
def itemOperationSchema (operationHash baseHash : Nat) : Option ItemOperationSchema :=
  type12Schemas.find? fun schema =>
    schema.operationHash = operationHash ∧ schema.baseHash = baseHash

/-- `CSHARP_RELAY_ONLY_OPERATIONS`, without their names. -/
def csharpRelayOnlyOperations : List (Nat × Nat) :=
  [(0x0D6A030E, 0x186E042D), (0x0D82031D, 0x1886043C), (0x0DAE0334, 0x18B20453),
   (0x116F0399, 0x1D9204B8), (0x14E903F7, 0x222B0516)]

/-- `is_known_item_operation_pair`. -/
def isKnownItemOperationPair (operationHash baseHash : Nat) : Bool :=
  (itemOperationSchema operationHash baseHash).isSome ||
    csharpRelayOnlyOperations.contains (operationHash, baseHash)

end P4475.GameSlot
