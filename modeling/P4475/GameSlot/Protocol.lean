import P4475.GameSlot.ItemSemantics
import P4475.Lib.Outcome

/-!
# Game-slot packets

What `game_slot_protocol.rs` makes of the packets of a race: the bodies of the ten packet families,
the actions that are left to the server, and why a packet is dropped; then `parse_game_slot_packet`
and the parsers of the bodies, which read at absolute offsets once the length of the packet is
checked, and the awards that the server writes itself. Floats are their bits. The places where the
code indexes or unwraps without a check are panics here, beside the drops.
-/

namespace P4475.GameSlot

open Lib
open MyRoom (checkedAdd)

/-! ## Constants -/

def gameSlotPacketHash : Nat := 0x27C00574

def maxGameSlotLogicalLength : Nat := 1013

def maxGameSlotBlobLength : Nat := 0x3c0

def maxGameSlotPlayerId : Nat := 15

def gopCubeHash : Nat := 0x0A4F02A5

def goItemCubeHash : Nat := 0x143403C4

def gameKartItemInfoHash : Nat := 0x5FC3087F

def gameKartPacketHash : Nat := 0x27250564

def gameKartQuadPacketHash : Nat := 0x406006EF

def gopBarricadeHash : Nat := 0x1D8604A3

def gopLucciHash : Nat := 0x0D890316

def goLucciHash : Nat := 0x0A3302A6

def gopBonusItemHash : Nat := 0x1DF904BC

def goBonusItemHash : Nat := 0x18E3044C

def gopTeamFlagHash : Nat := 0x18A20427

def goTeamFlagHash : Nat := 0x13FC03B7

def commonEnvelopeLength : Nat := 13

def pickupBlobLength : Nat := 24

/-! ## Parsed packets -/

structure GameSlotPayloadRange where
  offset : Nat
  length : Nat
  deriving DecidableEq

inductive ItemPickupKind
  | type1
  | type2
  deriving DecidableEq

structure ItemPickupToken where
  objectId : Nat
  operationTick : Nat
  deriving DecidableEq

structure Position where
  x : Nat
  y : Nat
  z : Nat
  deriving DecidableEq

structure ItemPickup where
  kind : ItemPickupKind
  token : ItemPickupToken
  liveRank : Int
  position : Position
  blob : GameSlotPayloadRange

inductive WorldObjectCollectionKind
  | lucci
  | bonusItem
  deriving DecidableEq

structure WorldObjectCollection where
  kind : WorldObjectCollectionKind
  objectId : Nat
  currentTick : Nat
  expiryTick : Nat
  position : Position
  trailingWord : Nat
  collectorId : Nat
  operationTick : Nat
  variant : Nat
  blob : GameSlotPayloadRange

inductive TeamFlagTransitionKind
  | pickupAttach
  | dropRelocate
  | returnReset
  deriving DecidableEq

structure TeamFlagTransition where
  kind : TeamFlagTransitionKind
  objectId : Nat
  currentTick : Nat
  expiryTick : Nat
  outerPosition : Position
  trailingWord : Nat
  carrierId : Option Nat
  transitionTick : Nat
  transitionPosition : Option Position
  payload : GameSlotPayloadRange

structure ItemVector where
  items : List Nat
  count : Nat
  payload : GameSlotPayloadRange

inductive ItemUseKind
  | ordinary
  | spawnedWorldObject
  deriving DecidableEq

structure ItemUse where
  kind : ItemUseKind
  rawByte13 : Nat
  status : Nat
  itemOrSkill : Nat
  rawByte18 : Nat
  rawByte19 : Nat
  ancillaryEffectCode : Nat
  blob : GameSlotPayloadRange

structure ItemReaction where
  uni : Nat
  skill : Int
  blob : GameSlotPayloadRange

structure DashboardAllocationNotice where
  rawByte13 : Nat
  payload : GameSlotPayloadRange

inductive KartSnapshotKind
  | fullPrecision
  | quantizedQuad
  deriving DecidableEq

structure KartSnapshot where
  kind : KartSnapshotKind
  common : Nat
  objectId : Nat
  flags : Nat × Nat × Nat
  payload : GameSlotPayloadRange

structure BarricadePlacement where
  objectId : Nat
  tick : Nat
  ownerId : Nat
  transform : List Nat

structure BarricadeTransition where
  objectId : Nat
  state : Nat
  tick : Nat
  ownerId : Nat
  trailing : Nat

inductive BarricadeOperation
  | placement (placement : BarricadePlacement)
  | transition (transition : BarricadeTransition)

structure ItemOperation where
  operationHash : Nat
  operationBaseHash : Nat
  schema : ItemOperationSchema
  objectId : Nat
  state : Nat
  evidence : ItemOperationEvidence
  semantics : ItemOperationSemantics
  barricade : Option BarricadeOperation
  payload : GameSlotPayloadRange

structure BoundedItemOperation where
  operationHash : Nat
  operationBaseHash : Nat
  schema : Option ItemOperationSchema
  payload : GameSlotPayloadRange

inductive GameSlotBody
  | itemPickup (pickup : ItemPickup)
  | worldObjectCollection (collection : WorldObjectCollection)
  | teamFlagTransition (transition : TeamFlagTransition)
  | itemVector (vector : ItemVector)
  | itemUse (use : ItemUse)
  | itemReaction (reaction : ItemReaction)
  | dashboardAllocationNotice (notice : DashboardAllocationNotice)
  | kartSnapshot (snapshot : KartSnapshot)
  | itemOperation (operation : ItemOperation)
  | boundedItemOperation (operation : BoundedItemOperation)

namespace GameSlotBody

def packetType : GameSlotBody → Nat
  | itemPickup { kind := .type1, .. } => 1
  | itemPickup { kind := .type2, .. } => 2
  | worldObjectCollection { kind := .lucci, .. } => 4
  | worldObjectCollection { kind := .bonusItem, .. } => 6
  | teamFlagTransition { kind := .pickupAttach, .. } => 5
  | teamFlagTransition { kind := .dropRelocate, .. } => 7
  | teamFlagTransition { kind := .returnReset, .. } => 8
  | itemVector _ => 9
  | itemUse { kind := .ordinary, .. } => 10
  | itemReaction _ => 11
  | itemOperation _ => 12
  | boundedItemOperation _ => 12
  | dashboardAllocationNotice _ => 13
  | itemUse { kind := .spawnedWorldObject, .. } => 16
  | kartSnapshot _ => 17

def payloadRange : GameSlotBody → GameSlotPayloadRange
  | itemPickup value => value.blob
  | worldObjectCollection value => value.blob
  | teamFlagTransition value => value.payload
  | itemVector value => value.payload
  | itemUse value => value.blob
  | itemReaction value => value.blob
  | dashboardAllocationNotice value => value.payload
  | kartSnapshot value => value.payload
  | itemOperation value => value.payload
  | boundedItemOperation value => value.payload

def isItemPickup : GameSlotBody → Bool
  | itemPickup _ => true
  | _ => false

end GameSlotBody

inductive GameSlotEvidencePending
  | worldObjectCollectionAuthorization (kind : WorldObjectCollectionKind)
  | teamFlagAuthorization (kind : TeamFlagTransitionKind)
  deriving DecidableEq

inductive GameSlotRelayAudience
  | allRacePeersMaskMatch
  | recipientMaskExceptSender
  deriving DecidableEq

inductive GameSlotAction
  | consumeNoReply
  | synthesizeItemPickup
  | evidencePending (pending : GameSlotEvidencePending)
  | relayOriginal (audience : GameSlotRelayAudience)
  deriving DecidableEq

structure ParsedGameSlotPacket where
  raw : Bytes
  playerId : Nat
  itemOrRecipientMask : Nat
  body : GameSlotBody
  action : GameSlotAction

/-- `payload`. -/
def ParsedGameSlotPacket.payload (parsed : ParsedGameSlotPacket) : Option Bytes := do
  let range := parsed.body.payloadRange
  let stop ← checkedAdd range.offset range.length
  bytesAt parsed.raw ⟨range.offset, stop - range.offset⟩

/-! ## Drops -/

inductive GameSlotMaskRule
  | allBitsSet
  | lowSixteenBits
  | lowSixteenBitsExcludingSender
  | nonzeroLowSixteenBits
  | nonzeroLowSixteenBitsIncludingSender
  | nonzeroLowSixteenBitsExcludingSender
  deriving DecidableEq

inductive GameSlotDropReason
  | truncated (context : String) (actual minimum : Nat)
  | logicalLengthOverCap (actual maximum : Nat)
  | unexpectedPacketHash (expected actual : Nat)
  | invalidPlayerId (claimed : Int)
  | unsupportedType (packetType : Nat)
  | invalidMask (packetType mask : Nat) (rule : GameSlotMaskRule)
  | blobLengthOverCap (packetType declared maximum : Nat)
  | blobLengthMismatch (packetType declared actual : Nat)
  | invalidKartSnapshotReservedWord (actual : Nat)
  | invalidDashboardAllocationReservedWord (actual : Nat)
  | invalidDashboardAllocationBodyLength (actual : Nat)
  | unexpectedKartSnapshotHash (actual : Nat)
  | invalidKartSnapshotLength (kind : KartSnapshotKind) (actual expected : Nat)
  | invalidPickupBlobLength (actual expected : Nat)
  | unsupportedPickupOperation (operationHash operationBaseHash : Nat)
  | invalidPickupRequestState (packetType status itemId : Nat)
  | pickupObjectIdMismatch (outer nested : Nat)
  | invalidType1PickupObjectId (actual : Nat)
  | invalidType2PickupObjectId (actual : Nat)
  | invalidPickupTick (packetType : Nat) (field : String) (actual expected : Nat)
  | invalidPickupState (actual : Nat)
  | invalidPickupOwner (claimed nested : Nat)
  | nonFinitePickupPosition (axis : Nat)
  | unexpectedItemVectorHash (actual : Nat)
  | itemVectorCountOverCap (count : Nat)
  | invalidItemVectorLength (count declared expected : Nat)
  | unsupportedItemOperation (operationHash operationBaseHash : Nat)
  | invalidItemOperationReservedWord (actual : Nat)
  | itemOperationValidation (error : ItemOperationValidationError)
  | invalidCollectionOperation (packetType operationHash operationBaseHash : Nat)
  | invalidCollectionBlobLength (packetType actual expected : Nat)
  | missingCollectionObjectId (packetType : Nat)
  | collectionObjectIdMismatch (packetType outer nested : Nat)
  | invalidCollectionState (packetType actual : Nat)
  | invalidCollectionCollector (packetType : Nat) (collector : Int)
  | nonFiniteCollectionPosition (packetType axis : Nat)
  | invalidTeamFlagBlobLength (packetType actual expected : Nat)
  | invalidTeamFlagOperation (packetType operationHash operationBaseHash : Nat)
  | teamFlagObjectIdMismatch (packetType outer nested : Nat)
  | invalidTeamFlagState (packetType actual expected : Nat)
  | invalidTeamFlagCarrier (packetType : Nat) (carrier : Int)
  | nonFiniteTeamFlagPosition (packetType axis : Nat)
  | invalidBarricadePlacementOwner (playerId : Nat) (ownerId : Int)
  | invalidBarricadeTransitionOwner (ownerId : Int)
  | invalidBarricadeReserved (actual : Nat)
  | nonFiniteBarricadeTransform (index : Nat)
  deriving DecidableEq

/-- How a packet ends that is not accepted. -/
inductive GameSlotFault
  | drop (reason : GameSlotDropReason)
  /-- An index out of bounds, or an `expect` that fails. -/
  | panic
  deriving DecidableEq

abbrev Parsing := Except GameSlotFault

/-! ## Reads -/

/-- `read_array`, as a number. -/
def readArray (packet : Bytes) (place : ByteField) (context : String) : Parsing Nat :=
  match checkedAdd place.offset place.width with
  | none => .error (.drop (.truncated context packet.length usizeMax))
  | some minimum =>
    match numberAt packet place with
    | none => .error (.drop (.truncated context packet.length minimum))
    | some value => .ok value

def readU16 (packet : Bytes) (offset : Nat) (context : String) : Parsing Nat :=
  readArray packet ⟨offset, 2⟩ context

def readU32 (packet : Bytes) (offset : Nat) (context : String) : Parsing Nat :=
  readArray packet ⟨offset, 4⟩ context

/-- The bits of the float. -/
def readF32 (packet : Bytes) (offset : Nat) (context : String) : Parsing Nat :=
  readArray packet ⟨offset, 4⟩ context

/-- The number of this width in two's complement. -/
def signedOf (width value : Nat) : Int :=
  if 2 * value < 256 ^ width then value else (value : Int) - (256 ^ width : Nat)

def readI16 (packet : Bytes) (offset : Nat) (context : String) : Parsing Int :=
  signedOf 2 <$> readArray packet ⟨offset, 2⟩ context

def readI32 (packet : Bytes) (offset : Nat) (context : String) : Parsing Int :=
  signedOf 4 <$> readArray packet ⟨offset, 4⟩ context

/-- `packet[offset]`. -/
def index (packet : Bytes) (offset : Nat) : Parsing Nat :=
  match byte packet offset with
  | none => .error .panic
  | some value => .ok value

/-- `f32::is_finite`: not all bits of the exponent are set. -/
def isFinite (bits : Nat) : Bool := bits / 2 ^ 23 % 256 ≠ 255

/-- Three floats in a row, then the check that each is finite. -/
def readPosition (packet : Bytes) (offset : Nat) (context : String)
    (nonFinite : Nat → GameSlotDropReason) : Parsing Position := do
  let x ← readF32 packet offset context
  let y ← readF32 packet (offset + 4) context
  let z ← readF32 packet (offset + 8) context
  check (isFinite x) (.drop (nonFinite 0))
  check (isFinite y) (.drop (nonFinite 1))
  check (isFinite z) (.drop (nonFinite 2))
  return ⟨x, y, z⟩

/-- `u8::try_from(claimed).ok().filter(|value| *value <= MAX_GAME_SLOT_PLAYER_ID)`. -/
def playerIdOf (claimed : Int) : Option Nat :=
  if 0 ≤ claimed ∧ claimed ≤ maxGameSlotPlayerId then some claimed.toNat else none

/-! ## Checks of the envelope -/

/-- The condition of `validate_mask`. -/
def GameSlotMaskRule.isMet (rule : GameSlotMaskRule) (mask playerId : Nat) : Bool :=
  let lowOnly := mask &&& 0xffff0000 = 0
  let sender := mask &&& 1 <<< playerId
  match rule with
  | allBitsSet => mask = u32Max
  | lowSixteenBits => lowOnly
  | lowSixteenBitsExcludingSender => lowOnly ∧ sender = 0
  | nonzeroLowSixteenBits => lowOnly ∧ mask ≠ 0
  | nonzeroLowSixteenBitsIncludingSender => lowOnly ∧ mask ≠ 0 ∧ sender ≠ 0
  | nonzeroLowSixteenBitsExcludingSender => lowOnly ∧ mask ≠ 0 ∧ sender = 0

/-- `validate_mask`. -/
def validateMask (packetType mask playerId : Nat) (rule : GameSlotMaskRule) : Parsing Unit :=
  check (rule.isMet mask playerId) (.drop (.invalidMask packetType mask rule))

/-- `validate_blob`: the declared blob is all the rest. -/
def validateBlob (packet : Bytes) (packetType offset declared : Nat) :
    Parsing GameSlotPayloadRange := do
  check (declared ≤ maxGameSlotBlobLength)
    (.drop (.blobLengthOverCap packetType declared maxGameSlotBlobLength))
  check (offset ≤ packet.length) (.drop (.truncated "GameSlot blob" packet.length offset))
  let actual := packet.length - offset
  check (declared = actual) (.drop (.blobLengthMismatch packetType declared actual))
  return ⟨offset, declared⟩

/-- `ensure_minimum`. -/
def ensureMinimum (packet : Bytes) (context : String) (minimum : Nat) : Parsing Unit :=
  check (minimum ≤ packet.length) (.drop (.truncated context packet.length minimum))

/-- A body and what is to be done with it. -/
abbrev Decoded := GameSlotBody × GameSlotAction

/-- Drops a packet unless the condition holds. -/
def require (c : Prop) [Decidable c] (reason : GameSlotDropReason) : Parsing Unit :=
  check c (.drop reason)

/-! ## Pickups -/

/-- `parse_item_pickup_token`. -/
def parseItemPickupToken (packet : Bytes) (packetType playerId : Nat) :
    Parsing (ItemPickupKind × ItemPickupToken) := do
  let requestStatus ← index packet 40
  let requestItemId ← readU32 packet 41 "GameSlot item pickup request state"
  require
    (if packetType = 1 then requestStatus = 0 ∧ requestItemId = 0x0000ffff
      else requestStatus = 8 ∧ 1 ≤ requestItemId ∧ requestItemId ≤ 32767)
    (.invalidPickupRequestState packetType requestStatus requestItemId)
  let objectId ← readU32 packet 14 "GameSlot item pickup object"
  let nestedObjectId ← readU32 packet 57 "GameSlot item pickup nested object"
  require (nestedObjectId = objectId) (.pickupObjectIdMismatch objectId nestedObjectId)
  let nestedState ← readU32 packet 61 "GameSlot item pickup state"
  require (nestedState = 1) (.invalidPickupState nestedState)
  let nestedOwner ← readU32 packet 65 "GameSlot item pickup owner"
  require (nestedOwner = playerId) (.invalidPickupOwner playerId nestedOwner)
  let firstTick ← readU32 packet 18 "GameSlot item pickup tick"
  let secondTick ← readU32 packet 22 "GameSlot item pickup tick"
  let operationTick ← readU32 packet 69 "GameSlot item pickup operation tick"
  if packetType = 1 then do
    require (objectId &&& 0xffffff00 = 0xf0000000) (.invalidType1PickupObjectId objectId)
    require (firstTick = operationTick)
      (.invalidPickupTick packetType "first" firstTick operationTick)
    let expectedSecond := (firstTick + 1500) % 2 ^ 32
    require (secondTick = expectedSecond)
      (.invalidPickupTick packetType "second" secondTick expectedSecond)
    return (.type1, ⟨objectId, operationTick⟩)
  else do
    require (objectId = 0x00ffffff) (.invalidType2PickupObjectId objectId)
    require (secondTick = firstTick)
      (.invalidPickupTick packetType "second" secondTick firstTick)
    return (.type2, ⟨objectId, operationTick⟩)

/-- `parse_item_pickup`. -/
def parseItemPickup (packet : Bytes) (packetType playerId mask : Nat) : Parsing Decoded := do
  ensureMinimum packet "GameSlot item pickup" 49
  validateMask packetType mask 0 .allBitsSet
  let declared ← readU32 packet 45 "GameSlot item pickup"
  let blob ← validateBlob packet packetType 49 declared
  require (blob.length = pickupBlobLength) (.invalidPickupBlobLength blob.length pickupBlobLength)
  let operationHash ← readU32 packet 49 "GameSlot item pickup operation"
  let operationBaseHash ← readU32 packet 53 "GameSlot item pickup operation"
  require (operationHash = gopCubeHash ∧ operationBaseHash = goItemCubeHash)
    (.unsupportedPickupOperation operationHash operationBaseHash)
  let (kind, token) ← parseItemPickupToken packet packetType playerId
  let position ← readPosition packet 26 "GameSlot item pickup position" .nonFinitePickupPosition
  let liveRank ← readI16 packet 38 "GameSlot item pickup live rank"
  return (.itemPickup ⟨kind, token, liveRank, position, blob⟩, .synthesizeItemPickup)

/-! ## Collections -/

/-- The operation pair of a kind of collection. -/
def WorldObjectCollectionKind.expectedPair : WorldObjectCollectionKind → Nat × Nat
  | lucci => (gopLucciHash, goLucciHash)
  | bonusItem => (gopBonusItemHash, goBonusItemHash)

/-- `parse_world_object_collection`. -/
def parseWorldObjectCollection (packet : Bytes) (packetType playerId mask : Nat) :
    Parsing Decoded := do
  ensureMinimum packet "GameSlot world-object collection" 44
  validateMask packetType mask playerId .allBitsSet
  let declared ← readU32 packet 40 "GameSlot world-object collection"
  let blob ← validateBlob packet packetType 44 declared
  require (blob.length = 25) (.invalidCollectionBlobLength packetType blob.length 25)
  let kind := if packetType = 4 then WorldObjectCollectionKind.lucci else .bonusItem
  let operationHash ← readU32 packet 44 "collection operation hash"
  let operationBaseHash ← readU32 packet 48 "collection base-operation hash"
  require ((operationHash, operationBaseHash) = kind.expectedPair)
    (.invalidCollectionOperation packetType operationHash operationBaseHash)
  let outerObjectId ← readU32 packet 14 "collection outer object ID"
  let nestedObjectId ← readU32 packet 52 "collection nested object ID"
  require (outerObjectId ≠ u32Max ∧ nestedObjectId ≠ u32Max) (.missingCollectionObjectId packetType)
  require (outerObjectId = nestedObjectId)
    (.collectionObjectIdMismatch packetType outerObjectId nestedObjectId)
  let state ← readU32 packet 56 "collection state"
  require (state = 1) (.invalidCollectionState packetType state)
  let collector ← readI32 packet 60 "collection collector ID"
  let collectorId ← okOr (.drop (.invalidCollectionCollector packetType collector))
    (playerIdOf collector)
  let position ← readPosition packet 26 "collection position"
    (.nonFiniteCollectionPosition packetType)
  let currentTick ← readU32 packet 18 "collection current tick"
  let expiryTick ← readU32 packet 22 "collection expiry tick"
  let trailingWord ← readU16 packet 38 "collection trailing word"
  let operationTick ← readU32 packet 64 "collection operation tick"
  let variant ← index packet 68
  return (.worldObjectCollection ⟨kind, outerObjectId, currentTick, expiryTick, position,
      trailingWord, collectorId, operationTick, variant, blob⟩,
    .evidencePending (.worldObjectCollectionAuthorization kind))

/-! ## Team flags -/

/-- The kind of a type, its state and the length of its body. The parser is dispatched for these
three types only. -/
def teamFlagShape : Nat → Parsing (TeamFlagTransitionKind × Nat × Nat)
  | 5 => .ok (.pickupAttach, 1, 24)
  | 7 => .ok (.dropRelocate, 3, 32)
  | 8 => .ok (.returnReset, 4, 32)
  | _ => .error .panic

/-- `read_finite_team_flag_position`. -/
def readFiniteTeamFlagPosition (packet : Bytes) (packetType offset axisBase : Nat) :
    Parsing Position :=
  readPosition packet offset "team-flag position" fun axis =>
    .nonFiniteTeamFlagPosition packetType (axisBase + axis)

/-- `parse_team_flag_variant_fields`: carrier, tick and position. -/
def parseTeamFlagVariantFields (packet : Bytes) (packetType : Nat) (payloadOffset : Nat) :
    TeamFlagTransitionKind → Parsing (Option Nat × Nat × Option Position)
  | .pickupAttach => do
    let carrier ← readI32 packet (payloadOffset + 16) "team-flag carrier ID"
    let carrierId ← okOr (.drop (.invalidTeamFlagCarrier packetType carrier)) (playerIdOf carrier)
    let tick ← readU32 packet (payloadOffset + 20) "team-flag pickup tick"
    return (some carrierId, tick, none)
  | .dropRelocate => do
    let tick ← readU32 packet (payloadOffset + 28) "team-flag drop tick"
    let position ← readFiniteTeamFlagPosition packet packetType (payloadOffset + 16) 3
    return (none, tick, some position)
  | .returnReset => do
    let tick ← readU32 packet (payloadOffset + 16) "team-flag return tick"
    let position ← readFiniteTeamFlagPosition packet packetType (payloadOffset + 20) 3
    return (none, tick, some position)

/-- `parse_team_flag_transition`. -/
def parseTeamFlagTransition (packet : Bytes) (packetType mask : Nat) : Parsing Decoded := do
  ensureMinimum packet "GameSlot team-flag transition" 44
  validateMask packetType mask 0 .allBitsSet
  let declared ← readU32 packet 40 "GameSlot team-flag transition"
  let payload ← validateBlob packet packetType 44 declared
  let (kind, expectedState, expectedLength) ← teamFlagShape packetType
  require (payload.length = expectedLength)
    (.invalidTeamFlagBlobLength packetType payload.length expectedLength)
  let operationHash ← readU32 packet 44 "team-flag operation hash"
  let operationBaseHash ← readU32 packet 48 "team-flag base hash"
  require (operationHash = gopTeamFlagHash ∧ operationBaseHash = goTeamFlagHash)
    (.invalidTeamFlagOperation packetType operationHash operationBaseHash)
  let objectId ← readU32 packet 14 "team-flag outer object ID"
  let nestedObjectId ← readU32 packet 52 "team-flag nested object ID"
  require (objectId = nestedObjectId)
    (.teamFlagObjectIdMismatch packetType objectId nestedObjectId)
  let state ← readU32 packet 56 "team-flag state"
  require (state = expectedState) (.invalidTeamFlagState packetType state expectedState)
  let outerPosition ← readFiniteTeamFlagPosition packet packetType 26 0
  let (carrierId, transitionTick, transitionPosition) ←
    parseTeamFlagVariantFields packet packetType 44 kind
  let currentTick ← readU32 packet 18 "team-flag current tick"
  let expiryTick ← readU32 packet 22 "team-flag expiry tick"
  let trailingWord ← readU16 packet 38 "team-flag trailing word"
  return (.teamFlagTransition ⟨kind, objectId, currentTick, expiryTick, outerPosition,
      trailingWord, carrierId, transitionTick, transitionPosition, payload⟩,
    .evidencePending (.teamFlagAuthorization kind))

/-! ## Items -/

/-- `parse_item_vector`. -/
def parseItemVector (packet : Bytes) (playerId mask : Nat) : Parsing Decoded := do
  ensureMinimum packet "GameSlot item vector" 28
  validateMask 9 mask playerId .nonzeroLowSixteenBitsIncludingSender
  let declared ← readU32 packet 16 "GameSlot item vector"
  let payload ← validateBlob packet 9 20 declared
  let payloadHash ← readU32 packet 20 "GameSlot item vector payload"
  require (payloadHash = gameKartItemInfoHash) (.unexpectedItemVectorHash payloadHash)
  let count ← readU32 packet 24 "GameSlot item vector count"
  require (count ≤ 3) (.itemVectorCountOverCap count)
  let expected := 8 + count * 4
  require (payload.length = expected) (.invalidItemVectorLength count declared expected)
  let items ← (List.range count).mapM fun i =>
    readU32 packet (28 + i * 4) "GameSlot item vector item"
  return (.itemVector ⟨items ++ List.replicate (3 - count) 0, count, payload⟩,
    .relayOriginal .recipientMaskExceptSender)

/-- `parse_item_use`. -/
def parseItemUse (packet : Bytes) (packetType playerId mask : Nat) : Parsing Decoded := do
  ensureMinimum packet "GameSlot item use" 26
  validateMask packetType mask playerId .lowSixteenBitsExcludingSender
  let declared ← readU32 packet 22 "GameSlot item use"
  let blob ← validateBlob packet packetType 26 declared
  let kind := if packetType = 10 then ItemUseKind.ordinary else .spawnedWorldObject
  let rawByte13 ← index packet 13
  let status ← readU16 packet 14 "GameSlot item use status"
  let itemOrSkill ← readU16 packet 16 "GameSlot item use item/skill"
  let rawByte18 ← index packet 18
  let rawByte19 ← index packet 19
  let ancillaryEffectCode ← readU16 packet 20 "GameSlot item-use ancillary effect"
  return (.itemUse ⟨kind, rawByte13, status, itemOrSkill, rawByte18, rawByte19,
      ancillaryEffectCode, blob⟩,
    .relayOriginal .recipientMaskExceptSender)

/-- `parse_item_reaction`. -/
def parseItemReaction (packet : Bytes) (playerId mask : Nat) : Parsing Decoded := do
  ensureMinimum packet "GameSlot item reaction" 23
  validateMask 11 mask playerId .nonzeroLowSixteenBitsExcludingSender
  let declared ← readU32 packet 19 "GameSlot item reaction"
  let blob ← validateBlob packet 11 23 declared
  let uni ← index packet 13
  let skill ← readI16 packet 14 "GameSlot item reaction skill"
  return (.itemReaction ⟨uni, skill, blob⟩, .relayOriginal .recipientMaskExceptSender)

/-! ## Karts and dashboards -/

def kartSnapshotKind (nestedHash : Nat) : Option KartSnapshotKind :=
  if nestedHash = gameKartPacketHash then some .fullPrecision
  else if nestedHash = gameKartQuadPacketHash then some .quantizedQuad
  else none

/-- The length that the flags ask for. -/
def KartSnapshotKind.expectedLength (kind : KartSnapshotKind) (flags : Nat × Nat × Nat) : Nat :=
  let (baseLength, secondaryOrientation, optionalScalar) :=
    match kind with
    | fullPrecision => (116, 16, 4)
    | quantizedQuad => (76, 4, 2)
  baseLength + (if flags.2.1 &&& 0x07 ≠ 0 then secondaryOrientation else 0) +
    (if flags.1 &&& 0x04 ≠ 0 then optionalScalar else 0) +
    (if flags.1 &&& 0x08 ≠ 0 then optionalScalar else 0)

/-- `parse_kart_snapshot`. -/
def parseKartSnapshot (packet : Bytes) (playerId mask : Nat) : Parsing Decoded := do
  ensureMinimum packet "GameSlot kart snapshot" 31
  validateMask 17 mask playerId .nonzeroLowSixteenBitsExcludingSender
  let reservedWord ← readU16 packet 14 "GameSlot kart snapshot reserved word"
  require (reservedWord = 0) (.invalidKartSnapshotReservedWord reservedWord)
  let declared ← readU32 packet 16 "GameSlot kart snapshot payload length"
  let payload ← validateBlob packet 17 20 declared
  let nestedHash ← readU32 packet 20 "GameSlot kart snapshot hash"
  let kind ← okOr (.drop (.unexpectedKartSnapshotHash nestedHash)) (kartSnapshotKind nestedHash)
  let flags := (← index packet 28, ← index packet 29, ← index packet 30)
  let expected := kind.expectedLength flags
  require (payload.length = expected) (.invalidKartSnapshotLength kind payload.length expected)
  let common ← index packet 13
  let objectId ← readU32 packet 24 "GameSlot kart snapshot object ID"
  return (.kartSnapshot ⟨kind, common, objectId, flags, payload⟩,
    .relayOriginal .recipientMaskExceptSender)

/-- `parse_dashboard_allocation_notice`. -/
def parseDashboardAllocationNotice (packet : Bytes) (playerId mask : Nat) : Parsing Decoded := do
  ensureMinimum packet "GameSlot dashboard allocation" 20
  validateMask 13 mask playerId .lowSixteenBitsExcludingSender
  let reservedWord ← readU16 packet 14 "GameSlot dashboard allocation reserved word"
  require (reservedWord = 0) (.invalidDashboardAllocationReservedWord reservedWord)
  let declared ← readU32 packet 16 "GameSlot dashboard allocation payload length"
  let payload ← validateBlob packet 13 20 declared
  require (payload.length = 0) (.invalidDashboardAllocationBodyLength payload.length)
  let rawByte13 ← index packet 13
  return (.dashboardAllocationNotice ⟨rawByte13, payload⟩, .consumeNoReply)

/-! ## Item operations -/

/-- `validate_barricade_placement_owner`. -/
def validateBarricadePlacementOwner (packet : Bytes) (playerId : Nat) : Parsing Unit := do
  let ownerId ← readI32 packet 37 "GameSlot barricade owner"
  require (ownerId = playerId) (.invalidBarricadePlacementOwner playerId ownerId)

/-- `parse_barricade_placement`. -/
def parseBarricadePlacement (packet : Bytes) (playerId : Nat) : Parsing BarricadePlacement := do
  validateBarricadePlacementOwner packet playerId
  let reserved ← readU32 packet 41 "GameSlot barricade reserved field"
  require (reserved = 0) (.invalidBarricadeReserved reserved)
  let transform ← (List.range 12).mapM fun i => do
    let value ← readF32 packet (45 + i * 4) "GameSlot barricade transform"
    require (isFinite value) (.nonFiniteBarricadeTransform i)
    return value
  let objectId ← readU32 packet 28 "GameSlot barricade object ID"
  let tick ← readU32 packet 33 "GameSlot barricade tick"
  return ⟨objectId, tick, playerId, transform⟩

/-- `parse_barricade_transition`. -/
def parseBarricadeTransition (packet : Bytes) (state : Nat) : Parsing BarricadeTransition := do
  let claimed ← readI32 packet 37 "GameSlot barricade transition owner"
  let ownerId ← okOr (.drop (.invalidBarricadeTransitionOwner claimed)) (playerIdOf claimed)
  let objectId ← readU32 packet 28 "GameSlot barricade transition object ID"
  require (state < 256)
    (.itemOperationValidation (.invalidLength .gopBarricade state (packet.length - 20) 25))
  let tick ← readU32 packet 33 "GameSlot barricade transition tick"
  let trailing ← readU32 packet 41 "GameSlot barricade transition trailing word"
  return ⟨objectId, state, tick, ownerId, trailing⟩

/-- The world object of a barricade's state. -/
def parseBarricade (packet : Bytes) (playerId state : Nat) :
    Parsing (Option BarricadeOperation) :=
  match state with
  | 1 => do return some (.placement (← parseBarricadePlacement packet playerId))
  | 2 | 3 | 4 => do return some (.transition (← parseBarricadeTransition packet state))
  | _ => .ok none

/-- `parse_item_operation`. Barricades obey their schema; other known pairs are relayed as they
are, with a meaning where their schema describes the body. -/
def parseItemOperation (packet : Bytes) (playerId mask : Nat) : Parsing Decoded := do
  ensureMinimum packet "GameSlot item operation" 28
  validateMask 12 mask playerId .lowSixteenBits
  let reservedWord ← readU16 packet 14 "GameSlot item operation reserved word"
  require (reservedWord = 0) (.invalidItemOperationReservedWord reservedWord)
  let declared ← readU32 packet 16 "GameSlot item operation"
  let payload ← validateBlob packet 12 20 declared
  let operationHash ← readU32 packet 20 "GameSlot item operation hash"
  let operationBaseHash ← readU32 packet 24 "GameSlot item base-operation hash"
  let schema := itemOperationSchema operationHash operationBaseHash
  require (schema.isSome ∨ isKnownItemOperationPair operationHash operationBaseHash)
    (.unsupportedItemOperation operationHash operationBaseHash)
  let stop ← okOr (.drop (.blobLengthOverCap 12 declared maxGameSlotBlobLength))
    (MyRoom.checkedAdd payload.offset payload.length)
  let raw ← okOr (.drop (.blobLengthMismatch 12 declared (packet.length - payload.offset)))
    (bytesAt packet ⟨payload.offset, stop - payload.offset⟩)
  if operationHash = gopBarricadeHash then do
    let schema ← okOr .panic schema
    let validated ← (schema.validate raw).mapError fun error =>
      .drop (.itemOperationValidation error)
    let barricade ← parseBarricade packet playerId validated.state
    return (.itemOperation ⟨operationHash, operationBaseHash, schema, validated.objectId,
        validated.state, validated.evidence, decodeItemOperationSemantics validated raw, barricade,
        payload⟩,
      .relayOriginal .allRacePeersMaskMatch)
  else
    match schema.bind fun schema => (schema.validate raw).toOption with
    | some validated =>
      return (.itemOperation ⟨operationHash, operationBaseHash, validated.schema,
          validated.objectId, validated.state, validated.evidence,
          decodeItemOperationSemantics validated raw, none, payload⟩,
        .relayOriginal .allRacePeersMaskMatch)
    | none =>
      return (.boundedItemOperation ⟨operationHash, operationBaseHash, schema, payload⟩,
        .relayOriginal .allRacePeersMaskMatch)

/-! ## Packets -/

/-- The parser of a type. -/
def parseBody (packet : Bytes) (packetType playerId mask : Nat) : Parsing Decoded :=
  match packetType with
  | 1 | 2 => parseItemPickup packet packetType playerId mask
  | 4 | 6 => parseWorldObjectCollection packet packetType playerId mask
  | 5 | 7 | 8 => parseTeamFlagTransition packet packetType mask
  | 9 => parseItemVector packet playerId mask
  | 10 | 16 => parseItemUse packet packetType playerId mask
  | 11 => parseItemReaction packet playerId mask
  | 12 => parseItemOperation packet playerId mask
  | 13 => parseDashboardAllocationNotice packet playerId mask
  | 17 => parseKartSnapshot packet playerId mask
  | unsupported => .error (.drop (.unsupportedType unsupported))

/-- `parse_game_slot_packet`. -/
def parseGameSlotPacket (packet : Bytes) : Parsing ParsedGameSlotPacket := do
  ensureMinimum packet "GameSlotPacket" commonEnvelopeLength
  require (packet.length ≤ maxGameSlotLogicalLength)
    (.logicalLengthOverCap packet.length maxGameSlotLogicalLength)
  let actualHash ← readU32 packet 0 "GameSlotPacket"
  require (actualHash = gameSlotPacketHash) (.unexpectedPacketHash gameSlotPacketHash actualHash)
  let claimedPlayerId ← readI32 packet 4 "GameSlotPacket"
  let playerId ← okOr (.drop (.invalidPlayerId claimedPlayerId)) (playerIdOf claimedPlayerId)
  let itemOrRecipientMask ← readU32 packet 8 "GameSlotPacket"
  let packetType ← index packet 12
  let (body, action) ← parseBody packet packetType playerId itemOrRecipientMask
  return ⟨packet, playerId, itemOrRecipientMask, body, action⟩

/-! ## Awards -/

inductive GameSlotSynthesisError
  | invalidItemId (itemId : Int)
  | notItemPickup
  | pickupInvariant (actual minimum : Nat)
  deriving DecidableEq

/-- The bytes of an `i16`. -/
def i16LeBytes (value : Int) : Bytes := leBytes 2 (twosComplement 2 value)

/-- `into_item_pickup_award`: the request again, with the item and an accepting status. -/
def ParsedGameSlotPacket.intoItemPickupAward (parsed : ParsedGameSlotPacket) (itemId : Int) :
    Except GameSlotSynthesisError Bytes :=
  if itemId ≤ 0 then .error (.invalidItemId itemId)
  else if parsed.action ≠ .synthesizeItemPickup ∨ parsed.body.isItemPickup = false then
    .error .notItemPickup
  else if parsed.raw.length ≤ 40 then .error (.pickupInvariant parsed.raw.length 41)
  else .ok (parsed.raw.take 38 ++ i16LeBytes itemId ++ [1] ++ parsed.raw.drop 41)

/-- The id of the cube that a direct award comes from. -/
def syntheticCubeId : Nat := 0xF00000FF

/-- `serialize_direct_item_award`. -/
def serializeDirectItemAward (playerId : Nat) (itemId : Int) (tick : Nat) : Bytes :=
  leBytes 4 gameSlotPacketHash ++ leBytes 4 playerId ++ leBytes 4 u32Max ++ [1, 0] ++
    leBytes 4 syntheticCubeId ++ leBytes 4 tick ++ leBytes 4 ((tick + 1500) % 2 ^ 32) ++
    List.replicate 12 0 ++ i16LeBytes itemId ++ [1] ++ leBytes 4 0x0000FFFF ++
    leBytes 4 pickupBlobLength ++ leBytes 4 gopCubeHash ++ leBytes 4 goItemCubeHash ++
    leBytes 4 syntheticCubeId ++ leBytes 4 1 ++ leBytes 4 playerId ++ leBytes 4 tick

end P4475.GameSlot
