import P4475.GameSlot.ItemSchema
import P4475.Lib.Chunks

/-!
# What item operations mean

Each class reads its own fields of a validated body, by state. The decoders of the source differ in
the places they read and in a few conditions only, so a state of a class has a `Layout`, which says
what is read where, and `Layout.decode` reads it.
-/

namespace P4475.GameSlot

open Lib
open MyRoom (checkedAdd checkedMul)

inductive ItemSemanticEvidence
  | unresolved
  | staticConsumer
  | producerAndConsumer
  | retainedTraceCorrelated
  deriving DecidableEq

inductive ItemLifecycleMeaning
  | unknown | initialise | place | launch | activate | impact | resolve | retarget | remove
  | rebindSource | respawn | updateRuntimeFlag | noClientAction
  deriving DecidableEq

/-- The target list of a body. -/
structure ItemObjectIdList where
  rawOffset : Nat
  count : Nat
  deriving DecidableEq

structure ItemOperationSemantics where
  meaning : ItemLifecycleMeaning
  nativePhase : Option Nat
  sourceObjectId : Option Nat
  targetObjectId : Option Nat
  targetObjectIds : Option ItemObjectIdList
  transitionToken : Option Nat
  variant : Option Nat
  effectItemId : Option Nat
  evidence : ItemSemanticEvidence
  deriving DecidableEq

/-- `ItemOperationSemantics::unknown`. -/
def ItemOperationSemantics.unknown : ItemOperationSemantics :=
  ⟨.unknown, none, none, none, none, none, none, none, .unresolved⟩

/-! ## Reads -/

def byte (raw : Bytes) (offset : Nat) : Option Nat := numberAt raw ⟨offset, 1⟩

def u16At (raw : Bytes) (offset : Nat) : Option Nat := numberAt raw ⟨offset, 2⟩

def u32At (raw : Bytes) (offset : Nat) : Option Nat := numberAt raw ⟨offset, 4⟩

/-- `object_id`: all bits set stand for no object. -/
def objectId (raw : Bytes) (offset : Nat) : Option Nat :=
  (u32At raw offset).filter (· ≠ u32Max)

/-- `byte(raw, offset).is_some_and(|flag| flag != 0)`. -/
def hasFlag (raw : Bytes) (offset : Nat) : Bool := (byte raw offset).any (· ≠ 0)

/-- `object_id_list`. -/
def objectIdList (raw : Bytes) (countOffset rawOffset : Nat) : Option ItemObjectIdList := do
  let count ← u32At raw countOffset
  let byteLength ← checkedMul count 4
  let stop ← checkedAdd rawOffset byteLength
  if raw.length < stop then none else some ⟨rawOffset, count⟩

/-- `ItemObjectIdList::decode`. -/
def ItemObjectIdList.decode (list : ItemObjectIdList) (raw : Bytes) : Option (List Nat) := do
  let byteLength ← checkedMul list.count 4
  let stop ← checkedAdd list.rawOffset byteLength
  if raw.length < stop then none
  else some ((chunks 4 ((raw.drop list.rawOffset).take byteLength)).map leValue)

/-! ## Layouts -/

/-- Where an id is. -/
inductive IdField
  | absent
  | id (offset : Nat)
  /-- Only with a flag byte set. -/
  | flagged (flag offset : Nat)
  /-- Only with one value of a byte. -/
  | selected (selector value offset : Nat)
  /-- Any dword, behind elements that are counted. -/
  | behind (count first width : Nat)

/-- Where a counted dword is. -/
def behindOffset (raw : Bytes) (count first width : Nat) : Option Nat := do
  let size ← checkedMul (← u32At raw count) width
  checkedAdd first size

def IdField.read (raw : Bytes) : IdField → Option Nat
  | absent => none
  | id offset => objectId raw offset
  | flagged flag offset => if hasFlag raw flag then objectId raw offset else none
  | selected selector value offset =>
    if byte raw selector = some value then objectId raw offset else none
  | behind count first width => (behindOffset raw count first width).bind (u32At raw ·)

inductive MeaningField
  | always (meaning : ItemLifecycleMeaning)
  | flagged (flag : Nat) (set clear : ItemLifecycleMeaning)

def MeaningField.read (raw : Bytes) : MeaningField → ItemLifecycleMeaning
  | always meaning => meaning
  | flagged flag set clear => if hasFlag raw flag then set else clear

inductive PhaseField
  | absent
  | fixed (phase : Nat)
  | flagged (flag : Nat) (set clear : Option Nat)
  /-- One phase if the byte is zero, another if it is not. -/
  | byVariant (offset onZero other : Nat)

def PhaseField.read (raw : Bytes) : PhaseField → Option Nat
  | absent => none
  | fixed phase => some phase
  | flagged flag set clear => if hasFlag raw flag then set else clear
  | byVariant offset onZero other =>
    (byte raw offset).map fun variant => if variant = 0 then onZero else other

/-- `u8::try_from(state).ok()` as a phase. -/
def PhaseField.ofState (state : Nat) : PhaseField := if state < 256 then .fixed state else .absent

inductive VariantField
  | absent
  | byte (offset : Nat)
  /-- A dword that fits a byte. -/
  | narrow (offset : Nat)
  | last

def VariantField.read (raw : Bytes) : VariantField → Option Nat
  | absent => none
  | byte offset => GameSlot.byte raw offset
  | narrow offset => (u32At raw offset).filter (· < 256)
  | last => raw.getLast?.map UInt8.toNat

inductive EffectField
  | item (itemId : Nat)
  | word (offset : Nat)
  /-- The item that a byte stands for. -/
  | byVariant (offset : Nat) (items : List (Nat × Nat))

def EffectField.read (raw : Bytes) : EffectField → Option Nat
  | item itemId => some itemId
  | word offset => u16At raw offset
  | byVariant offset items => (GameSlot.byte raw offset).bind (items.lookup ·)

/-- What `semantic` gets from a body. -/
structure SemanticRow where
  meaning : MeaningField
  phase : PhaseField
  source : IdField
  target : IdField
  token : IdField
  variant : VariantField
  evidence : ItemSemanticEvidence
  /-- Where the targets are counted, and where they start. -/
  targets : Option (Nat × Nat) := none

def SemanticRow.decode (row : SemanticRow) (raw : Bytes) : ItemOperationSemantics where
  meaning := row.meaning.read raw
  nativePhase := row.phase.read raw
  sourceObjectId := row.source.read raw
  targetObjectId := row.target.read raw
  targetObjectIds := row.targets.bind fun (count, first) => objectIdList raw count first
  transitionToken := row.token.read raw
  variant := row.variant.read raw
  effectItemId := none
  evidence := row.evidence

/-- What a state of a class reads. -/
inductive Layout
  | unknown
  | row (entry : SemanticRow)
  /-- The first row if these ids are there. -/
  | needs (ids : List Nat) (entry otherwise : SemanticRow)
  /-- With the item of a kind, unless a word overrides it; unknown if the kind has none. -/
  | ofKind (kind : Nat) (override : Option Nat) (entry : SemanticRow)
  | withEffect (effect : EffectField) (layout : Layout)

/-- The item of a shield's kind. -/
def kindItem : Nat → Option Nat
  | 0 => some 36
  | 3 => some 81
  | _ => none

/-- The item of a shield. -/
def shieldItem (raw : Bytes) (kind : Nat) (override : Option Nat) : Option Nat :=
  (u32At raw kind).bind fun kind =>
    if override.any fun offset => u16At raw offset = some 106 then some 106 else kindItem kind

def Layout.decode (raw : Bytes) : Layout → ItemOperationSemantics
  | unknown => .unknown
  | row entry => entry.decode raw
  | needs ids entry otherwise =>
    if ids.all fun offset => (objectId raw offset).isSome then entry.decode raw
    else otherwise.decode raw
  | ofKind kind override entry =>
    match shieldItem raw kind override with
    | none => .unknown
    | some item => { entry.decode raw with effectItemId := some item }
  | withEffect effect layout => { layout.decode raw with effectItemId := effect.read raw }

/-- `semantic`. -/
def semantic (meaning : ItemLifecycleMeaning) (phase : PhaseField)
    (source target token : IdField) (variant : VariantField) (evidence : ItemSemanticEvidence) :
    Layout := .row ⟨.always meaning, phase, source, target, token, variant, evidence, none⟩

/-- `semantic`, with a meaning and a phase that a flag byte selects. -/
def semanticOn (flag : Nat) (set clear : ItemLifecycleMeaning × Option Nat)
    (source target token : IdField) (variant : VariantField) (evidence : ItemSemanticEvidence) :
    Layout :=
  .row ⟨.flagged flag set.1 clear.1, .flagged flag set.2 clear.2, source, target, token, variant,
    evidence, none⟩

/-- `explicit_no_client_action`. -/
def explicitNoClientAction : Layout :=
  semantic .noClientAction .absent .absent .absent .absent .absent .staticConsumer

/-- `with_effect_item_id`. -/
def withEffectItemId (layout : Layout) (itemId : Nat) : Layout := .withEffect (.item itemId) layout

/-! ## Classes -/

inductive RocketVariantFollowup
  | throughState7
  | throughState9
  | throughState10
  deriving DecidableEq

inductive BombPhase4Source
  | auxiliary
  | target

def BombPhase4Source.offset : BombPhase4Source → Nat
  | auxiliary => 24
  | target => 20

def contactHazardFollowup (state stateTwoPhase stateThreePhase : Nat)
    (sourceOffset : Option Nat) : Layout :=
  let set := if state = 2 then (ItemLifecycleMeaning.impact, some stateTwoPhase)
    else (.resolve, some stateThreePhase)
  semanticOn 28 set (.remove, none) ((sourceOffset.map (IdField.flagged 28)).getD .absent)
    (.flagged 28 24) (.id 20) (.byte 28) .producerAndConsumer

def bossPrison : Nat → Layout
  | 1 => semantic .launch (.fixed 0) (.id 20) (.id 24) (.id 16) (.byte 28) .producerAndConsumer
  | 2 => semantic .impact .absent .absent .absent .absent .absent .producerAndConsumer
  | 3 => semantic .resolve (.fixed 3) .absent .absent (.id 64) .absent .producerAndConsumer
  | 4 => semantic .remove .absent .absent .absent .absent .absent .producerAndConsumer
  | _ => .unknown

def boundRoad : Nat → Layout
  | 1 => semantic .place (.fixed 0) (.id 53) .absent (.id 20) (.byte 62) .producerAndConsumer
  | 2 => contactHazardFollowup 2 2 5 none
  | 3 => contactHazardFollowup 3 2 5 none
  | _ => .unknown

def falling : Nat → Layout
  | 1 => semantic .launch (.fixed 0) (.id 85) .absent (.id 20) (.byte 90) .producerAndConsumer
  | 2 => contactHazardFollowup 2 3 5 (some 29)
  | 3 => contactHazardFollowup 3 3 5 (some 29)
  | _ => .unknown

/-- Raw 12 is no state here; the token stands behind the counted name. -/
def course : Layout :=
  semantic .noClientAction .absent .absent (.id 12) (.behind 16 20 2) .absent .producerAndConsumer

def pirateBomb : Nat → Layout
  | 1 => semantic .activate (.fixed 0) (.id 20) (.id 24) (.id 16) .absent .producerAndConsumer
  | 2 => semantic .impact (.fixed 2) .absent (.id 24) (.id 16) .absent .producerAndConsumer
  | 3 => semantic .remove (.fixed 3) (.id 20) (.id 24) (.id 16) .absent .producerAndConsumer
  | 4 => semantic .resolve (.fixed 4) (.id 24) (.id 24) (.id 16) .absent .producerAndConsumer
  | _ => .unknown

def balloon : Nat → Layout
  | 1 => semantic .activate (.fixed 1) .absent .absent (.id 16) (.byte 20) .producerAndConsumer
  | 2 => semantic .updateRuntimeFlag .absent .absent .absent .absent .absent .producerAndConsumer
  | _ => .unknown

def headBand : Nat → Layout
  | 1 => semantic .activate (.fixed 1) .absent .absent (.id 16) (.byte 20) .producerAndConsumer
  | 2 => semantic .updateRuntimeFlag .absent .absent .absent .absent .absent .producerAndConsumer
  | _ => .unknown

def targetedPhaseThreeEffect : Nat → Layout
  | 1 => semantic .activate (.fixed 0) (.id 20) (.id 24) (.id 16) (.byte 28) .producerAndConsumer
  | 2 => semantic .impact (.fixed 3) (.id 20) (.id 24) (.id 16) (.byte 28) .producerAndConsumer
  | _ => .unknown

def press : Nat → Layout
  | 1 => semantic .place (.fixed 0) (.id 20) .absent (.id 16) .absent .producerAndConsumer
  | 2 => semantic .impact (.fixed 5) (.id 20) (.id 24) (.id 16) .absent .producerAndConsumer
  | _ => .unknown

def spatialTargetEffect (impactNativePhase : Nat) : Nat → Layout
  | 1 => semantic .place (.fixed 0) (.id 20) .absent (.id 16) .absent .producerAndConsumer
  | 2 => semantic .unknown (.fixed impactNativePhase) .absent (.id 20) (.id 16) .absent
      .producerAndConsumer
  | _ => .unknown

def actorBoundNativePhase (nativePhase : Nat) : Layout :=
  semantic .unknown (.ofState nativePhase) (.id 24) (.id 20) (.id 16) .absent .producerAndConsumer

def eventObject : Layout :=
  semantic .unknown .absent .absent (.id 12) (.id 16) .absent .producerAndConsumer

def targetKart : Nat → Layout
  | 2 => semantic .noClientAction .absent .absent .absent .absent .absent .producerAndConsumer
  | _ => .unknown

def block : Nat → Layout
  | 1 => semantic .place (.fixed 0) (.id 24) .absent (.id 20) (.byte 88) .producerAndConsumer
  | 2 => semanticOn 28 (.impact, some 3) (.resolve, some 4) .absent (.flagged 28 24) (.id 20)
      (.byte 28) .producerAndConsumer
  | _ => .unknown

def boundWall : Nat → Layout
  | 1 => semantic .place (.fixed 0) (.id 24) .absent (.id 20) (.byte 136) .producerAndConsumer
  | 2 => semanticOn 28 (.impact, some 2) (.remove, none) .absent (.flagged 28 24) (.id 20) (.byte
      28) .producerAndConsumer
  | 3 => semanticOn 28 (.resolve, some 3) (.remove, none) .absent (.flagged 28 24) (.id 20) (.byte
      28) .producerAndConsumer
  | _ => .unknown

def cube : Nat → Layout
  | 1 => semantic .impact .absent .absent (.id 16) (.id 20) .absent .producerAndConsumer
  | 2 => semantic .noClientAction .absent .absent .absent .absent .absent .staticConsumer
  | _ => .unknown

def cubeForBoss : Nat → Layout
  | 0 => semantic .place (.fixed 0) .absent .absent .absent (.byte 68) .producerAndConsumer
  | 1 => semantic .impact .absent .absent (.id 69) (.id 73) .absent .producerAndConsumer
  | _ => .unknown

def angel : Nat → Layout
  | 0 => semantic .activate (.fixed 0) (.id 21) .absent (.id 16) (.byte 20) .producerAndConsumer
  | 2 => semantic .impact (.fixed 2) (.id 20) (.id 24) (.id 16) .absent .producerAndConsumer
  | _ => .unknown

/-- In the other states the kind is read, too, but all that follows is unknown. -/
def goldShield : Nat → Layout
  | 0 => .ofKind 24 none ⟨.always .activate, .fixed 0, .id 20, .absent, .id 16, .narrow 24,
      .producerAndConsumer, none⟩
  | 2 => .ofKind 28 (some 32) ⟨.always .impact, .fixed 2, .id 20, .id 24, .id 16, .narrow 28,
      .producerAndConsumer, none⟩
  | _ => .unknown

def emp : Nat → Layout
  | 0 => semantic .activate (.fixed 0) (.id 22) .absent (.id 16) (.byte 20) .producerAndConsumer
  | _ => .unknown

def icefly : Nat → Layout
  | 1 => semantic .launch (.fixed 0) (.id 20) (.id 24) (.id 16) (.byte 77) .producerAndConsumer
  | _ => .unknown

def scanning : Nat → Layout
  | 1 => semantic .activate (.fixed 0) (.id 16) (.id 24) (.id 20) (.byte 28) .producerAndConsumer
  | _ => .unknown

def slotLock : Nat → Layout
  | 1 => semantic .activate (.fixed 0) (.id 16) .absent (.id 24) (.byte 28) .producerAndConsumer
  | 2 => semantic .impact (.fixed 1) (.id 16) (.id 20) (.id 24) (.byte 28) .producerAndConsumer
  | _ => .unknown

def ghost : Nat → Layout
  | 1 => semantic .activate (.fixed 0) (.id 20) (.id 24) (.id 16) (.byte 28) .producerAndConsumer
  | _ => .unknown

def specialSiren : Nat → Layout
  | 0 => semantic .activate .absent (.id 21) .absent (.id 16) (.byte 20) .producerAndConsumer
  | _ => .unknown

def spaceCraft : Nat → Layout
  | 0 => semantic .launch (.fixed 0) (.id 24) (.id 20) (.id 16) (.byte 29) .producerAndConsumer
  | 2 => semantic .impact (.fixed 2) (.id 24) (.id 20) (.id 16) (.byte 28) .producerAndConsumer
  | 3 => semantic .resolve (.fixed 3) (.id 24) (.id 20) (.id 16) (.byte 28) .staticConsumer
  | 4 => semantic .resolve (.fixed 6) .absent (.id 20) (.id 16) (.byte 28) .producerAndConsumer
  | 5 => semantic .resolve (.fixed 5) (.id 24) (.id 20) (.id 16) (.byte 28) .producerAndConsumer
  | 7 => semantic .updateRuntimeFlag .absent .absent .absent .absent (.byte 16) .producerAndConsumer
  | _ => .unknown

def straightRocket : Nat → Layout
  | 1 => semantic .launch (.fixed 1) (.id 20) .absent (.id 16) (.byte 56) .producerAndConsumer
  | 2 | 3 => explicitNoClientAction
  | _ => .unknown

/-- The items of the two cloud classes, by their variant. -/
def cloudItems : ClassName → List (Nat × Nat)
  | .gopCloud => [(0, 0), (3, 1), (6, 43)]
  | .gopCloud2 => [(0, 114), (3, 115), (6, 116)]
  | _ => []

def cloud (className : ClassName) : Nat → Layout
  | 1 => .withEffect (.byVariant 24 (cloudItems className))
      (semantic .place (.fixed 0) (.id 20) .absent (.id 16) (.byte 24) .producerAndConsumer)
  | 2 => semantic .impact (.fixed 2) .absent (.id 16) .absent .absent .producerAndConsumer
  | _ => .unknown

def magnet : Nat → Layout
  | 1 => semantic .activate (.fixed 1) (.id 20) (.id 24) (.id 16) .absent .producerAndConsumer
  | _ => .unknown

def speedDown : Nat → Layout
  | 1 => semantic .activate (.fixed 0) .absent (.id 20) (.id 16) .absent .staticConsumer
  | 2 => semantic .remove (.fixed 2) .absent .absent (.id 16) .absent .staticConsumer
  | _ => .unknown

def devil (hasConditionalTarget : Bool) (evidence : ItemSemanticEvidence) : Nat → Layout
  | 1 => semantic .activate (.fixed 0) (.id 21)
      (if hasConditionalTarget then .selected 20 5 27 else .absent) (.id 16) (.byte 20) evidence
  | _ => .unknown

def forceZone : Nat → Layout
  | 1 => semantic .place (.fixed 0) (.id 68) .absent (.id 16) .absent .producerAndConsumer
  | 2 => semanticOn 24 (.impact, some 2) (.resolve, none) (.id 25) (.flagged 24 20) (.id 16) (.byte
      24) .producerAndConsumer
  | 3 => semanticOn 24 (.resolve, some 3) (.resolve, none) (.flagged 24 20) (.flagged 24 25) (.id
      16) (.byte 24) .producerAndConsumer
  | 5 => semanticOn 24 (.resolve, some 5) (.resolve, none) (.flagged 24 20) .absent .absent (.byte
      24) .producerAndConsumer
  | _ => .unknown

def oil : Nat → Layout
  | 1 => semantic .place (.fixed 0) (.id 69) .absent (.id 16) (.byte 20) .producerAndConsumer
  | 2 => semanticOn 24 (.impact, some 2) (.remove, none) (.id 25) (.flagged 24 20) (.id 16) (.byte
      24) .producerAndConsumer
  | 3 => semanticOn 24 (.resolve, some 3) (.remove, none) (.flagged 24 20) .absent (.id 16) (.byte
      24) .staticConsumer
  | _ => .unknown

def silence : Nat → Layout
  | 1 => semantic .activate (.fixed 0) (.id 21) (.id 25) (.id 17) (.byte 16) .producerAndConsumer
  | 2 => semantic .noClientAction .absent .absent .absent .absent .absent .staticConsumer
  | _ => .unknown

def siren : Nat → Layout
  | 1 => semantic .activate (.fixed 0) (.id 21) .absent (.id 16) (.byte 20) .producerAndConsumer
  | 2 => semantic .impact (.fixed 1) (.id 24) (.id 20) (.id 16) (.byte 28) .producerAndConsumer
  | _ => .unknown

def sirenShield : Nat → Layout
  | 0 => semantic .activate (.fixed 0) (.id 21) .absent (.id 16) (.byte 20) .producerAndConsumer
  | 2 => semantic .resolve (.fixed 2) (.id 21) .absent (.id 16) (.byte 20) .staticConsumer
  | 1 => semantic .impact (.fixed 1) (.id 20) (.id 20) (.id 16) .absent .staticConsumer
  | _ => .unknown

def specialSmall : Nat → Layout
  | 0 => semantic .activate (.fixed 0) (.id 24) (.id 20) (.id 16) (.byte 29) .producerAndConsumer
  | 1 => semantic .impact (.fixed 3) (.id 24) (.id 20) (.id 16) (.byte 28) .producerAndConsumer
  | 2 => semantic .updateRuntimeFlag .absent .absent .absent .absent (.byte 16) .producerAndConsumer
  | _ => .unknown

def barricade : Nat → Layout
  | 0 => semantic .initialise (.fixed 0) (.id 17) (.id 21) (.id 13) .absent .producerAndConsumer
  | 1 => semantic .place (.fixed 1) (.id 17) (.id 21) (.id 13) .absent .producerAndConsumer
  | 2 => semantic .impact (.fixed 3) (.id 17) (.id 21) (.id 13) .absent .retainedTraceCorrelated
  | 3 => semantic .resolve (.fixed 4) (.id 17) (.id 21) (.id 13) .absent .producerAndConsumer
  | 4 => semantic .remove .absent (.id 17) (.id 21) (.id 13) (.byte 25) .producerAndConsumer
  | _ => .unknown

def banana : Nat → Layout
  | 1 => semantic .place (.fixed 0) (.id 69) .absent (.id 16) (.byte 20) .producerAndConsumer
  | 2 => semantic .impact .absent (.id 25) (.id 20) (.id 16) (.byte 24) .producerAndConsumer
  | 3 => semantic .resolve .absent (.id 20) (.id 25) (.id 16) (.byte 24) .producerAndConsumer
  | _ => .unknown

def bigTimebombMeaning (nativePhase : Nat) : ItemLifecycleMeaning :=
  match nativePhase with
  | 0 => .activate
  | 2 | 3 => .impact
  | 4 => .resolve
  | _ => .unknown

/-- Nothing is bound unless both actors are there. -/
def bigTimebomb (nativePhase : Nat) : Layout :=
  .needs [25, 21]
    ⟨.always (bigTimebombMeaning nativePhase), .ofState nativePhase, .id 25, .id 21, .id 17,
      .byte 12, .producerAndConsumer, none⟩
    ⟨.always .unknown, .absent, .absent, .absent, .absent, .absent, .producerAndConsumer, none⟩

def areaUfo : Nat → Layout
  | 1 => semantic .activate (.fixed 0) (.id 25) (.id 21) (.id 16) (.byte 20) .producerAndConsumer
  | 2 => semantic .resolve (.fixed 5) (.id 20) (.id 20) (.id 16) .absent .producerAndConsumer
  | _ => .unknown

def lockdownRocket : Nat → Layout
  | 1 => semantic .launch (.fixed 0) .absent .absent (.id 14) (.byte 13) .producerAndConsumer
  | 2 => semantic .retarget .absent .absent (.id 13) .absent .absent .producerAndConsumer
  | 3 => semantic .remove .absent .absent .absent .absent .absent .staticConsumer
  | 4 => semantic .impact (.fixed 1) (.id 17) (.id 21) (.id 13) .absent .producerAndConsumer
  | 5 | 6 => semantic .resolve .absent .absent .absent (.id 13) (.byte 17) .producerAndConsumer
  | 7 => semantic .resolve (.byVariant 25 7 8) (.id 17) (.id 21) (.id 13) (.byte 25)
      .producerAndConsumer
  | 8 => semantic .resolve (.byVariant 25 11 10) (.id 17) (.id 21) (.id 13) (.byte 25)
      .producerAndConsumer
  | 9 => semantic .resolve (.fixed 9) (.id 17) (.id 21) (.id 13) .absent .producerAndConsumer
  | _ => .unknown

def shield : Nat → Layout
  | 1 => .withEffect (.word 16)
      (semantic .activate (.fixed 0) (.id 22) .absent (.id 18) (.byte 30) .producerAndConsumer)
  | 2 => semantic .impact (.fixed 1) (.id 20) (.id 24) (.id 16) (.byte 28) .producerAndConsumer
  | _ => .unknown

def specialShield : Nat → Layout
  | 0 => semantic .activate (.fixed 0) (.id 22) .absent (.id 17) (.byte 16) .producerAndConsumer
  | 2 => semantic .impact (.fixed 2) (.id 21) .absent (.id 17) (.byte 16) .producerAndConsumer
  | 3 => semantic .resolve (.fixed 3) (.id 21) .absent (.id 17) (.byte 16) .producerAndConsumer
  | _ => .unknown

def movingUfo : Nat → Layout
  | 1 => semantic .activate (.fixed 0) (.id 20) .absent (.id 16) .absent .producerAndConsumer
  | 2 => semantic .impact .absent .absent .absent (.id 16) .absent .producerAndConsumer
  | _ => .unknown

def ufo : Nat → Layout
  | 1 => semantic .activate (.fixed 0) (.id 25) (.id 21) (.id 16) (.byte 20) .producerAndConsumer
  | 2 => semantic .resolve .absent .absent .absent .absent .absent .producerAndConsumer
  | _ => .unknown

/-- An impact of `thunderbolt`. -/
def impactOf (phase : PhaseField) (source target token : IdField) : SemanticRow :=
  ⟨.always .impact, phase, source, target, token, .absent, .producerAndConsumer, none⟩

def thunderbolt : Nat → Layout
  | 1 => .row {
      meaning := .always .activate
      phase := .fixed 0
      source := .id 21
      target := .absent
      token := .id 16
      variant := .last
      evidence := .producerAndConsumer
      targets := some (25, 29) }
  | 2 => .needs [21] (impactOf (.fixed 4) .absent (.id 21) (.id 17))
      (impactOf .absent .absent .absent .absent)
  | 3 => .needs [21] (impactOf (.fixed 3) (.id 25) (.id 21) (.id 17))
      (impactOf .absent .absent .absent .absent)
  | _ => .unknown

def bomb (phase4Source : BombPhase4Source) : Nat → Layout
  | 1 => semantic .launch (.fixed 0) (.id 20) .absent (.id 16) .absent .producerAndConsumer
  | 2 => semantic .impact (.fixed 2) (.id 24) (.id 20) (.id 16) .absent .producerAndConsumer
  | 3 => semantic .resolve (.fixed 3) (.id 20) (.id 20) (.id 16) .absent .producerAndConsumer
  | 4 => semantic .resolve (.fixed 4) (.id phase4Source.offset) (.id 20) (.id 16) .absent
      .producerAndConsumer
  | _ => .unknown

def infectedBomb : Nat → Layout
  | 1 => semantic .launch (.fixed 0) (.id 20) .absent (.id 16) (.byte 120) .producerAndConsumer
  | 2 => semantic .impact (.fixed 2) (.id 29) (.id 20) (.id 16) (.byte 28) .producerAndConsumer
  | 3 => semantic .resolve (.fixed 4) (.id 29) (.id 20) (.id 16) (.byte 28) .producerAndConsumer
  | _ => .unknown

def rollingBomb : Nat → Layout
  | 1 => semantic .launch (.fixed 0) (.id 20) .absent (.id 16) .absent .producerAndConsumer
  | 2 => semantic .impact (.fixed 2) (.id 24) (.id 20) (.id 16) .absent .producerAndConsumer
  | 3 => semantic .resolve (.fixed 3) (.id 20) (.id 20) (.id 16) .absent .producerAndConsumer
  | 4 => semantic .resolve (.fixed 4) (.id 20) (.id 20) (.id 16) .absent .producerAndConsumer
  | _ => .unknown

def rollingInfectedBomb : Nat → Layout
  | 1 => semantic .launch (.fixed 0) (.id 20) .absent (.id 16) .absent .producerAndConsumer
  | 2 => semantic .impact (.fixed 2) (.id 28) (.id 20) (.id 16) .absent .producerAndConsumer
  | 3 => semantic .resolve (.fixed 4) .absent (.id 20) (.id 16) .absent .producerAndConsumer
  | _ => .unknown

def timeCokeBomb : Nat → Layout
  | 1 => semantic .launch (.fixed 0) (.id 20) .absent (.id 16) .absent .producerAndConsumer
  | 2 => semantic .impact (.fixed 2) (.id 24) (.id 20) (.id 16) .absent .producerAndConsumer
  | 3 => semantic .resolve (.fixed 3) (.id 20) (.id 20) (.id 16) .absent .producerAndConsumer
  | 4 => semantic .resolve (.fixed 4) (.id 20) (.id 20) (.id 16) .absent .producerAndConsumer
  | _ => .unknown

def timeInfectedBomb : Nat → Layout
  | 1 => semantic .launch (.fixed 0) (.id 20) .absent (.id 16) .absent .producerAndConsumer
  | 2 => semantic .impact (.fixed 2) (.id 28) (.id 20) (.id 16) .absent .producerAndConsumer
  | 3 => semantic .resolve (.fixed 4) .absent (.id 20) (.id 16) .absent .producerAndConsumer
  | _ => .unknown

def timeSnowBomb : Nat → Layout
  | 1 => semantic .launch (.fixed 0) (.id 20) .absent (.id 16) .absent .producerAndConsumer
  | 2 => semantic .impact (.fixed 2) (.id 24) (.id 20) (.id 16) .absent .producerAndConsumer
  | 3 => semantic .resolve (.fixed 3) (.id 20) (.id 20) (.id 16) .absent .producerAndConsumer
  | 4 => semantic .resolve (.fixed 4) (.id 20) (.id 20) (.id 16) .absent .producerAndConsumer
  | _ => .unknown

def mine : Nat → Layout
  | 1 => semantic .place (.fixed 0) (.id 73) .absent (.id 16) (.byte 72) .producerAndConsumer
  | 2 => semantic .impact .absent (.id 25) (.id 20) (.id 16) (.byte 24) .producerAndConsumer
  | 3 => semantic .noClientAction .absent .absent .absent (.id 16) (.byte 24) .staticConsumer
  | 4 => semantic .resolve (.fixed 4) (.id 20) (.id 25) (.id 16) (.byte 24) .producerAndConsumer
  | 5 => semantic .remove .absent (.id 20) .absent (.id 16) (.byte 24) .producerAndConsumer
  | 6 => semantic .respawn (.fixed 0) .absent .absent (.id 16) .absent .producerAndConsumer
  | _ => .unknown

def waterMine : Nat → Layout
  | 1 => semantic .place (.fixed 0) (.id 68) .absent (.id 16) (.byte 72) .producerAndConsumer
  | 2 => semantic .impact (.fixed 2) (.id 24) (.id 20) (.id 16) (.byte 28) .producerAndConsumer
  | 3 => semantic .resolve (.fixed 3) (.id 24) (.id 20) (.id 16) (.byte 28) .producerAndConsumer
  | 4 => semantic .resolve (.fixed 4) (.id 24) (.id 20) (.id 16) (.byte 28) .producerAndConsumer
  | 7 => explicitNoClientAction
  | _ => .unknown

def timeMine : Nat → Layout
  | 1 => semantic .place (.fixed 0) (.id 81) .absent (.id 20) (.byte 80) .producerAndConsumer
  | 2 => semanticOn 28 (.impact, none) (.resolve, none) .absent (.flagged 28 24) (.id 20) (.byte
      28) .producerAndConsumer
  | 3 => semantic .resolve .absent .absent (.flagged 28 24) (.id 20) (.byte 28) .producerAndConsumer
  | 4 => explicitNoClientAction
  | 5 => semantic .resolve .absent .absent .absent (.id 20) .absent .producerAndConsumer
  | _ => .unknown

def rocket : Nat → Layout
  | 1 => .withEffect (.word 16)
      (semantic .launch (.fixed 1) (.id 22) (.id 75) (.id 18) (.byte 26) .producerAndConsumer)
  | 2 => semantic .impact (.fixed 2) (.id 68) .absent (.id 16) (.byte 72) .producerAndConsumer
  | 3 => semantic .resolve (.fixed 3) .absent .absent (.id 16) .absent .producerAndConsumer
  | 4 => semantic .retarget .absent .absent (.id 16) .absent .absent .producerAndConsumer
  | 5 => semantic .remove .absent .absent .absent .absent .absent .producerAndConsumer
  | 6 => semantic .noClientAction .absent .absent .absent .absent .absent .staticConsumer
  | 7 => semantic .rebindSource (.fixed 6) (.id 20) .absent (.id 16) .absent .producerAndConsumer
  | 8 => semantic .resolve (.fixed 7) .absent .absent (.id 16) .absent .producerAndConsumer
  | 9 => semantic .resolve (.fixed 8) .absent .absent (.id 16) .absent .producerAndConsumer
  | 10 => semantic .resolve (.fixed 9) .absent .absent (.id 16) .absent .producerAndConsumer
  | _ => .unknown

def rocketVariant (followup : RocketVariantFollowup) : Nat → Layout
  | 1 => semantic .launch (.fixed 1) (.id 20) (.id 73) (.id 16) (.byte 24) .producerAndConsumer
  | 2 => semantic .impact (.fixed 2) (.id 68) .absent (.id 16) .absent .producerAndConsumer
  | 3 => semantic .resolve (.fixed 3) .absent .absent (.id 16) .absent .producerAndConsumer
  | 4 => semantic .retarget .absent .absent (.id 16) .absent .absent .producerAndConsumer
  | 5 => semantic .remove .absent .absent .absent .absent .absent .producerAndConsumer
  | 6 => explicitNoClientAction
  | 7 => semantic .rebindSource (.fixed 6) (.id 20) .absent (.id 16) .absent .producerAndConsumer
  | 8 =>
    if followup ≠ .throughState7 then
      semantic .resolve (.fixed 7) .absent .absent (.id 16) .absent .producerAndConsumer
    else explicitNoClientAction
  | 9 =>
    if followup ≠ .throughState7 then
      semantic .resolve (.fixed 8) .absent .absent (.id 16) .absent .producerAndConsumer
    else explicitNoClientAction
  | 10 =>
    if followup = .throughState10 then
      semantic .resolve (.fixed 9) .absent .absent (.id 16) .absent .producerAndConsumer
    else explicitNoClientAction
  | _ => .unknown

def superMagnet : Nat → Layout
  | 1 => semantic .activate (.fixed 0) (.id 20) (.id 24) (.id 16) (.byte 28) .producerAndConsumer
  | 2 => semantic .resolve (.fixed 4) .absent .absent .absent .absent .staticConsumer
  | _ => .unknown

def waterbomb : Nat → Layout
  | 1 => semantic .launch (.fixed 0) (.id 20) .absent (.id 16) (.byte 120) .producerAndConsumer
  | 2 => semantic .impact (.fixed 2) (.id 25) (.id 20) (.id 16) (.byte 24) .producerAndConsumer
  | 3 => semantic .impact (.fixed 3) (.id 25) (.id 20) (.id 16) (.byte 24) .producerAndConsumer
  | 4 => semantic .remove (.fixed 4) (.id 25) (.id 20) (.id 16) (.byte 24) .producerAndConsumer
  | _ => .unknown

def waterbombFly : Nat → Layout
  | 1 => semantic .launch (.fixed 0) (.id 20) (.id 24) (.id 16) (.byte 28) .producerAndConsumer
  | 2 => semantic .impact .absent .absent .absent .absent .absent .producerAndConsumer
  | 3 => semantic .resolve (.fixed 3) (.id 20) (.id 24) (.id 16) .absent .producerAndConsumer
  | 4 => semantic .resolve (.fixed 4) (.id 20) (.id 24) .absent .absent .producerAndConsumer
  | 5 => explicitNoClientAction
  | 6 => semantic .remove .absent .absent .absent .absent .absent .staticConsumer
  | _ => .unknown

/-- What `waterfly` reads, whatever its class. -/
def waterflyRow : Nat → Layout
  | 1 => semantic .launch (.fixed 0) (.id 20) (.id 24) (.id 16) (.byte 28) .producerAndConsumer
  | 2 => semantic .impact .absent .absent .absent .absent (.byte 64) .producerAndConsumer
  | 3 => semantic .impact (.fixed 2) .absent .absent (.id 64) .absent .producerAndConsumer
  | 4 => semantic .resolve (.fixed 3) (.id 20) (.id 24) (.id 16) .absent .producerAndConsumer
  | 5 => semantic .remove (.fixed 4) .absent .absent (.id 16) .absent .producerAndConsumer
  | _ => .unknown

def waterfly (className : ClassName) (state : Nat) : Layout :=
  match className with
  | .gopWaterfly => withEffectItemId (waterflyRow state) 4
  | .gopSnowWaterfly => withEffectItemId (waterflyRow state) 118
  | .gopInfectedWaterfly => withEffectItemId (waterflyRow state) 119
  | _ => waterflyRow state

/-- `decode_item_operation_semantics`, as what it reads. -/
def layoutOf (className : ClassName) (state : Nat) : Layout :=
  match className with
  | .gopAngel => angel state
  | .gopBalloon => balloon state
  | .gopBanana => banana state
  | .gopBarricade => barricade state
  | .gopBigTimebomb => withEffectItemId (bigTimebomb state) 122
  | .gopBlock => block state
  | .gopBossPrison => bossPrison state
  | .gopBoundRoad => boundRoad state
  | .gopBoundWall => boundWall state
  | .gopAreaUfo => areaUfo state
  | .gopCokebomb => bomb .auxiliary state
  | .gopCloud | .gopCloud2 => cloud className state
  | .gopCourse => course
  | .gopCube => cube state
  | .gopCubeForBoss => cubeForBoss state
  | .gopDevil => devil true .staticConsumer state
  | .gopDynamite | .gopHammer => targetedPhaseThreeEffect state
  | .gopEmp => emp state
  | .gopEventObject => eventObject
  | .gopFalling => falling state
  | .gopForceZone => forceZone state
  | .gopSnowbomb => bomb .target state
  | .gopGoldShield => goldShield state
  | .gopCokeRocket | .gopGoldRocket => rocketVariant .throughState10 state
  | .gopDinoClawRocket | .gopTigerRocket => rocketVariant .throughState9 state
  | .gopInfectedBomb => infectedBomb state
  | .gopIcefly => withEffectItemId (icefly state) 80
  | .gopGiantTalisman | .gopWitchUnionMagic => actorBoundNativePhase state
  | .gopHeadBand => headBand state
  | .gopItemTimeFlybomb | .gopTimeCokebomb => timeCokeBomb state
  | .gopLockdownRocket => lockdownRocket state
  | .gopMagnet => magnet state
  | .gopMine => mine state
  | .gopMovingUfo => movingUfo state
  | .gopMqDevil => devil true .producerAndConsumer state
  | .gopNewDevil => devil false .producerAndConsumer state
  | .gopOil => oil state
  | .gopPiratebomb => pirateBomb state
  | .gopPress => press state
  | .gopRobotBeam => spatialTargetEffect 2 state
  | .gopRollingCokebomb | .gopRollingbomb => rollingBomb state
  | .gopRollingInfectedbomb => rollingInfectedBomb state
  | .gopRocket => rocket state
  | .gopScanning => scanning state
  | .gopShield => shield state
  | .gopSilence => silence state
  | .gopSiren => siren state
  | .gopSirenShield => sirenShield state
  | .gopSlotLock => slotLock state
  | .gopSnowman => rocketVariant .throughState7 state
  | .gopSpecialShield => withEffectItemId (specialShield state) 40
  | .gopSpecialSiren => specialSiren state
  | .gopSpecialSmall => specialSmall state
  | .gopSpaceCraft => spaceCraft state
  | .gopSpeedDown => speedDown state
  | .gopStraightRocket => withEffectItemId (straightRocket state) 73
  | .gopInfectedWaterfly | .gopSnowWaterfly | .gopWaterfly => waterfly className state
  | .gopSuperMag => superMagnet state
  | .gopTargetKart => targetKart state
  | .gopTimeMine => timeMine state
  | .gopTimeInfectedBomb => timeInfectedBomb state
  | .gopTimeSnowbomb => timeSnowBomb state
  | .gopTimebomb => withEffectItemId (timeSnowBomb state) 13
  | .gopTombStone => spatialTargetEffect 1 state
  | .gopThunderbolt => thunderbolt state
  | .gopUfo => ufo state
  | .gopGhost => ghost state
  | .gopWaterMine => waterMine state
  | .gopWaterbomb => waterbomb state
  | .gopWaterbombFly => waterbombFly state
  | .gopLucci => .unknown

/-- `decode_validated_item_operation_semantics`. -/
def decodeItemOperationSemantics (validated : ValidatedItemOperation) (raw : Bytes) :
    ItemOperationSemantics := (layoutOf validated.schema.className validated.state).decode raw

end P4475.GameSlot
