import P4475.Lib.Outcome
import P4475.Profile.Catalog
import P4475.Profile.Floaters
import P4475.Profile.KartLevels

/-!
# The inventory of a profile

`p4475-profile/src/inventory.rs`: the item records that a client is shown, built from the
catalog and the karts granted to the profile, and the enhancement records that go with
them; `merge_parts_records` of `equipment.rs`, which makes the list of X-parts records. A
record of the client refers to a kart by id and serial, as `i16`; the inventory has both
as `u16`. `ρ` stands for the rest of a profile and `X` for unknown fields of a file.
-/

namespace P4475.Profile

open Lib

/-! ## Records -/

structure GrantedKart where
  kartId : Nat
  serial : Nat
  deriving DecidableEq

/-- The fields of a profile that the inventory reads, and the rest of it. -/
structure RiderProfile (ρ : Type) where
  preventItemUse : Nat
  slotChanger : Nat
  /-- `rider_item.kart`. -/
  kart : Nat
  /-- `rider_item.kart_serial`. -/
  kartSerial : Nat
  grantedKarts : List GrantedKart
  rest : ρ

structure PlantExcRecord where
  id : Int
  serial : Int
  engineCategory : Int
  engineId : Int
  handleCategory : Int
  handleId : Int
  wheelCategory : Int
  wheelId : Int
  kitCategory : Int
  kitId : Int
  deriving DecidableEq

structure PartsExcRecord where
  id : Int
  serial : Int
  engine : Int
  engineGrade : Nat
  engineValue : Int
  handle : Int
  handleGrade : Nat
  handleValue : Int
  wheel : Int
  wheelGrade : Nat
  wheelValue : Int
  booster : Int
  boosterGrade : Nat
  boosterValue : Int
  coating : Int
  tailLamp : Int
  deriving DecidableEq

/-- `PartsExcRecord::default()` with this id and serial. -/
def PartsExcRecord.bare (id serial : Int) : PartsExcRecord :=
  ⟨id, serial, 0, 0, 0, 0, 0, 0, 0, 0, 0, 0, 0, 0, 0, 0⟩

def TuneExcRecord.key (record : TuneExcRecord) : Int × Int := (record.id, record.serial)

def PlantExcRecord.key (record : PlantExcRecord) : Int × Int := (record.id, record.serial)

def KartLevelExcRecord.key (record : KartLevelExcRecord) : Int × Int := (record.id, record.serial)

def PartsExcRecord.key (record : PartsExcRecord) : Int × Int := (record.id, record.serial)

/-- The range of an `i16`. -/
def IsI16 (value : Int) : Prop := -32768 ≤ value ∧ value ≤ 32767

/-- The keys of the four lists. -/
def exceptionKeys (tune : List TuneExcRecord) (plant : List PlantExcRecord)
    (kartLevel : List KartLevelExcRecord) (parts : List PartsExcRecord) : List (Int × Int) :=
  tune.map TuneExcRecord.key ++ plant.map PlantExcRecord.key
    ++ kartLevel.map KartLevelExcRecord.key ++ parts.map PartsExcRecord.key

/-- What the loader read; an id or serial is an `i16` in all four lists. -/
structure EquipmentExceptions where
  tune : List TuneExcRecord
  plant : List PlantExcRecord
  kartLevel : List KartLevelExcRecord
  parts : List PartsExcRecord
  signed : ∀ key ∈ exceptionKeys tune plant kartLevel parts, IsI16 key.1 ∧ IsI16 key.2

def EquipmentExceptions.keys (equipment : EquipmentExceptions) : List (Int × Int) :=
  exceptionKeys equipment.tune equipment.plant equipment.kartLevel equipment.parts

structure RiderItemRecord where
  category : Nat
  id : Nat
  serial : Nat
  amount : Nat
  prevent : Nat
  reserved : Nat
  expirationLow : Int
  expirationHigh : Int
  partFlag : Nat
  grade : Nat
  value : Int
  deriving DecidableEq

namespace RiderItemRecord

def normal (category id serial amount : Nat) (preventItem : Bool) : RiderItemRecord :=
  ⟨category, id, serial, amount, if preventItem then 1 else 0, 0, -1, 0, 0, 0, 0⟩

def part (category id amount grade : Nat) (value : Int) : RiderItemRecord :=
  ⟨category, id, 0, amount, 0, 0, -1, -1, 1, grade, value⟩

end RiderItemRecord

structure RiderItemGroup where
  records : List RiderItemRecord
  deriving DecidableEq

structure InventorySnapshot where
  tuneExceptions : List TuneExcRecord
  plantExceptions : List PlantExcRecord
  kartLevelExceptions : List KartLevelExcRecord
  partsExceptions : List PartsExcRecord
  itemGroups : List RiderItemGroup

/-- All item records of the snapshot, group after group. -/
def InventorySnapshot.records (snapshot : InventorySnapshot) : List RiderItemRecord :=
  snapshot.itemGroups.flatMap RiderItemGroup.records

inductive InventoryBuildError
  | missingCategory (category : Nat)
  | incomplete (items karts : Nat)
  deriving DecidableEq

/-! ## X-parts records of the files -/

structure PartsState (X : Type) where
  id : Int
  serial : Int
  engine : Int
  engineGrade : Nat
  engineValue : Int
  handle : Int
  handleGrade : Nat
  handleValue : Int
  wheel : Int
  wheelGrade : Nat
  wheelValue : Int
  booster : Int
  boosterGrade : Nat
  boosterValue : Int
  coating : Int
  tailLamp : Int
  extra : X

def PartsState.asException {X : Type} (state : PartsState X) : PartsExcRecord where
  id := state.id
  serial := normalizeKartSerial state.id state.serial
  engine := state.engine
  engineGrade := state.engineGrade
  engineValue := state.engineValue
  handle := state.handle
  handleGrade := state.handleGrade
  handleValue := state.handleValue
  wheel := state.wheel
  wheelGrade := state.wheelGrade
  wheelValue := state.wheelValue
  booster := state.booster
  boosterGrade := state.boosterGrade
  boosterValue := state.boosterValue
  coating := state.coating
  tailLamp := state.tailLamp

/-- `parse_parts_record`, from the values of the attributes. -/
def parsePartsRecord (attributes : PartsExcRecord) : PartsExcRecord :=
  { attributes with serial := normalizeKartSerial attributes.id attributes.serial }

/-- `load_parts_records`, from the `Kart` elements of the file. -/
def loadPartsRecords (elements : List PartsExcRecord) :
    Except EquipmentStateError (List PartsExcRecord) :=
  if maxEquipmentRecords < elements.length then
    .error (.tooManyRecords "parts" maxEquipmentRecords)
  else .ok (elements.map parsePartsRecord)

def mergePartsRecords {X : Type} (merged : List PartsExcRecord) :
    List (PartsState X) → Except EquipmentStateError (List PartsExcRecord)
  | [] => .ok merged
  | state :: rest =>
    let user := state.asException
    if user.key ∈ merged.map PartsExcRecord.key then
      mergePartsRecords (upsert PartsExcRecord.key merged user) rest
    else if maxEquipmentRecords ≤ merged.length then
      .error (.tooManyRecords "merged parts" maxEquipmentRecords)
    else mergePartsRecords (merged ++ [user]) rest

/-- `load_merged_parts_records`. -/
def loadMergedPartsRecords {X : Type} (elements : List PartsExcRecord)
    (userStates : List (PartsState X)) : Except EquipmentStateError (List PartsExcRecord) := do
  mergePartsRecords (← loadPartsRecords elements) userStates

/-! ## Numbers -/

/-- `u16::try_from` of an `i16`. -/
def toU16 (value : Int) : Option Nat :=
  if 0 ≤ value ∧ value ≤ 65535 then some value.toNat else none

/-- `i16::try_from` of a `u16`. -/
def toI16 (value : Nat) : Option Int := if value ≤ 32767 then some (value : Int) else none

theorem toU16_eq_some {value : Int} {n : Nat} : toU16 value = some n ↔ value = n ∧ n ≤ 65535 := by
  unfold toU16
  by_cases h : 0 ≤ value ∧ value ≤ 65535
  · rw [if_pos h, Option.some_inj]
    omega
  · rw [if_neg h]
    exact iff_of_false (by simp) (by omega)

theorem toI16_eq_some {n : Nat} {value : Int} :
    toI16 n = some value ↔ value = n ∧ n ≤ 32767 := by
  unfold toI16
  by_cases h : n ≤ 32767
  · rw [if_pos h, Option.some_inj]
    omega
  · rw [if_neg h]
    exact iff_of_false (by simp) (by omega)

/-- The bytes of an `i16` as those of a `u16`. -/
def bitsOfI16 (value : Int) : Nat := (value % 65536).toNat

/-- `normalize_kart_serial` of the inventory, which has unsigned numbers. -/
def normalizeItemSerial (kartId serial : Nat) : Nat :=
  if kartId ≠ 0 ∧ serial = 0 then 1 else serial

/-! ## Who owns what -/

def prePartsCategoryOrder : List Nat :=
  [21, 52, 1, 32, 16, 11, 8, 9, 61, 7, 28, 22, 23, 12, 13, 18, 20, 4, 31, 27, 26, 70, 2, 30, 36,
    55, 59, 43, 44, 45, 46, 37, 38, 49, 53, 39]

def postPartsCategoryOrder : List Nat := [68, 69, 67, 14, 3]

def unitAmountCategories : List Nat :=
  [1, 2, 3, 4, 8, 11, 12, 14, 16, 18, 20, 21, 26, 27, 28, 30, 31, 32, 52, 61, 70]

def minimumGrantRecords : Nat := 5000

def minimumGrantKarts : Nat := 1200

def catalogAmount (category id slotChanger : Nat) : Nat :=
  if category ∈ unitAmountCategories ∨ (category = 7 ∧ (id = 3 ∨ id = 4)) then 1 else slotChanger

section Catalog

variable {S ρ : Type} (catalog : CatalogInventory S) (profile : RiderProfile ρ)

def exceptionKartIsOwned (kartId serial : Int) : Bool :=
  match toU16 kartId, toU16 serial with
  | some kartId, some serial =>
    let serial := normalizeItemSerial kartId serial
    if serial = 1 then catalog.grantsItem 3 kartId
    else catalog.containsKart kartId &&
      profile.grantedKarts.any fun grant => grant.kartId = kartId && grant.serial = serial
  | _, _ => false

/-- `known_karts`. -/
def knownKarts : List Nat :=
  ((catalog.category 3).filter fun item => catalog.containsKart item.id).map (·.id)

variable {catalog} in
theorem mem_knownKarts {kartId : Nat} : kartId ∈ knownKarts catalog ↔ catalog.containsKart kartId = true := by
  unfold knownKarts
  rw [List.mem_map]
  constructor
  · rintro ⟨item, hm, rfl⟩
    exact (List.mem_filter.mp hm).2
  · intro h
    obtain ⟨item, hm, hcategory, rfl⟩ := CatalogInventory.containsKart_iff.mp h
    refine ⟨item, List.mem_filter.mpr ⟨?_, h⟩, rfl⟩
    exact List.mem_filter.mpr ⟨hm, decide_eq_true hcategory⟩

/-- The test that `add_granted_karts` makes on a grant before it looks for an earlier one. -/
def grantIsListed (grant : GrantedKart) : Bool :=
  2 ≤ grant.serial && grant.serial ≤ 32767 && grant.kartId ∈ knownKarts catalog

def preventItem : Bool := profile.preventItemUse ≠ 0

/-- The records that come from the catalog alone. -/
def catalogRecords : List RiderItemRecord :=
  catalog.grantItems.map fun item =>
    .normal item.category item.id (if item.category = 3 then 1 else item.serial)
      (catalogAmount item.category item.id profile.slotChanger) (preventItem profile)

def addGrantedKarts (records : List RiderItemRecord) : List RiderItemRecord :=
  records ++ (keepFirst (grantIsListed catalog) ∅ profile.grantedKarts).map fun grant =>
    .normal 3 grant.kartId grant.serial 1 (preventItem profile)

/-- The loop of `add_missing_x_parts_exception_records`, over the karts with X-parts. -/
def addMissingXParts : (known : Finset (Int × Int)) → List RiderItemRecord →
    List PartsExcRecord → List PartsExcRecord
  | _, [], parts => parts
  | known, kart :: rest, parts =>
    match toI16 kart.id, toI16 (normalizeItemSerial kart.id kart.serial) with
    | some id, some serial =>
      if (id, serial) ∈ known then addMissingXParts known rest parts
      else addMissingXParts (insert (id, serial) known) rest (parts ++ [.bare id serial])
    | _, _ => addMissingXParts known rest parts

/-- A kart that an enhancement record can name gets one unless its key is known. -/
theorem addMissingXParts_named {known : Finset (Int × Int)} {kart : RiderItemRecord}
    {rest : List RiderItemRecord} {parts : List PartsExcRecord} (hid : kart.id ≤ 32767)
    (hserial : normalizeItemSerial kart.id kart.serial ≤ 32767) :
    addMissingXParts known (kart :: rest) parts =
      if ((kart.id : Int), (normalizeItemSerial kart.id kart.serial : Int)) ∈ known then
        addMissingXParts known rest parts
      else
        addMissingXParts
          (insert ((kart.id : Int), (normalizeItemSerial kart.id kart.serial : Int)) known) rest
          (parts ++ [.bare kart.id (normalizeItemSerial kart.id kart.serial)]) := by
  rw [addMissingXParts]
  simp only [toI16_eq_some.mpr ⟨rfl, hid⟩, toI16_eq_some.mpr ⟨rfl, hserial⟩]

theorem addMissingXParts_unnamed {known : Finset (Int × Int)} {kart : RiderItemRecord}
    {rest : List RiderItemRecord} {parts : List PartsExcRecord}
    (h : ¬ (kart.id ≤ 32767 ∧ normalizeItemSerial kart.id kart.serial ≤ 32767)) :
    addMissingXParts known (kart :: rest) parts = addMissingXParts known rest parts := by
  rw [addMissingXParts]
  cases hid : toI16 kart.id with
  | none => rfl
  | some id =>
    cases hserial : toI16 (normalizeItemSerial kart.id kart.serial) with
    | none => rfl
    | some serial => exact absurd ⟨(toI16_eq_some.mp hid).2, (toI16_eq_some.mp hserial).2⟩ h

def addMissingXPartsExceptionRecords (inventory : List RiderItemRecord)
    (parts : List PartsExcRecord) : List PartsExcRecord :=
  addMissingXParts (parts.map PartsExcRecord.key).toFinset
    (inventory.filter fun record => record.category = 3 && catalog.supportsXParts record.id) parts

end Catalog

/-! ## Groups -/

/-- `by_category`: every record behind the others of its category. -/
def byCategory (records : List RiderItemRecord) : Map Nat (List RiderItemRecord) :=
  records.foldl (fun map record =>
    map.insert record.category ((map.lookup record.category).getD [] ++ [record])) ∅

/-- The groups to append, and what is left of the map. -/
def addCatalogGroups (map : Map Nat (List RiderItemRecord)) : (categoryOrder : List Nat) →
    Except InventoryBuildError (List RiderItemGroup × Map Nat (List RiderItemRecord))
  | [] => .ok ([], map)
  | category :: rest => do
    let records ← okOr (.missingCategory category) (map.lookup category)
    let (groups, left) ← addCatalogGroups (map.erase category) rest
    return (⟨records⟩ :: groups, left)

structure GeneratedPartsSeries where
  itemId : Nat
  grade : Nat
  starts : Vector Int 4
  engineEnd : Int
  step : Int
  deriving DecidableEq

def generatedPartsSeries : List GeneratedPartsSeries :=
  [⟨1, 1, #v[1053, 1053, 1053, 1053], 1080, 3⟩,
    ⟨1, 2, #v[1005, 1005, 1005, 1005], 1050, 5⟩,
    ⟨1, 3, #v[910, 910, 910, 910], 1000, 10⟩,
    ⟨1, 4, #v[810, 810, 810, 810], 900, 10⟩,
    ⟨2, 1, #v[1153, 1053, 1153, 1053], 1180, 3⟩,
    ⟨2, 2, #v[1105, 1005, 1105, 1005], 1150, 5⟩,
    ⟨2, 3, #v[1010, 910, 1010, 910], 1100, 10⟩,
    ⟨2, 4, #v[910, 810, 910, 810], 1000, 10⟩]

/-- `adjusted_end`. -/
def GeneratedPartsSeries.adjustedEnd (series : GeneratedPartsSeries) (start : Int) : Int :=
  series.engineEnd - series.starts[0] + start

/-- The inner loop of `add_parts_group`; with a positive step there is fuel for all of it. -/
def partValues (adjustedEnd step : Int) : (fuel : Nat) → (value : Int) → List Int
  | 0, _ => []
  | fuel + 1, value =>
    if value ≤ adjustedEnd then value :: partValues adjustedEnd step fuel (value + step) else []

def addPartsGroup (series : GeneratedPartsSeries) (amount : Nat) : RiderItemGroup :=
  ⟨([63, 64, 65, 66].zip series.starts.toList).flatMap fun slot =>
    (partValues (series.adjustedEnd slot.2) series.step
      (series.adjustedEnd slot.2 - slot.2 + 1).toNat slot.2).map fun value =>
        .part slot.1 series.itemId amount series.grade value⟩

def addGeneratedPartsGroups (slotChanger : Nat) : List RiderItemGroup :=
  generatedPartsSeries.map fun series => addPartsGroup series slotChanger

/-- The fields of `XPartEquipRequest` that the check reads. -/
structure XPartEquipRequest where
  itemCategory : Int
  itemId : Int
  quantity : Int
  grade : Nat
  partsValue : Int

def generatedXPartIsGranted (slotChanger : Nat) (request : XPartEquipRequest) : Bool :=
  match toU16 request.itemCategory, toU16 request.itemId with
  | some category, some itemId =>
    if h : 63 ≤ category ∧ category - 63 < 4 then
      if bitsOfI16 request.quantity ≠ slotChanger then false
      else
        match generatedPartsSeries.find? fun series =>
          series.itemId = itemId && series.grade = request.grade with
        | none => false
        | some series =>
          let start := series.starts[category - 63]
          start ≤ request.partsValue && request.partsValue ≤ series.adjustedEnd start
            && (request.partsValue - start) % series.step = 0
    else false
  | _, _ => false

/-! ## The snapshot -/

section Snapshot

variable {S ρ : Type} (catalog : CatalogInventory S) (profile : RiderProfile ρ)

/-- `retain` of `build_inventory_snapshot_with_equipment`, for records with these keys. -/
def retainOwned {α : Type} (key : α → Int × Int) (records : List α) : List α :=
  records.filter fun record => exceptionKartIsOwned catalog profile (key record).1 (key record).2

def buildInventorySnapshotWithEquipment (equipment : EquipmentExceptions) :
    Except InventoryBuildError InventorySnapshot := do
  let tune := retainOwned catalog profile TuneExcRecord.key equipment.tune
  let plant := retainOwned catalog profile PlantExcRecord.key equipment.plant
  let kartLevel := retainOwned catalog profile KartLevelExcRecord.key equipment.kartLevel
  let parts := retainOwned catalog profile PartsExcRecord.key equipment.parts
  let records := addGrantedKarts catalog profile (catalogRecords catalog profile)
  let kartCount := (records.filter fun record => record.category = 3).length
  check (¬ (records.length < minimumGrantRecords ∨ kartCount < minimumGrantKarts))
    (.incomplete records.length kartCount)
  let parts := addMissingXPartsExceptionRecords catalog records parts
  let (before, left) ← addCatalogGroups (byCategory records) prePartsCategoryOrder
  let generated := addGeneratedPartsGroups profile.slotChanger
  let (after, _) ← addCatalogGroups left postPartsCategoryOrder
  return ⟨tune, plant, kartLevel, parts, before ++ generated ++ after⟩

end Snapshot

end P4475.Profile
