import Mathlib.Data.Char
import Mathlib.Data.List.Lex
import P4475.Lib.Slots
import P4475.Profile.Inventory

/-!
# Additional karts

`p4475-profile/src/inventory_editor.rs`: an operator gives a profile one more copy of a
kart. The copy gets the least serial that nothing refers to yet; what refers to a serial is
`InUse`, over the grants, the equipped kart and the four lists of enhancement records.
-/

namespace P4475.Profile

open Lib

inductive KartInventoryEditError
  | kartNotGrantable (kartId : Nat)
  | tooManyAdditionalKarts (maximum : Nat)
  | serialExhausted (kartId : Nat)
  deriving DecidableEq

structure AdditionalKart where
  kartId : Nat
  serial : Nat
  name : Text
  deriving DecidableEq

def maxAdditionalKartsPerProfile : Nat := 4096

def maxClientSafeKartSerial : Nat := 32767

section Code

variable {S ρ : Type} (catalog : CatalogInventory S)

/-- The name of a kart without a name in the shop. -/
def displayName (item : CatalogInventoryItem) : Text :=
  if trim item.name = [] then (catalog.kartName item.id).getD "이름 없는 카트".toList
  else trim item.name

def knownKartNames : Map Nat Text :=
  collectMap (((catalog.category 3).filter fun item => catalog.containsKart item.id).map fun item =>
    (item.id, displayName catalog item))

/-- The tests of `additional_karts` on a grant before it looks for an earlier one. -/
def grantIsShown (grant : GrantedKart) : Bool :=
  ((knownKartNames catalog).lookup grant.kartId).isSome && 2 ≤ grant.serial
    && grant.serial ≤ maxClientSafeKartSerial

def additionalKarts (profile : RiderProfile ρ) : List AdditionalKart :=
  let karts := (keepFirst (grantIsShown catalog) ∅ profile.grantedKarts).filterMap fun grant =>
    ((knownKartNames catalog).lookup grant.kartId).map fun name =>
      ⟨grant.kartId, grant.serial, name⟩
  sortByKey (fun kart => toLex (kart.name, toLex (kart.kartId, kart.serial))) karts

/-- The serials that records with these keys use for the kart. -/
def serialsOf (kartId : Int) (keys : List (Int × Int)) : List Nat :=
  (keys.filter fun key => key.1 = kartId).filterMap fun key => toU16 key.2

/-- `used`. -/
def usedSerials (equipment : EquipmentExceptions) (profile : RiderProfile ρ) (kartId : Nat) :
    List Nat :=
  (profile.grantedKarts.filter fun grant => grant.kartId = kartId).map (·.serial)
    ++ (if profile.kart = kartId ∧ 2 ≤ profile.kartSerial then [profile.kartSerial] else [])
    ++ match toI16 kartId with
      | none => []
      | some signedKartId =>
        serialsOf signedKartId (equipment.tune.map TuneExcRecord.key)
          ++ serialsOf signedKartId (equipment.plant.map PlantExcRecord.key)
          ++ serialsOf signedKartId (equipment.kartLevel.map KartLevelExcRecord.key)
          ++ serialsOf signedKartId (equipment.parts.map PartsExcRecord.key)

/-- `2_u16..=MAX_CLIENT_SAFE_KART_SERIAL`. -/
def clientSafeSerials : List Nat := List.range' 2 (maxClientSafeKartSerial - 1)

def addKartToProfile (equipment : EquipmentExceptions) (profile : RiderProfile ρ)
    (kartId : Nat) : Except KartInventoryEditError (GrantedKart × RiderProfile ρ) := do
  check (catalog.containsKart kartId = true) (.kartNotGrantable kartId)
  check (profile.grantedKarts.length < maxAdditionalKartsPerProfile)
    (.tooManyAdditionalKarts maxAdditionalKartsPerProfile)
  let used := usedSerials equipment profile kartId
  let serial ← okOr (.serialExhausted kartId) (clientSafeSerials.find? fun serial => serial ∉ used)
  let grant : GrantedKart := ⟨kartId, serial⟩
  return (grant, { profile with grantedKarts := profile.grantedKarts ++ [grant] })

end Code

/-! ## Serials in use -/

section InUse

variable {S ρ : Type} {catalog : CatalogInventory S} {equipment : EquipmentExceptions}
  {profile : RiderProfile ρ} {kartId serial : Nat}

/-- A grant, the equipped kart or an enhancement record refers to this copy of the kart. -/
def InUse (equipment : EquipmentExceptions) (profile : RiderProfile ρ) (kartId serial : Nat) :
    Prop :=
  (⟨kartId, serial⟩ : GrantedKart) ∈ profile.grantedKarts ∨
    (profile.kart = kartId ∧ profile.kartSerial = serial) ∨
    ((kartId : Int), (serial : Int)) ∈ equipment.keys

theorem mem_serialsOf {id : Int} {keys : List (Int × Int)} (hle : serial ≤ 65535) :
    serial ∈ serialsOf id keys ↔ (id, (serial : Int)) ∈ keys := by
  unfold serialsOf
  rw [List.mem_filterMap]
  constructor
  · rintro ⟨⟨first, second⟩, hm, h⟩
    obtain ⟨hm, hid⟩ := List.mem_filter.mp hm
    have hid : first = id := of_decide_eq_true hid
    obtain ⟨hserial, -⟩ := toU16_eq_some.mp h
    have hserial : second = (serial : Int) := hserial
    rw [← hid, ← hserial]
    exact hm
  · intro hm
    exact ⟨_, List.mem_filter.mpr ⟨hm, decide_eq_true rfl⟩, toU16_eq_some.mpr ⟨rfl, hle⟩⟩

theorem mem_grantSerials :
    serial ∈ (profile.grantedKarts.filter fun grant => grant.kartId = kartId).map (·.serial) ↔
      (⟨kartId, serial⟩ : GrantedKart) ∈ profile.grantedKarts := by
  rw [List.mem_map]
  constructor
  · rintro ⟨grant, hm, rfl⟩
    obtain ⟨hm, hid⟩ := List.mem_filter.mp hm
    have hid : grant.kartId = kartId := of_decide_eq_true hid
    rw [← hid]
    exact hm
  · intro hm
    exact ⟨_, List.mem_filter.mpr ⟨hm, decide_eq_true rfl⟩, rfl⟩

/-- The serials that the code collects are the ones in use. -/
theorem mem_usedSerials (hlow : 2 ≤ serial) (hhigh : serial ≤ maxClientSafeKartSerial) :
    serial ∈ usedSerials equipment profile kartId ↔ InUse equipment profile kartId serial := by
  have hle : serial ≤ 65535 := le_trans hhigh (by decide)
  have hequipped : (serial ∈ if profile.kart = kartId ∧ 2 ≤ profile.kartSerial
      then [profile.kartSerial] else []) ↔ profile.kart = kartId ∧ profile.kartSerial = serial := by
    by_cases h : profile.kart = kartId ∧ 2 ≤ profile.kartSerial
    · rw [if_pos h, List.mem_singleton]
      omega
    · rw [if_neg h]
      exact iff_of_false (by simp) (by omega)
  unfold usedSerials InUse
  rw [List.mem_append, List.mem_append, mem_grantSerials, hequipped, or_assoc]
  refine or_congr_right (or_congr_right ?_)
  cases hkart : toI16 kartId with
  | none =>
    -- no enhancement record can name this kart
    refine iff_of_false List.not_mem_nil fun hm => ?_
    have hrange : (kartId : Int) ≤ 32767 := (equipment.signed _ hm).1.2
    have hsigned : toI16 kartId = some (kartId : Int) := toI16_eq_some.mpr ⟨rfl, by omega⟩
    rw [hkart] at hsigned
    cases hsigned
  | some signed =>
    obtain ⟨rfl, -⟩ := toI16_eq_some.mp hkart
    show serial ∈ _ ++ _ ++ _ ++ _ ↔ _
    simp only [List.mem_append, mem_serialsOf hle, EquipmentExceptions.keys, exceptionKeys]

theorem mem_clientSafeSerials :
    serial ∈ clientSafeSerials ↔ 2 ≤ serial ∧ serial ≤ maxClientSafeKartSerial := by
  unfold clientSafeSerials maxClientSafeKartSerial
  rw [List.mem_range'_1]
  omega

/-! ## One addition -/

/-- What `add_kart_to_profile` does when it succeeds. -/
structure KartAdded (catalog : CatalogInventory S) (equipment : EquipmentExceptions)
    (profile : RiderProfile ρ) (kartId : Nat) (grant : GrantedKart) (next : RiderProfile ρ) :
    Prop where
  known : catalog.containsKart kartId = true
  kart : grant.kartId = kartId
  low : 2 ≤ grant.serial
  high : grant.serial ≤ maxClientSafeKartSerial
  fresh : ¬ InUse equipment profile kartId grant.serial
  least : ∀ serial, 2 ≤ serial → serial < grant.serial → InUse equipment profile kartId serial
  appended : next = { profile with grantedKarts := profile.grantedKarts ++ [grant] }

theorem find_fresh {used : List Nat} :
    (clientSafeSerials.find? fun serial => serial ∉ used) = some serial ↔
      serial ∉ used ∧ (2 ≤ serial ∧ serial ≤ maxClientSafeKartSerial) ∧
        ∀ smaller, 2 ≤ smaller → smaller < serial → smaller ∈ used := by
  rw [← mem_clientSafeSerials]
  unfold clientSafeSerials
  rw [List.find?_range'_eq_some]
  simp only [decide_eq_true_eq, Bool.not_eq_true', decide_eq_false_iff_not, not_not]

theorem addKartToProfile_added {grant : GrantedKart} {next : RiderProfile ρ}
    (h : addKartToProfile catalog equipment profile kartId = .ok (grant, next)) :
    KartAdded catalog equipment profile kartId grant next := by
  unfold addKartToProfile at h
  obtain ⟨hknown, h⟩ := check_bind.mp h
  obtain ⟨-, h⟩ := check_bind.mp h
  obtain ⟨serial, hfind, h⟩ := okOr_bind.mp h
  obtain ⟨hnew, ⟨hlow, hhigh⟩, hleast⟩ := find_fresh.mp hfind
  cases h
  refine ⟨hknown, rfl, hlow, hhigh, fun huse => hnew ?_, fun smaller htwo hlt => ?_, rfl⟩
  · exact (mem_usedSerials hlow hhigh).mpr huse
  · have hsafe : smaller ≤ maxClientSafeKartSerial := le_trans hlt.le hhigh
    exact (mem_usedSerials htwo hsafe).mp (hleast smaller htwo hlt)

/-- The last of the three errors, behind the two checks before it. -/
theorem addKartToProfile_exhausted :
    addKartToProfile catalog equipment profile kartId = .error (.serialExhausted kartId) ↔
      catalog.containsKart kartId = true ∧
        profile.grantedKarts.length < maxAdditionalKartsPerProfile ∧
        ∀ serial, 2 ≤ serial → serial ≤ maxClientSafeKartSerial →
          InUse equipment profile kartId serial := by
  unfold addKartToProfile check
  by_cases hknown : catalog.containsKart kartId = true
  · rw [if_pos hknown]
    by_cases hroom : profile.grantedKarts.length < maxAdditionalKartsPerProfile
    · rw [if_pos hroom]
      show (okOr _ _ >>= _) = _ ↔ _
      cases hfind : clientSafeSerials.find? fun serial =>
        serial ∉ usedSerials equipment profile kartId with
      | none =>
        have hall := List.find?_eq_none.mp hfind
        refine iff_of_true rfl ⟨hknown, hroom, fun serial hlow hhigh => ?_⟩
        have hused := hall serial (mem_clientSafeSerials.mpr ⟨hlow, hhigh⟩)
        apply (mem_usedSerials hlow hhigh).mp
        simpa using hused
      | some serial =>
        obtain ⟨hnew, ⟨hlow, hhigh⟩, -⟩ := find_fresh.mp hfind
        refine iff_of_false (by intro h; cases h) fun hall => hnew ?_
        exact (mem_usedSerials hlow hhigh).mpr (hall.2.2 serial hlow hhigh)
    · rw [if_neg hroom]
      exact iff_of_false (by intro h; cases h) fun hall => hroom hall.2.1
  · rw [if_neg hknown]
    exact iff_of_false (by intro h; cases h) fun hall => hknown hall.1

/-! ## What becomes of the copy -/

/-- The ids of the known karts are distinct. -/
theorem knownKarts_nodup (catalog : CatalogInventory S) : (knownKarts catalog).Nodup := by
  unfold knownKarts
  refine List.Nodup.map_on (fun first hfirst second hsecond hid => ?_) ?_
  · obtain ⟨hfirst, hthree⟩ := List.mem_filter.mp (List.mem_filter.mp hfirst).1
    obtain ⟨hsecond, hthree'⟩ := List.mem_filter.mp (List.mem_filter.mp hsecond).1
    have hcategory : first.category = second.category :=
      (of_decide_eq_true hthree).trans (of_decide_eq_true hthree').symm
    exact CatalogInventory.eq_of_key hfirst hsecond (Prod.ext hcategory hid)
  · have hitems : catalog.items.Nodup := List.Nodup.of_map _ catalog.distinct
    exact (hitems.filter _).filter _

theorem lookup_knownKartNames (h : catalog.containsKart kartId = true) :
    ∃ name, (knownKartNames catalog).lookup kartId = some name := by
  obtain ⟨item, hm, hid⟩ := List.mem_map.mp (mem_knownKarts.mpr h)
  refine ⟨displayName catalog item, (lookup_collectMap ?_ _ _).mpr ?_⟩
  · rw [List.map_map]
    exact knownKarts_nodup catalog
  · exact List.mem_map.mpr ⟨item, hm, by rw [hid]⟩

theorem mem_additionalKarts {name : Text} :
    (⟨kartId, serial, name⟩ : AdditionalKart) ∈ additionalKarts catalog profile ↔
      (⟨kartId, serial⟩ : GrantedKart) ∈ profile.grantedKarts ∧ 2 ≤ serial ∧
        serial ≤ maxClientSafeKartSerial ∧
        (knownKartNames catalog).lookup kartId = some name := by
  unfold additionalKarts
  rw [mem_sortByKey, List.mem_filterMap]
  constructor
  · rintro ⟨grant, hm, h⟩
    obtain ⟨hmem, hshown, -⟩ := mem_keepFirst.mp hm
    obtain ⟨found, hname, h⟩ := Option.map_eq_some_iff.mp h
    cases h
    unfold grantIsShown at hshown
    simp only [Bool.and_eq_true, decide_eq_true_eq] at hshown
    exact ⟨hmem, hshown.1.2, hshown.2, hname⟩
  · rintro ⟨hmem, hlow, hhigh, hname⟩
    refine ⟨_, mem_keepFirst.mpr ⟨hmem, ?_, by simp⟩, by rw [hname]; rfl⟩
    unfold grantIsShown
    simp only [Bool.and_eq_true, decide_eq_true_eq]
    exact ⟨⟨by rw [hname]; rfl, hlow⟩, hhigh⟩

/-- The new copy is listed, under some name. -/
theorem KartAdded.listed {grant : GrantedKart} {next : RiderProfile ρ}
    (h : KartAdded catalog equipment profile kartId grant next) :
    ∃ name, (⟨kartId, grant.serial, name⟩ : AdditionalKart) ∈ additionalKarts catalog next := by
  obtain ⟨name, hname⟩ := lookup_knownKartNames h.known
  refine ⟨name, mem_additionalKarts.mpr ⟨?_, h.low, h.high, hname⟩⟩
  rw [h.appended, ← h.kart]
  exact List.mem_append_right _ (List.mem_singleton_self grant)

theorem normalizeItemSerial_of_two_le (hserial : 2 ≤ serial) :
    normalizeItemSerial kartId serial = serial := if_neg (by omega)

/-- An enhancement record may name the new copy, if it can name the kart. -/
theorem KartAdded.owned {grant : GrantedKart} {next : RiderProfile ρ}
    (h : KartAdded catalog equipment profile kartId grant next) (hkart : kartId ≤ 65535) :
    exceptionKartIsOwned catalog next kartId grant.serial = true := by
  have hhigh : grant.serial ≤ 65535 := le_trans h.high (by decide)
  have hlow := h.low
  unfold exceptionKartIsOwned
  rw [toU16_eq_some.mpr ⟨rfl, hkart⟩, toU16_eq_some.mpr ⟨rfl, hhigh⟩]
  show (if normalizeItemSerial kartId grant.serial = 1 then _ else _) = true
  rw [normalizeItemSerial_of_two_le hlow, if_neg (by omega), h.known, Bool.true_and,
    List.any_eq_true]
  refine ⟨grant, ?_, ?_⟩
  · rw [h.appended]
    exact List.mem_append_right _ (List.mem_singleton_self grant)
  · rw [Bool.and_eq_true]
    exact ⟨decide_eq_true h.kart, decide_eq_true rfl⟩

/-- The inventory builder emits a record of the new copy. -/
theorem KartAdded.emitted {grant : GrantedKart} {next : RiderProfile ρ}
    (h : KartAdded catalog equipment profile kartId grant next) (records : List RiderItemRecord) :
    RiderItemRecord.normal 3 kartId grant.serial 1 (preventItem next) ∈
      addGrantedKarts catalog next records := by
  apply List.mem_append_right
  refine List.mem_map.mpr ⟨grant, mem_keepFirst.mpr ⟨?_, ?_, by simp⟩, by rw [h.kart]⟩
  · rw [h.appended]
    exact List.mem_append_right _ (List.mem_singleton_self grant)
  · unfold grantIsListed
    have hknown : grant.kartId ∈ knownKarts catalog := by
      rw [h.kart]
      exact mem_knownKarts.mpr h.known
    simp only [Bool.and_eq_true, decide_eq_true_eq]
    exact ⟨⟨h.low, h.high⟩, hknown⟩

/-- No enhancement record that was there belongs to the new copy. -/
theorem KartAdded.unattached {grant : GrantedKart} {next : RiderProfile ρ}
    (h : KartAdded catalog equipment profile kartId grant next) {key : Int × Int}
    (hm : key ∈ equipment.keys) :
    ¬ (key.1 = kartId ∧ normalizeKartSerial key.1 key.2 = grant.serial) := by
  intro ⟨hid, hserial⟩
  have hlow := h.low
  have hraw : key.2 = grant.serial := by
    unfold normalizeKartSerial at hserial
    split at hserial
    · omega
    · exact hserial
  apply h.fresh
  refine Or.inr (Or.inr ?_)
  rw [← hid, ← hraw]
  exact hm

theorem KartAdded.notMem {grant : GrantedKart} {next : RiderProfile ρ}
    (h : KartAdded catalog equipment profile kartId grant next) :
    grant ∉ profile.grantedKarts := by
  intro hm
  apply h.fresh
  refine Or.inl ?_
  rw [← h.kart]
  exact hm

end InUse

/-! ## Many additions -/

section Runs

variable {S ρ : Type} {start last : RiderProfile ρ}

/-- An addition, with whatever catalog and records there are at the time, or a change of a
profile that leaves its grants. -/
inductive KartStep (S : Type) : RiderProfile ρ → RiderProfile ρ → Prop
  | added {catalog : CatalogInventory S} {equipment : EquipmentExceptions}
      {profile next : RiderProfile ρ} {kartId : Nat} {grant : GrantedKart}
      (h : addKartToProfile catalog equipment profile kartId = .ok (grant, next)) :
      KartStep S profile next
  | edited {profile next : RiderProfile ρ} (h : next.grantedKarts = profile.grantedKarts) :
      KartStep S profile next

/-- The grants that were there, and behind them new ones without repetitions. -/
theorem grants_of_run (h : Relation.ReflTransGen (KartStep S) start last) :
    ∃ added, last.grantedKarts = start.grantedKarts ++ added ∧ added.Nodup ∧
      ∀ grant ∈ added, grant ∉ start.grantedKarts := by
  induction h with
  | refl => exact ⟨[], (List.append_nil _).symm, List.nodup_nil, by simp⟩
  | tail _ hstep ih =>
    obtain ⟨added, hgrants, hnodup, hnew⟩ := ih
    cases hstep with
    | edited hkept => exact ⟨added, hkept.trans hgrants, hnodup, hnew⟩
    | @added _ _ _ _ _ grant hadd =>
      have hadded := addKartToProfile_added hadd
      -- the new grant is none of the others, so it neither repeats one nor was there
      have hfresh := hadded.notMem
      rw [hgrants, List.mem_append, not_or] at hfresh
      refine ⟨added ++ [grant], ?_, ?_, fun other hm => ?_⟩
      · rw [hadded.appended]
        show _ ++ [grant] = _
        rw [hgrants, List.append_assoc]
      · rw [List.nodup_append]
        refine ⟨hnodup, List.nodup_singleton grant, fun other hm same hsame => ?_⟩
        rw [List.mem_singleton.mp hsame]
        rintro rfl
        exact hfresh.2 hm
      · rcases List.mem_append.mp hm with hm | hm
        · exact hnew other hm
        · rw [List.mem_singleton.mp hm]
          exact hfresh.1

end Runs

/-- A successful addition appends one grant with the least serial not in use, changes nothing
else, and the copy is listed, owned and free of earlier enhancement records; a kart of the
catalog in a profile with room is refused only when all serials are in use; and over any run of
additions the new grants share no serial of a kart with each other or with an earlier grant. -/
theorem addKartToProfile_unique (S ρ : Type) :
    (∀ (catalog : CatalogInventory S) (equipment : EquipmentExceptions) (profile : RiderProfile ρ)
        (kartId : Nat) (grant : GrantedKart) (next : RiderProfile ρ), kartId ≤ 65535 →
      addKartToProfile catalog equipment profile kartId = .ok (grant, next) →
      KartAdded catalog equipment profile kartId grant next ∧
        (∃ name, (⟨kartId, grant.serial, name⟩ : AdditionalKart) ∈ additionalKarts catalog next) ∧
        exceptionKartIsOwned catalog next kartId grant.serial = true ∧
        (∀ records, RiderItemRecord.normal 3 kartId grant.serial 1 (preventItem next) ∈
          addGrantedKarts catalog next records) ∧
        ∀ key ∈ equipment.keys,
          ¬ (key.1 = kartId ∧ normalizeKartSerial key.1 key.2 = grant.serial)) ∧
    (∀ (catalog : CatalogInventory S) (equipment : EquipmentExceptions) (profile : RiderProfile ρ)
        (kartId : Nat),
      addKartToProfile catalog equipment profile kartId = .error (.serialExhausted kartId) ↔
        catalog.containsKart kartId = true ∧
          profile.grantedKarts.length < maxAdditionalKartsPerProfile ∧
          ∀ serial, 2 ≤ serial → serial ≤ maxClientSafeKartSerial →
            InUse equipment profile kartId serial) ∧
    ∀ start last : RiderProfile ρ, Relation.ReflTransGen (KartStep S) start last →
      ∃ added, last.grantedKarts = start.grantedKarts ++ added ∧ added.Nodup ∧
        ∀ grant ∈ added, grant ∉ start.grantedKarts := by
  refine ⟨?_, ?_, ?_⟩
  · intro catalog equipment profile kartId grant next hkart h
    have hadded := addKartToProfile_added h
    exact ⟨hadded, hadded.listed, hadded.owned hkart, hadded.emitted,
      fun key hm => hadded.unattached hm⟩
  · intro catalog equipment profile kartId
    exact addKartToProfile_exhausted
  · intro start last h
    exact grants_of_run h

/-- A catalog with the kart 1410. -/
def sampleKartCatalog : CatalogInventory Unit where
  items := [⟨3, 1410, 0, "Kart".toList, true, false⟩]
  kartNames := ∅
  kartSpecs := ∅
  ids := by simp
  distinct := by simp

/-- A profile without grants whose rider drives copy 2 of the kart 1410. -/
def sampleKartProfile : RiderProfile Unit := ⟨0, 1000, 1410, 2, [], ()⟩

/-- A Floater record for every serial of a kart that is not in the catalog. -/
def crowdedEquipment : EquipmentExceptions where
  tune := clientSafeSerials.map fun serial : Nat => ⟨9999, (serial : Int), 0, 0, 0, 0, 0, 0, 0⟩
  plant := []
  kartLevel := []
  parts := []
  signed := by
    intro key hm
    simp only [exceptionKeys, List.map_map, List.map_nil, List.append_nil, List.mem_map] at hm
    obtain ⟨serial, hserial, rfl⟩ := hm
    have hrange := mem_clientSafeSerials.mp hserial
    unfold maxClientSafeKartSerial at hrange
    simp only [Function.comp_apply, TuneExcRecord.key, IsI16]
    omega

def emptyEquipment : EquipmentExceptions where
  tune := []
  plant := []
  kartLevel := []
  parts := []
  signed := by simp [exceptionKeys]

/-- The equipped copy keeps its serial, so the first grant is copy 3. -/
theorem sampleKartProfile_granted :
    ∃ next, addKartToProfile sampleKartCatalog emptyEquipment sampleKartProfile 1410 =
        .ok (⟨1410, 3⟩, next) ∧
      KartAdded sampleKartCatalog emptyEquipment sampleKartProfile 1410 ⟨1410, 3⟩ next ∧
      ∃ added, next.grantedKarts = sampleKartProfile.grantedKarts ++ added ∧ added.Nodup := by
  have hadd : addKartToProfile sampleKartCatalog emptyEquipment sampleKartProfile 1410 =
      .ok (⟨1410, 3⟩, { sampleKartProfile with grantedKarts := [⟨1410, 3⟩] }) := rfl
  obtain ⟨hone, -, hrun⟩ := addKartToProfile_unique Unit Unit
  obtain ⟨added, hgrants, hnodup, -⟩ := hrun _ _ (Relation.ReflTransGen.single (.added hadd))
  exact ⟨_, hadd, (hone _ _ _ _ _ _ (by decide) hadd).1, added, hgrants, hnodup⟩

/-- Every serial of the kart 9999 is in use, but the catalog does not know the kart. -/
theorem crowdedEquipment_notGrantable :
    (∀ serial, 2 ≤ serial → serial ≤ maxClientSafeKartSerial →
      InUse crowdedEquipment sampleKartProfile 9999 serial) ∧
    addKartToProfile sampleKartCatalog crowdedEquipment sampleKartProfile 9999 =
      .error (.kartNotGrantable 9999) := by
  refine ⟨fun serial hlow hhigh => Or.inr (Or.inr ?_), rfl⟩
  simp only [EquipmentExceptions.keys, exceptionKeys, crowdedEquipment, List.map_map,
    List.map_nil, List.append_nil, List.mem_map]
  exact ⟨serial, mem_clientSafeSerials.mpr ⟨hlow, hhigh⟩, rfl⟩

end P4475.Profile
