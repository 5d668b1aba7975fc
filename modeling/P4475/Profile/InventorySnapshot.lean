import P4475.Profile.Inventory

/-!
# The snapshot is consistent

Every enhancement record of a snapshot belongs to a kart of the snapshot, every kart that
takes X-parts has one X-parts record, and what the server later accepts as an X-part is
what it put into the snapshot. The proofs go through one lemma: the ownership test on the
raw numbers of a record finds exactly the karts among the item records.
-/

namespace P4475.Profile

open Lib

/-! ## X-parts records of the files -/

section Merge

variable {X : Type}

/-- Rows with different keys, whose serials are normalized. -/
structure PartsTable (parts : List PartsExcRecord) : Prop where
  keyed : Keyed PartsExcRecord.key parts
  normal : ∀ record ∈ parts, normalizeKartSerial record.id record.serial = record.serial

theorem PartsState.asException_normal (state : PartsState X) :
    normalizeKartSerial state.asException.id state.asException.serial =
      state.asException.serial :=
  normalizeKartSerial_idem state.id state.serial

theorem loadPartsRecords_table {elements parts : List PartsExcRecord}
    (hkeys : Keyed PartsExcRecord.key (elements.map parsePartsRecord))
    (h : loadPartsRecords elements = .ok parts) : PartsTable parts := by
  unfold loadPartsRecords at h
  split at h
  · cases h
  · cases h
    refine ⟨hkeys, fun record hm => ?_⟩
    obtain ⟨element, -, rfl⟩ := List.mem_map.mp hm
    exact normalizeKartSerial_idem element.id element.serial

theorem mergePartsRecords_table {merged parts : List PartsExcRecord}
    {userStates : List (PartsState X)} (htable : PartsTable merged)
    (h : mergePartsRecords merged userStates = .ok parts) : PartsTable parts := by
  induction userStates generalizing merged with
  | nil =>
    cases h
    exact htable
  | cons state rest ih =>
    have hstate := state.asException_normal
    unfold mergePartsRecords at h
    by_cases hknown : state.asException.key ∈ merged.map PartsExcRecord.key
    · -- the record of the user replaces the one with its key
      rw [if_pos hknown] at h
      refine ih ⟨htable.keyed.upsert state.asException, fun record hm => ?_⟩ h
      rcases mem_upsert hm with rfl | hm
      · exact hstate
      · exact htable.normal record hm
    · rw [if_neg hknown] at h
      split at h
      · cases h
      · refine ih ⟨?_, fun record hm => ?_⟩ h
        · rw [← upsert_of_notMem hknown]
          exact htable.keyed.upsert state.asException
        · rcases List.mem_append.mp hm with hm | hm
          · exact htable.normal record hm
          · rw [List.mem_singleton.mp hm]
            exact hstate

theorem loadMergedPartsRecords_table {elements parts : List PartsExcRecord}
    {userStates : List (PartsState X)}
    (hkeys : Keyed PartsExcRecord.key (elements.map parsePartsRecord))
    (h : loadMergedPartsRecords elements userStates = .ok parts) : PartsTable parts := by
  obtain ⟨merged, hload, hmerge⟩ := bind_eq_ok h
  exact mergePartsRecords_table (loadPartsRecords_table hkeys hload) hmerge

end Merge

/-! ## Karts among the records -/

section Karts

variable {S ρ : Type} {catalog : CatalogInventory S} {profile : RiderProfile ρ}

/-- The item records that the groups are made of. -/
def snapshotRecords (catalog : CatalogInventory S) (profile : RiderProfile ρ) :
    List RiderItemRecord :=
  addGrantedKarts catalog profile (catalogRecords catalog profile)

/-- A record of this kart, with the serial normalized as the client does. -/
def hasKart (records : List RiderItemRecord) (key : Int × Int) : Bool :=
  records.any fun record => record.category = 3 && (record.id : Int) = key.1
    && (record.serial : Int) = normalizeKartSerial key.1 key.2

theorem hasKart_iff {records : List RiderItemRecord} {key : Int × Int} :
    hasKart records key = true ↔ ∃ record ∈ records, record.category = 3 ∧
      (record.id : Int) = key.1 ∧ (record.serial : Int) = normalizeKartSerial key.1 key.2 := by
  unfold hasKart
  rw [List.any_eq_true]
  simp only [Bool.and_eq_true, decide_eq_true_eq, and_assoc]

/-- The record of a grant item. -/
def catalogRecord (profile : RiderProfile ρ) (item : CatalogInventoryItem) : RiderItemRecord :=
  .normal item.category item.id (if item.category = 3 then 1 else item.serial)
    (catalogAmount item.category item.id profile.slotChanger) (preventItem profile)

/-- The record of an additional copy. -/
def grantRecord (profile : RiderProfile ρ) (grant : GrantedKart) : RiderItemRecord :=
  .normal 3 grant.kartId grant.serial 1 (preventItem profile)

theorem mem_snapshotRecords {record : RiderItemRecord} :
    record ∈ snapshotRecords catalog profile ↔
      (∃ item ∈ catalog.grantItems, catalogRecord profile item = record) ∨
        ∃ grant ∈ profile.grantedKarts, grantIsListed catalog grant = true ∧
          grantRecord profile grant = record := by
  unfold snapshotRecords addGrantedKarts
  rw [List.mem_append]
  refine or_congr List.mem_map ?_
  rw [List.mem_map]
  constructor
  · rintro ⟨grant, hm, rfl⟩
    obtain ⟨hm, hlisted, -⟩ := mem_keepFirst.mp hm
    exact ⟨grant, hm, hlisted, rfl⟩
  · rintro ⟨grant, hm, hlisted, rfl⟩
    exact ⟨grant, mem_keepFirst.mpr ⟨hm, hlisted, by simp⟩, rfl⟩

theorem grantIsListed_iff {grant : GrantedKart} :
    grantIsListed catalog grant = true ↔
      2 ≤ grant.serial ∧ grant.serial ≤ 32767 ∧ catalog.containsKart grant.kartId = true := by
  unfold grantIsListed
  rw [← mem_knownKarts]
  simp only [Bool.and_eq_true, decide_eq_true_eq, and_assoc]

/-- The karts among the records: copy 1 of a grant item, or a listed grant. -/
theorem kart_of_mem {record : RiderItemRecord} (hm : record ∈ snapshotRecords catalog profile)
    (hkart : record.category = 3) :
    (record.serial = 1 ∧ catalog.grantsItem 3 record.id = true) ∨
      (2 ≤ record.serial ∧ record.serial ≤ 32767 ∧ catalog.containsKart record.id = true ∧
        (⟨record.id, record.serial⟩ : GrantedKart) ∈ profile.grantedKarts) := by
  rcases mem_snapshotRecords.mp hm with ⟨item, hitem, rfl⟩ | ⟨grant, hgrant, hlisted, rfl⟩
  · have hthree : item.category = 3 := hkart
    exact Or.inl ⟨if_pos hthree, CatalogInventory.grantsItem_iff.mpr ⟨item, hitem, hthree, rfl⟩⟩
  · obtain ⟨hlow, hhigh, hknown⟩ := grantIsListed_iff.mp hlisted
    exact Or.inr ⟨hlow, hhigh, hknown, hgrant⟩

theorem normalizeKartSerial_natCast (kartId serial : Nat) :
    normalizeKartSerial (kartId : Int) (serial : Int) = (normalizeItemSerial kartId serial : Int) := by
  unfold normalizeKartSerial normalizeItemSerial
  by_cases h : kartId ≠ 0 ∧ serial = 0
  · rw [if_pos h, if_pos (by omega)]
    rfl
  · rw [if_neg h, if_neg (by omega)]

theorem normalizeItemSerial_le {kartId serial : Nat} (h : serial ≤ 32767) :
    normalizeItemSerial kartId serial ≤ 32767 := by
  unfold normalizeItemSerial
  split
  · omega
  · exact h

/-- Serial 0 is left alone for kart 0 only. -/
theorem normalizeItemSerial_ne_zero {kartId serial : Nat} (h : kartId ≠ 0) :
    normalizeItemSerial kartId serial ≠ 0 := by
  unfold normalizeItemSerial
  by_cases hserial : serial = 0
  · rw [if_pos ⟨h, hserial⟩]
    exact Nat.one_ne_zero
  · rw [if_neg (by omega)]
    exact hserial

theorem exceptionKartIsOwned_natCast {kartId serial : Nat} (hid : kartId ≤ 32767)
    (hserial : serial ≤ 32767) :
    exceptionKartIsOwned catalog profile (kartId : Int) (serial : Int) =
      if normalizeItemSerial kartId serial = 1 then catalog.grantsItem 3 kartId
      else catalog.containsKart kartId && profile.grantedKarts.any fun grant =>
        grant.kartId = kartId && grant.serial = normalizeItemSerial kartId serial := by
  unfold exceptionKartIsOwned
  rw [toU16_eq_some.mpr ⟨rfl, by omega⟩, toU16_eq_some.mpr ⟨rfl, by omega⟩]

theorem exceptionKartIsOwned_negative {id serial : Int} (h : id < 0 ∨ serial < 0) :
    exceptionKartIsOwned catalog profile id serial = false := by
  have hnone : toU16 id = none ∨ toU16 serial = none := by
    unfold toU16
    rcases h with h | h
    · exact Or.inl (if_neg (by omega))
    · exact Or.inr (if_neg (by omega))
  unfold exceptionKartIsOwned
  rcases hnone with h | h
  · rw [h]
  · rw [h]
    cases toU16 id <;> rfl

/-- Copy 1 of a kart is among the records when the catalog grants it. -/
theorem firstCopy_iff {kartId : Nat} :
    (∃ record ∈ snapshotRecords catalog profile, record.category = 3 ∧ record.id = kartId ∧
      record.serial = 1) ↔ catalog.grantsItem 3 kartId = true := by
  constructor
  · rintro ⟨record, hm, hkart, rfl, hserial⟩
    rcases kart_of_mem hm hkart with ⟨-, hgrants⟩ | ⟨htwo, -⟩
    · exact hgrants
    · omega
  · intro h
    obtain ⟨item, hitem, hcategory, hid⟩ := CatalogInventory.grantsItem_iff.mp h
    exact ⟨catalogRecord profile item, mem_snapshotRecords.mpr (Or.inl ⟨item, hitem, rfl⟩),
      hcategory, hid, if_pos hcategory⟩

/-- Another copy is among the records when it is a grant of a known kart. -/
theorem laterCopy_iff {kartId serial : Nat} (hone : serial ≠ 1) (hhigh : serial ≤ 32767)
    (hzero : catalog.containsKart kartId = true → serial ≠ 0) :
    (∃ record ∈ snapshotRecords catalog profile, record.category = 3 ∧ record.id = kartId ∧
      record.serial = serial) ↔
        catalog.containsKart kartId = true ∧
          (⟨kartId, serial⟩ : GrantedKart) ∈ profile.grantedKarts := by
  constructor
  · rintro ⟨record, hm, hkart, rfl, rfl⟩
    rcases kart_of_mem hm hkart with ⟨hserial, -⟩ | ⟨-, -, hknown, hgrant⟩
    · exact absurd hserial hone
    · exact ⟨hknown, hgrant⟩
  · rintro ⟨hknown, hgrant⟩
    have hpositive := hzero hknown
    refine ⟨grantRecord profile ⟨kartId, serial⟩, mem_snapshotRecords.mpr (Or.inr ⟨_, hgrant, ?_,
      rfl⟩), rfl, rfl, rfl⟩
    exact grantIsListed_iff.mpr ⟨by show 2 ≤ serial; omega, hhigh, hknown⟩

/-- The ownership test finds the karts among the records. -/
theorem exceptionKartIsOwned_iff {key : Int × Int} (hid : IsI16 key.1) (hserial : IsI16 key.2) :
    exceptionKartIsOwned catalog profile key.1 key.2 = true ↔
      hasKart (snapshotRecords catalog profile) key = true := by
  obtain ⟨id, serial⟩ := key
  obtain ⟨hidLow, hidHigh⟩ := hid
  obtain ⟨hserialLow, hserialHigh⟩ := hserial
  rw [hasKart_iff]
  show _ ↔ ∃ record ∈ snapshotRecords catalog profile, record.category = 3 ∧
    (record.id : Int) = id ∧ (record.serial : Int) = normalizeKartSerial id serial
  by_cases hneg : id < 0 ∨ serial < 0
  · -- a negative number is no id and no serial of a record
    rw [exceptionKartIsOwned_negative hneg]
    refine iff_of_false Bool.false_ne_true ?_
    rintro ⟨record, hm, hkart, hrid, hrserial⟩
    have hkept : serial < 0 → normalizeKartSerial id serial = serial :=
      fun h => if_neg (by omega)
    omega
  · obtain ⟨kartId, rfl⟩ : ∃ kartId : Nat, id = kartId := ⟨id.toNat, by omega⟩
    obtain ⟨copy, rfl⟩ : ∃ copy : Nat, serial = copy := ⟨serial.toNat, by omega⟩
    have hcopy : copy ≤ 32767 := Int.ofNat_le.mp hserialHigh
    rw [normalizeKartSerial_natCast,
      exceptionKartIsOwned_natCast (Int.ofNat_le.mp hidHigh) hcopy]
    simp only [Int.ofNat_inj]
    by_cases hone : normalizeItemSerial kartId copy = 1
    · rw [if_pos hone, hone]
      exact firstCopy_iff.symm
    · rw [if_neg hone, laterCopy_iff hone (normalizeItemSerial_le hcopy), Bool.and_eq_true,
        List.any_eq_true]
      · refine and_congr_right fun _ => ?_
        constructor
        · rintro ⟨grant, hm, h⟩
          simp only [Bool.and_eq_true, decide_eq_true_eq] at h
          rw [← h.2, ← h.1]
          exact hm
        · intro hm
          exact ⟨_, hm, by simp⟩
      · intro hknown
        apply normalizeItemSerial_ne_zero
        rintro rfl
        rw [CatalogInventory.not_containsKart_zero] at hknown
        cases hknown

/-- No kart occurs twice among the records. -/
theorem snapshotRecords_karts (catalog : CatalogInventory S) (profile : RiderProfile ρ) :
    (((snapshotRecords catalog profile).filter fun record => record.category = 3).map fun record =>
      (record.id, record.serial)).Nodup := by
  unfold snapshotRecords addGrantedKarts
  rw [List.filter_append, List.map_append, List.nodup_append]
  refine ⟨?_, ?_, ?_⟩
  · unfold catalogRecords
    rw [List.filter_map, List.map_map]
    have hitems : catalog.grantItems.Nodup :=
      List.Nodup.of_map _ CatalogInventory.grantItems_keys_nodup
    refine List.Nodup.map_on (fun first hfirst second hsecond h => ?_) (hitems.filter _)
    obtain ⟨hfirst, hthree⟩ := List.mem_filter.mp hfirst
    obtain ⟨hsecond, hthree'⟩ := List.mem_filter.mp hsecond
    have hcategory : first.category = second.category :=
      (of_decide_eq_true hthree).trans (of_decide_eq_true hthree').symm
    have hid : first.id = second.id := congrArg Prod.fst h
    exact CatalogInventory.eq_of_key (CatalogInventory.mem_grantItems.mp hfirst).1
      (CatalogInventory.mem_grantItems.mp hsecond).1 (Prod.ext hcategory hid)
  · rw [List.filter_map, List.map_map]
    refine List.Nodup.map_on (fun first _ second _ h => ?_)
      ((keepFirst_nodup _ _ profile.grantedKarts).filter _)
    have hid : first.kartId = second.kartId := congrArg Prod.fst h
    have hserial : first.serial = second.serial := congrArg Prod.snd h
    cases first
    cases second
    rw [GrantedKart.mk.injEq]
    exact ⟨hid, hserial⟩
  · -- a copy of the catalog has serial 1, a granted one a larger serial
    intro first hfirst second hsecond
    obtain ⟨record, hm, rfl⟩ := List.mem_map.mp hfirst
    obtain ⟨hm, hthree⟩ := List.mem_filter.mp hm
    obtain ⟨item, -, rfl⟩ := List.mem_map.mp hm
    obtain ⟨record', hm', rfl⟩ := List.mem_map.mp hsecond
    obtain ⟨hm', -⟩ := List.mem_filter.mp hm'
    obtain ⟨grant, hgrant, rfl⟩ := List.mem_map.mp hm'
    obtain ⟨hlow, -⟩ := grantIsListed_iff.mp (mem_keepFirst.mp hgrant).2.1
    intro h
    have hone : (if item.category = 3 then 1 else item.serial) = 1 :=
      if_pos (of_decide_eq_true hthree)
    have hserial : (if item.category = 3 then 1 else item.serial) = grant.serial :=
      congrArg Prod.snd h
    omega

end Karts

/-! ## Groups -/

section Groups

variable {records : List RiderItemRecord}

theorem byCategory_concat (records : List RiderItemRecord) (record : RiderItemRecord) :
    byCategory (records ++ [record]) = (byCategory records).insert record.category
      (((byCategory records).lookup record.category).getD [] ++ [record]) := by
  unfold byCategory
  rw [List.foldl_append]
  rfl

/-- A category of the map holds its records in order. -/
theorem lookup_byCategory (records : List RiderItemRecord) (category : Nat) :
    ((byCategory records).lookup category).getD [] =
      records.filter fun record => record.category = category := by
  induction records using List.reverseRecOn with
  | nil => rfl
  | append_singleton records record ih =>
    rw [byCategory_concat, Map.lookup_insert_ite, List.filter_append]
    by_cases h : category = record.category
    · subst h
      rw [if_pos rfl, List.filter_singleton, decide_eq_true rfl, ih]
      rfl
    · have hother : decide (record.category = category) = false := decide_eq_false (Ne.symm h)
      rw [if_neg h, List.filter_singleton, hother, ih]
      exact (List.append_nil _).symm

/-- The groups exist when every category has a record. -/
theorem addCatalogGroups_succeeds {map : Map Nat (List RiderItemRecord)} {order : List Nat}
    (hnodup : order.Nodup) (h : ∀ category ∈ order, map.lookup category ≠ none) :
    ∃ groups left, addCatalogGroups map order = .ok (groups, left) := by
  induction order generalizing map with
  | nil => exact ⟨[], map, rfl⟩
  | cons first rest ih =>
    obtain ⟨hfirst, hrest⟩ := List.nodup_cons.mp hnodup
    obtain ⟨found, hfound⟩ := Option.ne_none_iff_exists'.mp (h first List.mem_cons_self)
    obtain ⟨groups, left, hothers⟩ := @ih (map.erase first) hrest fun category hm => by
      rw [Map.lookup_erase_ite, if_neg]
      · exact h category (List.mem_cons_of_mem _ hm)
      · rintro rfl
        exact hfirst hm
    refine ⟨⟨found⟩ :: groups, left, ?_⟩
    unfold addCatalogGroups
    rw [hfound]
    show (addCatalogGroups (map.erase first) rest >>= _) = _
    rw [hothers]
    rfl

theorem lookup_byCategory_ne_none {records : List RiderItemRecord} {record : RiderItemRecord}
    (hm : record ∈ records) : (byCategory records).lookup record.category ≠ none := by
  intro hnone
  have hfilter := lookup_byCategory records record.category
  rw [hnone] at hfilter
  have hmem : record ∈ records.filter fun other => other.category = record.category :=
    List.mem_filter.mpr ⟨hm, decide_eq_true rfl⟩
  rw [← hfilter] at hmem
  exact List.not_mem_nil hmem

theorem addCatalogGroups_ok {map left : Map Nat (List RiderItemRecord)} {order : List Nat}
    {groups : List RiderItemGroup} (hnodup : order.Nodup)
    (h : addCatalogGroups map order = .ok (groups, left)) :
    groups = (order.map fun category => ⟨(map.lookup category).getD []⟩) ∧
      ∀ category ∉ order, left.lookup category = map.lookup category := by
  induction order generalizing map groups with
  | nil =>
    cases h
    exact ⟨rfl, fun _ _ => rfl⟩
  | cons first rest ih =>
    obtain ⟨hfirst, hrest⟩ := List.nodup_cons.mp hnodup
    unfold addCatalogGroups at h
    obtain ⟨found, hfound, h⟩ := okOr_bind.mp h
    obtain ⟨⟨others, last⟩, hothers, h⟩ := bind_eq_ok h
    cases h
    obtain ⟨hgroups, hleft⟩ := ih hrest hothers
    refine ⟨?_, fun category hm => ?_⟩
    · rw [List.map_cons, hfound, hgroups]
      refine congrArg _ (List.map_congr_left fun category hm => ?_)
      rw [Map.lookup_erase_ite, if_neg]
      rintro rfl
      exact hfirst hm
    · rw [List.mem_cons, not_or] at hm
      rw [hleft category hm.2, Map.lookup_erase_ite, if_neg hm.1]

/-- What the groups of an order hold of one of its categories. -/
theorem filter_groups (records : List RiderItemRecord) {order : List Nat} (hnodup : order.Nodup) {p : RiderItemRecord → Bool}
    {category : Nat} (hp : ∀ record, p record = true → record.category = category) :
    (order.flatMap fun other => records.filter fun record => record.category = other).filter p =
      if category ∈ order then records.filter p else [] := by
  induction order with
  | nil => rfl
  | cons first rest ih =>
    obtain ⟨hfirst, hrest⟩ := List.nodup_cons.mp hnodup
    rw [List.flatMap_cons, List.filter_append, ih hrest, List.filter_filter]
    by_cases h : category = first
    · subst h
      have hsame : records.filter (fun record => p record && decide (record.category = category)) =
          records.filter p := by
        refine List.filter_congr fun record _ => ?_
        cases hrecord : p record with
        | false => rfl
        | true => exact decide_eq_true (hp record hrecord)
      rw [hsame, if_neg hfirst, if_pos List.mem_cons_self, List.append_nil]
    · have hnone : records.filter (fun record => p record && decide (record.category = first)) =
          [] := by
        refine List.filter_eq_nil_iff.mpr fun record _ hrecord => ?_
        rw [Bool.and_eq_true, decide_eq_true_eq] at hrecord
        exact h ((hp record hrecord.1).symm.trans hrecord.2)
      have hmem : category ∈ first :: rest ↔ category ∈ rest := by
        rw [List.mem_cons, or_iff_right h]
      rw [hnone, List.nil_append]
      exact if_congr hmem.symm rfl rfl

/-- `PRE_PARTS_CATEGORY_ORDER` and `POST_PARTS_CATEGORY_ORDER`. -/
def listedCategories : List Nat := prePartsCategoryOrder ++ postPartsCategoryOrder

theorem listedCategories_nodup : listedCategories.Nodup := by decide

end Groups

/-! ## Generated parts -/

section Parts

theorem mem_partValues {last step value v : Int} {fuel : Nat} (hstep : 0 < step)
    (hfuel : last - value < fuel) :
    v ∈ partValues last step fuel value ↔ value ≤ v ∧ v ≤ last ∧ (v - value) % step = 0 := by
  induction fuel generalizing value with
  | zero =>
    unfold partValues
    exact iff_of_false List.not_mem_nil (by omega)
  | succ fuel ih =>
    unfold partValues
    by_cases hvalue : value ≤ last
    · rw [if_pos hvalue, List.mem_cons, ih (by omega)]
      have hshift : (v - (value + step)) % step = (v - value) % step := by
        rw [← Int.sub_sub, Int.sub_emod_right]
      rw [hshift]
      constructor
      · rintro (rfl | ⟨hlow, hhigh, hdvd⟩)
        · exact ⟨le_rfl, hvalue, by rw [Int.sub_self, Int.zero_emod]⟩
        · exact ⟨by omega, hhigh, hdvd⟩
      · rintro ⟨hlow, hhigh, hdvd⟩
        by_cases hsame : v = value
        · exact Or.inl hsame
        · -- a multiple of the step that is not zero is at least the step
          have hle := Int.le_of_dvd (by omega) (Int.dvd_of_emod_eq_zero hdvd)
          exact Or.inr ⟨by omega, hhigh, hdvd⟩
    · rw [if_neg hvalue]
      exact iff_of_false List.not_mem_nil (by omega)

theorem generatedPartsSeries_step : ∀ series ∈ generatedPartsSeries, 0 < series.step := by decide

theorem generatedPartsSeries_keyed :
    (generatedPartsSeries.map fun series => (series.itemId, series.grade)).Nodup := by decide

/-- The slots of a series, with their categories. -/
theorem mem_slots {series : GeneratedPartsSeries} {slot : Nat × Int} :
    slot ∈ [63, 64, 65, 66].zip series.starts.toList ↔
      ∃ h : 63 ≤ slot.1 ∧ slot.1 - 63 < 4, slot.2 = series.starts[slot.1 - 63] := by
  obtain ⟨category, start⟩ := slot
  rw [List.mem_iff_getElem]
  constructor
  · rintro ⟨i, hi, h⟩
    have hlt : i < 4 := by simpa using hi
    rw [List.getElem_zip] at h
    obtain ⟨hcategory, hstart⟩ := Prod.mk.inj h
    have hthis : category = 63 + i := by
      rw [← hcategory]
      have hi4 : i = 0 ∨ i = 1 ∨ i = 2 ∨ i = 3 := by omega
      rcases hi4 with rfl | rfl | rfl | rfl <;> rfl
    subst hthis
    refine ⟨⟨Nat.le_add_right 63 i, by show 63 + i - 63 < 4; omega⟩, ?_⟩
    refine hstart.symm.trans ?_
    simp
  · rintro ⟨⟨hlow, hhigh⟩, hstart⟩
    have hlow : 63 ≤ category := hlow
    have hhigh : category - 63 < 4 := hhigh
    refine ⟨category - 63, by simpa using hhigh, ?_⟩
    rw [List.getElem_zip]
    refine Prod.ext ?_ ?_
    · have hcases : category = 63 ∨ category = 64 ∨ category = 65 ∨ category = 66 := by omega
      rcases hcases with rfl | rfl | rfl | rfl <;> rfl
    · show _ = start
      rw [show start = series.starts[category - 63] from hstart]
      simp

end Parts

/-! ## Snapshots -/

section Snapshots

variable {S ρ : Type} {catalog : CatalogInventory S} {profile : RiderProfile ρ}
  {equipment : EquipmentExceptions} {snapshot : InventorySnapshot}

theorem mem_addGeneratedPartsGroups {slotChanger : Nat} {record : RiderItemRecord} :
    record ∈ (addGeneratedPartsGroups slotChanger).flatMap RiderItemGroup.records ↔
      ∃ series ∈ generatedPartsSeries, ∃ category, ∃ h : 63 ≤ category ∧ category - 63 < 4,
        ∃ value, series.starts.get ⟨category - 63, h.2⟩ ≤ value ∧
          value ≤ series.adjustedEnd (series.starts.get ⟨category - 63, h.2⟩) ∧
          (value - series.starts.get ⟨category - 63, h.2⟩) % series.step = 0 ∧
          record = .part category series.itemId slotChanger series.grade value := by
  unfold addGeneratedPartsGroups
  rw [List.flatMap_map, List.mem_flatMap]
  refine exists_congr fun series => and_congr_right fun hseries => ?_
  have hstep := generatedPartsSeries_step series hseries
  show record ∈ (addPartsGroup series slotChanger).records ↔ _
  unfold addPartsGroup
  rw [List.mem_flatMap]
  constructor
  · rintro ⟨slot, hslot, hm⟩
    obtain ⟨h, hstart⟩ := mem_slots.mp hslot
    obtain ⟨value, hvalue, rfl⟩ := List.mem_map.mp hm
    obtain ⟨hlow, hhigh, hdvd⟩ := (mem_partValues hstep (by omega)).mp hvalue
    rw [hstart] at hlow hhigh hdvd
    exact ⟨slot.1, h, value, hlow, hhigh, hdvd, rfl⟩
  · rintro ⟨category, h, value, hlow, hhigh, hdvd, rfl⟩
    refine ⟨(category, series.starts.get ⟨category - 63, h.2⟩), mem_slots.mpr ⟨h, rfl⟩, ?_⟩
    exact List.mem_map.mpr ⟨value, (mem_partValues hstep (by omega)).mpr ⟨hlow, hhigh, hdvd⟩, rfl⟩

/-- A generated record is of one of the four categories that no catalog group has. -/
theorem category_of_generated {slotChanger : Nat} {record : RiderItemRecord}
    (hm : record ∈ (addGeneratedPartsGroups slotChanger).flatMap RiderItemGroup.records) :
    record.partFlag = 1 ∧ record.category ∉ listedCategories := by
  obtain ⟨series, -, category, h, value, -, -, -, rfl⟩ := mem_addGeneratedPartsGroups.mp hm
  refine ⟨rfl, ?_⟩
  show category ∉ listedCategories
  have hcases : category = 63 ∨ category = 64 ∨ category = 65 ∨ category = 66 := by omega
  rcases hcases with rfl | rfl | rfl | rfl <;> decide

theorem find_series {itemId grade : Nat} {series : GeneratedPartsSeries} :
    (generatedPartsSeries.find? fun series => series.itemId = itemId && series.grade = grade) =
        some series ↔
      series ∈ generatedPartsSeries ∧ series.itemId = itemId ∧ series.grade = grade := by
  constructor
  · intro h
    have hp := List.find?_some h
    rw [Bool.and_eq_true, decide_eq_true_eq, decide_eq_true_eq] at hp
    exact ⟨List.mem_of_find?_eq_some h, hp⟩
  · rintro ⟨hm, rfl, rfl⟩
    cases hfind : generatedPartsSeries.find? fun other =>
        other.itemId = series.itemId && other.grade = series.grade with
    | none =>
      have hnone := List.find?_eq_none.mp hfind series hm
      simp at hnone
    | some other =>
      have hp := List.find?_some hfind
      rw [Bool.and_eq_true, decide_eq_true_eq, decide_eq_true_eq] at hp
      exact congrArg some (List.inj_on_of_nodup_map generatedPartsSeries_keyed
        (List.mem_of_find?_eq_some hfind) hm (Prod.ext hp.1 hp.2))

/-- The check on a request is membership in the generated groups. -/
theorem generatedXPartIsGranted_iff {slotChanger : Nat} {request : XPartEquipRequest} :
    generatedXPartIsGranted slotChanger request = true ↔
      ∃ record ∈ (addGeneratedPartsGroups slotChanger).flatMap RiderItemGroup.records,
        (record.category : Int) = request.itemCategory ∧ (record.id : Int) = request.itemId ∧
          record.grade = request.grade ∧ record.amount = bitsOfI16 request.quantity ∧
          record.value = request.partsValue := by
  obtain ⟨itemCategory, itemId, quantity, grade, partsValue⟩ := request
  constructor
  · intro h
    unfold generatedXPartIsGranted at h
    split at h
    next category id hcategory hid =>
      obtain ⟨rfl, -⟩ : itemCategory = category ∧ category ≤ 65535 := toU16_eq_some.mp hcategory
      obtain ⟨rfl, -⟩ : itemId = id ∧ id ≤ 65535 := toU16_eq_some.mp hid
      by_cases hrange : 63 ≤ category ∧ category - 63 < 4
      · rw [dif_pos hrange] at h
        by_cases hamount : bitsOfI16 quantity ≠ slotChanger
        · rw [if_pos hamount] at h
          cases h
        · rw [if_neg hamount] at h
          split at h
          · cases h
          next series hseries =>
            obtain ⟨hm, rfl, rfl⟩ := find_series.mp hseries
            simp only [Bool.and_eq_true, decide_eq_true_eq] at h
            refine ⟨.part category series.itemId slotChanger series.grade partsValue,
              mem_addGeneratedPartsGroups.mpr ⟨series, hm, category, hrange, partsValue,
                h.1.1, h.1.2, h.2, rfl⟩, rfl, rfl, rfl, ?_, rfl⟩
            exact (not_not.mp hamount).symm
      · rw [dif_neg hrange] at h
        cases h
    next => cases h
  · rintro ⟨record, hm, hcategory, hid, hgrade, hamount, hvalue⟩
    obtain ⟨series, hseries, category, hrange, value, hlow, hhigh, hdvd, rfl⟩ :=
      mem_addGeneratedPartsGroups.mp hm
    -- a record of a generated group has small numbers, which an `i16` can be
    have hsmall : series.itemId ≤ 65535 := by
      have hall : ∀ series ∈ generatedPartsSeries, series.itemId ≤ 65535 := by decide
      exact hall series hseries
    obtain rfl : itemCategory = category := Eq.symm hcategory
    obtain rfl : itemId = series.itemId := Eq.symm hid
    obtain rfl : grade = series.grade := Eq.symm hgrade
    obtain rfl : partsValue = value := Eq.symm hvalue
    have hamount : bitsOfI16 quantity = slotChanger := Eq.symm hamount
    unfold generatedXPartIsGranted
    rw [toU16_eq_some.mpr ⟨rfl, by omega⟩, toU16_eq_some.mpr ⟨rfl, hsmall⟩]
    simp only [dif_pos hrange, hamount, ne_eq, not_true_eq_false, if_false,
      find_series.mpr ⟨hseries, rfl, rfl⟩, Bool.and_eq_true, decide_eq_true_eq]
    exact ⟨⟨hlow, hhigh⟩, hdvd⟩

/-- What a successful build puts together. -/
theorem build_ok
    (h : buildInventorySnapshotWithEquipment catalog profile equipment = .ok snapshot) :
    snapshot.tuneExceptions = retainOwned catalog profile TuneExcRecord.key equipment.tune ∧
      snapshot.plantExceptions = retainOwned catalog profile PlantExcRecord.key equipment.plant ∧
      snapshot.kartLevelExceptions =
        retainOwned catalog profile KartLevelExcRecord.key equipment.kartLevel ∧
      snapshot.partsExceptions =
        addMissingXPartsExceptionRecords catalog (snapshotRecords catalog profile)
          (retainOwned catalog profile PartsExcRecord.key equipment.parts) ∧
      snapshot.records =
        (prePartsCategoryOrder.flatMap fun category =>
            (snapshotRecords catalog profile).filter fun record => record.category = category)
          ++ (addGeneratedPartsGroups profile.slotChanger).flatMap RiderItemGroup.records
          ++ (postPartsCategoryOrder.flatMap fun category =>
            (snapshotRecords catalog profile).filter fun record => record.category = category) := by
  unfold buildInventorySnapshotWithEquipment at h
  obtain ⟨-, h⟩ := check_bind.mp h
  obtain ⟨⟨before, left⟩, hbefore, h⟩ := bind_eq_ok h
  obtain ⟨⟨after, rest⟩, hafter, h⟩ := bind_eq_ok h
  cases h
  obtain ⟨hbefore, hleft⟩ := addCatalogGroups_ok (by decide) hbefore
  obtain ⟨hafter, -⟩ := addCatalogGroups_ok (by decide) hafter
  refine ⟨rfl, rfl, rfl, rfl, ?_⟩
  have hdisjoint : ∀ category ∈ postPartsCategoryOrder, category ∉ prePartsCategoryOrder := by
    decide
  have hafter : after = postPartsCategoryOrder.map fun category =>
      ⟨((byCategory (snapshotRecords catalog profile)).lookup category).getD []⟩ := by
    rw [hafter]
    exact List.map_congr_left fun category hm => by rw [hleft category (hdisjoint category hm)]; rfl
  show List.flatMap RiderItemGroup.records (before ++ _ ++ after) = _
  rw [List.flatMap_append, List.flatMap_append, hbefore, hafter, List.flatMap_map,
    List.flatMap_map]
  simp only [lookup_byCategory]
  rfl

/-- With enough records, and some of every listed category, there is a snapshot. -/
theorem build_succeeds (hitems : minimumGrantRecords ≤ (snapshotRecords catalog profile).length)
    (hkarts : minimumGrantKarts ≤
      ((snapshotRecords catalog profile).filter fun record => record.category = 3).length)
    (hall : ∀ category ∈ listedCategories, ∃ record ∈ snapshotRecords catalog profile,
      record.category = category) (equipment : EquipmentExceptions) :
    ∃ snapshot, buildInventorySnapshotWithEquipment catalog profile equipment = .ok snapshot := by
  have hlookup : ∀ category ∈ listedCategories,
      (byCategory (snapshotRecords catalog profile)).lookup category ≠ none := by
    intro category hm
    obtain ⟨record, hrecord, rfl⟩ := hall category hm
    exact lookup_byCategory_ne_none hrecord
  obtain ⟨before, left, hbefore⟩ := @addCatalogGroups_succeeds
    (byCategory (snapshotRecords catalog profile)) prePartsCategoryOrder (by decide)
    fun category hm => hlookup category (List.mem_append_left _ hm)
  obtain ⟨-, hleft⟩ := addCatalogGroups_ok (by decide) hbefore
  have hdisjoint : ∀ category ∈ postPartsCategoryOrder, category ∉ prePartsCategoryOrder := by
    decide
  obtain ⟨after, rest, hafter⟩ := @addCatalogGroups_succeeds left postPartsCategoryOrder (by decide)
    fun category hm => by
      rw [hleft category (hdisjoint category hm)]
      exact hlookup category (List.mem_append_right _ hm)
  refine ⟨⟨retainOwned catalog profile TuneExcRecord.key equipment.tune,
    retainOwned catalog profile PlantExcRecord.key equipment.plant,
    retainOwned catalog profile KartLevelExcRecord.key equipment.kartLevel,
    addMissingXPartsExceptionRecords catalog (snapshotRecords catalog profile)
      (retainOwned catalog profile PartsExcRecord.key equipment.parts),
    before ++ addGeneratedPartsGroups profile.slotChanger ++ after⟩, ?_⟩
  unfold buildInventorySnapshotWithEquipment
  refine check_bind.mpr ⟨by rw [not_or, not_lt, not_lt]; exact ⟨hitems, hkarts⟩, ?_⟩
  refine bind_eq_ok_iff.mpr ⟨_, hbefore, bind_eq_ok_iff.mpr ⟨_, hafter, rfl⟩⟩

/-- The snapshot holds of a listed category what the builder collected of it. -/
theorem filter_snapshot
    (h : buildInventorySnapshotWithEquipment catalog profile equipment = .ok snapshot)
    {p : RiderItemRecord → Bool} (category : Nat) (hlisted : category ∈ listedCategories)
    (hp : ∀ record, p record = true → record.category = category) :
    snapshot.records.filter p = (snapshotRecords catalog profile).filter p := by
  obtain ⟨-, -, -, -, hrecords⟩ := build_ok h
  have hgenerated : ((addGeneratedPartsGroups profile.slotChanger).flatMap
      RiderItemGroup.records).filter p = [] := by
    refine List.filter_eq_nil_iff.mpr fun record hm hrecord => ?_
    apply (category_of_generated hm).2
    rw [hp record hrecord]
    exact hlisted
  have hall := filter_groups (snapshotRecords catalog profile) listedCategories_nodup hp
  rw [if_pos hlisted] at hall
  unfold listedCategories at hall
  rw [List.flatMap_append, List.filter_append] at hall
  rw [hrecords, List.filter_append, List.filter_append, hgenerated, List.append_nil]
  exact hall

theorem hasKart_snapshot
    (h : buildInventorySnapshotWithEquipment catalog profile equipment = .ok snapshot)
    (key : Int × Int) :
    hasKart snapshot.records key = hasKart (snapshotRecords catalog profile) key := by
  have hfilter := @filter_snapshot _ _ _ _ _ _ h (fun record => record.category = 3
    && (record.id : Int) = key.1 && (record.serial : Int) = normalizeKartSerial key.1 key.2)
    3 (by decide) fun record hrecord => by
      simp only [Bool.and_eq_true, decide_eq_true_eq] at hrecord
      exact hrecord.1.1
  unfold hasKart
  rw [Bool.eq_iff_iff, List.any_eq_true, List.any_eq_true]
  have hmem : ∀ record, record ∈ List.filter _ snapshot.records ↔ _ :=
    fun record => by rw [hfilter]
  simpa only [List.mem_filter] using exists_congr hmem

/-- The records that stay are those of the karts of the snapshot. -/
theorem retainOwned_eq
    (h : buildInventorySnapshotWithEquipment catalog profile equipment = .ok snapshot)
    {α : Type} {key : α → Int × Int} {records : List α}
    (hsigned : ∀ record ∈ records, IsI16 (key record).1 ∧ IsI16 (key record).2) :
    retainOwned catalog profile key records =
      records.filter fun record => hasKart snapshot.records (key record) := by
  refine List.filter_congr fun record hm => ?_
  obtain ⟨hid, hserial⟩ := hsigned record hm
  rw [hasKart_snapshot h, Bool.eq_iff_iff]
  exact exceptionKartIsOwned_iff hid hserial

theorem keys_concat {known : Finset (Int × Int)} {parts : List PartsExcRecord}
    {record : PartsExcRecord} (hknown : ∀ key, key ∈ known ↔ key ∈ parts.map PartsExcRecord.key)
    (key : Int × Int) :
    key ∈ (parts ++ [record]).map PartsExcRecord.key ↔ key ∈ insert record.key known := by
  rw [Finset.mem_insert, hknown, List.map_append, List.mem_append, or_comm]
  exact or_congr_left List.mem_singleton

/-- The loop adds one record for each kart that has none; `known` are the keys so far. -/
theorem addMissingXParts_spec (karts : List RiderItemRecord) {known : Finset (Int × Int)}
    {parts : List PartsExcRecord} (hknown : ∀ key, key ∈ known ↔ key ∈ parts.map PartsExcRecord.key)
    (hkeyed : Keyed PartsExcRecord.key parts) :
    ∃ added, addMissingXParts known karts parts = parts ++ added ∧
      Keyed PartsExcRecord.key (parts ++ added) ∧
      (∀ record ∈ added, ∃ kart ∈ karts,
        record = .bare kart.id (normalizeItemSerial kart.id kart.serial)) ∧
      ∀ kart ∈ karts, kart.id ≤ 32767 → normalizeItemSerial kart.id kart.serial ≤ 32767 →
        ((kart.id : Int), (normalizeItemSerial kart.id kart.serial : Int)) ∈
          (parts ++ added).map PartsExcRecord.key := by
  induction karts generalizing known parts with
  | nil => exact ⟨[], (List.append_nil _).symm, by rwa [List.append_nil], by simp, by simp⟩
  | cons kart rest ih =>
    by_cases hrange : kart.id ≤ 32767 ∧ normalizeItemSerial kart.id kart.serial ≤ 32767
    · rw [addMissingXParts_named hrange.1 hrange.2]
      by_cases hseen : ((kart.id : Int), (normalizeItemSerial kart.id kart.serial : Int)) ∈ known
      · rw [if_pos hseen]
        obtain ⟨added, heq, hkeys, hbare, hall⟩ := ih hknown hkeyed
        refine ⟨added, heq, hkeys, fun record hm => ?_, fun other hm hlow hhigh => ?_⟩
        · obtain ⟨source, hsource, hrecord⟩ := hbare record hm
          exact ⟨source, List.mem_cons_of_mem _ hsource, hrecord⟩
        · rcases List.mem_cons.mp hm with rfl | hm
          · rw [List.map_append]
            exact List.mem_append_left _ ((hknown _).mp hseen)
          · exact hall other hm hlow hhigh
      · rw [if_neg hseen]
        have hnew : PartsExcRecord.key (.bare kart.id (normalizeItemSerial kart.id kart.serial)) ∉
            parts.map PartsExcRecord.key := fun hm => hseen ((hknown _).mpr hm)
        obtain ⟨added, heq, hkeys, hbare, hall⟩ := ih
          (fun key => (keys_concat hknown key).symm)
          (by rw [← upsert_of_notMem hnew]; exact hkeyed.upsert _)
        rw [List.append_assoc] at heq hkeys hall
        refine ⟨_, heq, hkeys, fun record hm => ?_, fun other hm hlow hhigh => ?_⟩
        · rcases List.mem_append.mp hm with hm | hm
          · exact ⟨kart, List.mem_cons_self, List.mem_singleton.mp hm⟩
          · obtain ⟨source, hsource, hrecord⟩ := hbare record hm
            exact ⟨source, List.mem_cons_of_mem _ hsource, hrecord⟩
        · rcases List.mem_cons.mp hm with rfl | hm
          · rw [List.map_append, List.map_append]
            exact List.mem_append_right _ (List.mem_append_left _ List.mem_cons_self)
          · exact hall other hm hlow hhigh
    · -- no enhancement record can name this kart
      rw [addMissingXParts_unnamed hrange]
      obtain ⟨added, heq, hkeys, hbare, hall⟩ := ih hknown hkeyed
      refine ⟨added, heq, hkeys, fun record hm => ?_, fun other hm hlow hhigh => ?_⟩
      · obtain ⟨source, hsource, hrecord⟩ := hbare record hm
        exact ⟨source, List.mem_cons_of_mem _ hsource, hrecord⟩
      · rcases List.mem_cons.mp hm with rfl | hm
        · exact absurd ⟨hlow, hhigh⟩ hrange
        · exact hall other hm hlow hhigh

/-- What a client may rely on, and the server with it. -/
structure SnapshotConsistent (catalog : CatalogInventory S) (profile : RiderProfile ρ)
    (equipment : EquipmentExceptions) (snapshot : InventorySnapshot) : Prop where
  /-- No kart occurs twice. -/
  karts : ((snapshot.records.filter fun record => record.category = 3).map fun record =>
    (record.id, record.serial)).Nodup
  /-- Every enhancement record names a kart. -/
  named : ∀ key ∈ exceptionKeys snapshot.tuneExceptions snapshot.plantExceptions
    snapshot.kartLevelExceptions snapshot.partsExceptions, hasKart snapshot.records key = true
  /-- The loaded records of the karts are kept as they are. -/
  tune : snapshot.tuneExceptions =
    equipment.tune.filter fun record => hasKart snapshot.records record.key
  plant : snapshot.plantExceptions =
    equipment.plant.filter fun record => hasKart snapshot.records record.key
  kartLevel : snapshot.kartLevelExceptions =
    equipment.kartLevel.filter fun record => hasKart snapshot.records record.key
  parts : ∃ added, snapshot.partsExceptions =
      (equipment.parts.filter fun record => hasKart snapshot.records record.key) ++ added ∧
    ∀ record ∈ added, record = .bare record.id record.serial
  /-- A kart with X-parts has one record of them. -/
  xParts : ∀ kart ∈ snapshot.records, kart.category = 3 → catalog.supportsXParts kart.id = true →
    kart.id ≤ 32767 → kart.serial ≤ 32767 →
    (snapshot.partsExceptions.filter fun record => record.id = (kart.id : Int)
      && normalizeKartSerial record.id record.serial = (kart.serial : Int)).length = 1
  /-- A grant item occurs once, apart from the additional copies of a kart. -/
  grants : ∀ item ∈ catalog.grantItems, item.category ∈ listedCategories →
    (snapshot.records.filter fun record => record.category = item.category && record.id = item.id
      && (item.category ≠ 3 || record.serial = 1)) = [catalogRecord profile item]
  /-- An X-part is accepted if it is one of the snapshot. -/
  xPart : ∀ request, generatedXPartIsGranted profile.slotChanger request = true ↔
    ∃ record ∈ snapshot.records, record.partFlag = 1 ∧
      (record.category : Int) = request.itemCategory ∧ (record.id : Int) = request.itemId ∧
      record.grade = request.grade ∧ record.amount = bitsOfI16 request.quantity ∧
      record.value = request.partsValue

theorem mem_snapshot
    (h : buildInventorySnapshotWithEquipment catalog profile equipment = .ok snapshot)
    {record : RiderItemRecord} (hlisted : record.category ∈ listedCategories) :
    record ∈ snapshot.records ↔ record ∈ snapshotRecords catalog profile := by
  have hfilter := @filter_snapshot _ _ _ _ _ _ h (fun other => other.category = record.category)
    record.category hlisted fun other hother => of_decide_eq_true hother
  have hmem : record ∈ snapshot.records.filter (fun other => other.category = record.category) ↔
      record ∈ (snapshotRecords catalog profile).filter
        (fun other => other.category = record.category) := by rw [hfilter]
  simpa using hmem

theorem signed_of_mem (equipment : EquipmentExceptions) {α : Type} {key : α → Int × Int}
    {records : List α} (hkeys : ∀ k ∈ records.map key, k ∈ equipment.keys) :
    ∀ record ∈ records, IsI16 (key record).1 ∧ IsI16 (key record).2 :=
  fun _ hm => equipment.signed _ (hkeys _ (List.mem_map_of_mem hm))

theorem snapshot_grants
    (h : buildInventorySnapshotWithEquipment catalog profile equipment = .ok snapshot)
    {item : CatalogInventoryItem} (hitem : item ∈ catalog.grantItems)
    (hlisted : item.category ∈ listedCategories) :
    (snapshot.records.filter fun record => record.category = item.category && record.id = item.id
      && (item.category ≠ 3 || record.serial = 1)) = [catalogRecord profile item] := by
  rw [filter_snapshot h item.category hlisted fun record hrecord => by
    simp only [Bool.and_eq_true, decide_eq_true_eq] at hrecord
    exact hrecord.1.1]
  unfold snapshotRecords addGrantedKarts
  rw [List.filter_append]
  have hextra : ((keepFirst (grantIsListed catalog) ∅ profile.grantedKarts).map fun grant =>
      RiderItemRecord.normal 3 grant.kartId grant.serial 1 (preventItem profile)).filter
        (fun record => record.category = item.category && record.id = item.id
          && (item.category ≠ 3 || record.serial = 1)) = [] := by
    refine List.filter_eq_nil_iff.mpr fun record hm hrecord => ?_
    obtain ⟨grant, hgrant, rfl⟩ := List.mem_map.mp hm
    obtain ⟨hlow, -⟩ := grantIsListed_iff.mp (mem_keepFirst.mp hgrant).2.1
    simp only [Bool.and_eq_true, Bool.or_eq_true, decide_eq_true_eq] at hrecord
    obtain ⟨⟨hcategory, -⟩, hserial⟩ := hrecord
    have hcategory : 3 = item.category := hcategory
    have hserial : item.category ≠ 3 ∨ grant.serial = 1 := hserial
    omega
  have hkept : catalogRecords catalog profile = catalog.grantItems.map (catalogRecord profile) := rfl
  rw [hextra, List.append_nil, hkept, List.filter_map]
  have hsame : catalog.grantItems.filter ((fun record : RiderItemRecord =>
      record.category = item.category && record.id = item.id
        && (item.category ≠ 3 || record.serial = 1)) ∘ catalogRecord profile) =
      catalog.grantItems.filter fun other => other = item := by
    refine List.filter_congr fun other hother => ?_
    rw [Bool.eq_iff_iff, decide_eq_true_eq]
    simp only [Function.comp_apply, Bool.and_eq_true, Bool.or_eq_true, decide_eq_true_eq]
    constructor
    · rintro ⟨⟨hcategory, hid⟩, -⟩
      exact CatalogInventory.eq_of_key (CatalogInventory.mem_grantItems.mp hother).1
        (CatalogInventory.mem_grantItems.mp hitem).1 (Prod.ext hcategory hid)
    · rintro rfl
      refine ⟨⟨rfl, rfl⟩, ?_⟩
      by_cases hkart : other.category = 3
      · exact Or.inr (if_pos hkart)
      · exact Or.inl hkart
  have hnodup : catalog.grantItems.Nodup :=
    List.Nodup.of_map _ CatalogInventory.grantItems_keys_nodup
  rw [hsame, List.filter_eq, List.count_eq_one_of_mem hnodup hitem]
  rfl

theorem snapshot_xPart
    (h : buildInventorySnapshotWithEquipment catalog profile equipment = .ok snapshot)
    (request : XPartEquipRequest) :
    generatedXPartIsGranted profile.slotChanger request = true ↔
      ∃ record ∈ snapshot.records, record.partFlag = 1 ∧
        (record.category : Int) = request.itemCategory ∧ (record.id : Int) = request.itemId ∧
        record.grade = request.grade ∧ record.amount = bitsOfI16 request.quantity ∧
        record.value = request.partsValue := by
  obtain ⟨-, -, -, -, hrecords⟩ := build_ok h
  rw [generatedXPartIsGranted_iff]
  constructor
  · rintro ⟨record, hm, hrest⟩
    refine ⟨record, ?_, (category_of_generated hm).1, hrest⟩
    rw [hrecords]
    exact List.mem_append_left _ (List.mem_append_right _ hm)
  · rintro ⟨record, hm, hflag, hrest⟩
    -- the records of the catalog groups are no parts
    have hnormal : ∀ order : List Nat, record ∉ order.flatMap fun category =>
        (snapshotRecords catalog profile).filter fun record => record.category = category := by
      intro order hm
      obtain ⟨category, -, hm⟩ := List.mem_flatMap.mp hm
      rcases mem_snapshotRecords.mp (List.mem_filter.mp hm).1 with ⟨item, -, rfl⟩ | ⟨grant, -, -, rfl⟩
      · cases hflag
      · cases hflag
    rw [hrecords, List.mem_append, List.mem_append] at hm
    rcases hm with (hm | hm) | hm
    · exact absurd hm (hnormal _)
    · exact ⟨record, hm, hrest⟩
    · exact absurd hm (hnormal _)

/-- The X-parts records of a snapshot: the retained ones, and one more for each kart without. -/
theorem snapshot_parts (htable : PartsTable equipment.parts)
    (h : buildInventorySnapshotWithEquipment catalog profile equipment = .ok snapshot) :
    ∃ added, snapshot.partsExceptions =
        (equipment.parts.filter fun record => hasKart snapshot.records record.key) ++ added ∧
      PartsTable snapshot.partsExceptions ∧
      (∀ record ∈ added, record = .bare record.id record.serial ∧
        hasKart snapshot.records record.key = true) ∧
      ∀ kart ∈ snapshot.records, kart.category = 3 → catalog.supportsXParts kart.id = true →
        kart.id ≤ 32767 → kart.serial ≤ 32767 →
        ((kart.id : Int), (kart.serial : Int)) ∈
          snapshot.partsExceptions.map PartsExcRecord.key := by
  obtain ⟨-, -, -, hparts, -⟩ := build_ok h
  have hretained := @retainOwned_eq _ _ _ _ _ _ h _ PartsExcRecord.key equipment.parts
    (signed_of_mem equipment fun k hk => List.mem_append_right _ hk)
  rw [hretained] at hparts
  have hkeyed : Keyed PartsExcRecord.key
      (equipment.parts.filter fun record => hasKart snapshot.records record.key) :=
    htable.keyed.sublist (List.filter_sublist.map _)
  obtain ⟨added, heq, hkeys, hbare, hall⟩ := addMissingXParts_spec
    ((snapshotRecords catalog profile).filter fun record =>
      record.category = 3 && catalog.supportsXParts record.id)
    (fun key => List.mem_toFinset) hkeyed
  have hparts : snapshot.partsExceptions = _ := hparts.trans heq
  -- a kart of the snapshot has a serial, so normalizing changes nothing
  have hkart : ∀ kart ∈ snapshotRecords catalog profile, kart.category = 3 →
      normalizeItemSerial kart.id kart.serial = kart.serial := by
    intro kart hm hthree
    refine if_neg fun hzero => ?_
    rcases kart_of_mem hm hthree with ⟨hone, -⟩ | ⟨htwo, -⟩
    · omega
    · omega
  have hadded : ∀ record ∈ added, ∃ kart ∈ snapshotRecords catalog profile, kart.category = 3 ∧
      record = .bare kart.id kart.serial := by
    intro record hm
    obtain ⟨kart, hsource, hrecord⟩ := hbare record hm
    obtain ⟨hsource, hp⟩ := List.mem_filter.mp hsource
    rw [Bool.and_eq_true, decide_eq_true_eq] at hp
    rw [hkart kart hsource hp.1] at hrecord
    exact ⟨kart, hsource, hp.1, hrecord⟩
  refine ⟨added, hparts, ?_, fun record hm => ?_, fun kart hm hthree hx hid hserial => ?_⟩
  · rw [hparts]
    refine ⟨hkeys, fun record hm => ?_⟩
    rcases List.mem_append.mp hm with hm | hm
    · exact htable.normal record (List.mem_filter.mp hm).1
    · obtain ⟨kart, hsource, hthree, rfl⟩ := hadded record hm
      show normalizeKartSerial (kart.id : Int) (kart.serial : Int) = (kart.serial : Int)
      rw [normalizeKartSerial_natCast, hkart kart hsource hthree]
  · obtain ⟨kart, hsource, hthree, rfl⟩ := hadded record hm
    refine ⟨rfl, ?_⟩
    rw [hasKart_snapshot h, hasKart_iff]
    refine ⟨kart, hsource, hthree, rfl, ?_⟩
    show (kart.serial : Int) = normalizeKartSerial (kart.id : Int) (kart.serial : Int)
    rw [normalizeKartSerial_natCast, hkart kart hsource hthree]
  · have hsource : kart ∈ snapshotRecords catalog profile :=
      (mem_snapshot h (by rw [hthree]; decide)).mp hm
    have hnormal := hkart kart hsource hthree
    have hmem := hall kart (List.mem_filter.mpr ⟨hsource, by simp [hthree, hx]⟩) hid
      (by rw [hnormal]; exact hserial)
    rw [hnormal, ← hparts] at hmem
    exact hmem

/-- In a table one row has the key of a kart. -/
theorem count_of_table {parts : List PartsExcRecord} (htable : PartsTable parts) {id serial : Int}
    (hm : (id, serial) ∈ parts.map PartsExcRecord.key) :
    (parts.filter fun record => record.id = id
      && normalizeKartSerial record.id record.serial = serial).length = 1 := by
  have hsame : (parts.filter fun record => record.id = id
      && normalizeKartSerial record.id record.serial = serial) =
      parts.filter fun record => record.key = (id, serial) := by
    refine List.filter_congr fun record hrecord => ?_
    rw [htable.normal record hrecord, Bool.eq_iff_iff]
    simp [PartsExcRecord.key]
  have hcount : (parts.map PartsExcRecord.key).count (id, serial) = 1 :=
    List.count_eq_one_of_mem htable.keyed hm
  rw [hsame, ← hcount, List.count_eq_countP, List.countP_map, List.countP_eq_length_filter]
  refine congrArg List.length (List.filter_congr fun record _ => ?_)
  rw [Bool.eq_iff_iff, decide_eq_true_eq]
  simp

end Snapshots

/-- A snapshot built from what the loader read is consistent. -/
theorem buildInventorySnapshot_consistent {S ρ X : Type} (catalog : CatalogInventory S)
    (profile : RiderProfile ρ) (equipment : EquipmentExceptions) (elements : List PartsExcRecord)
    (userStates : List (PartsState X)) (snapshot : InventorySnapshot)
    (hglobal : Keyed PartsExcRecord.key (elements.map parsePartsRecord))
    (hparts : loadMergedPartsRecords elements userStates = .ok equipment.parts)
    (hbuild : buildInventorySnapshotWithEquipment catalog profile equipment = .ok snapshot) :
    SnapshotConsistent catalog profile equipment snapshot := by
  have htable := loadMergedPartsRecords_table hglobal hparts
  obtain ⟨htune, hplant, hlevel, -, -⟩ := build_ok hbuild
  rw [retainOwned_eq hbuild (signed_of_mem equipment fun _ hk =>
    List.mem_append_left _ (List.mem_append_left _ (List.mem_append_left _ hk)))] at htune
  rw [retainOwned_eq hbuild (signed_of_mem equipment fun _ hk =>
    List.mem_append_left _ (List.mem_append_left _ (List.mem_append_right _ hk)))] at hplant
  rw [retainOwned_eq hbuild (signed_of_mem equipment fun _ hk =>
    List.mem_append_left _ (List.mem_append_right _ hk))] at hlevel
  obtain ⟨added, hsplit, hsnapshot, hadded, hxParts⟩ := snapshot_parts htable hbuild
  have hretained : ∀ {α : Type} (key : α → Int × Int) (records : List α), ∀ k ∈
      (records.filter fun record => hasKart snapshot.records (key record)).map key,
      hasKart snapshot.records k = true := by
    intro α key records k hk
    obtain ⟨record, hm, rfl⟩ := List.mem_map.mp hk
    exact (List.mem_filter.mp hm).2
  refine ⟨?_, fun k hk => ?_, htune, hplant, hlevel, ⟨added, hsplit, fun record hm =>
    (hadded record hm).1⟩, fun kart hm hthree hx hid hserial => ?_,
    fun item hitem hlisted => snapshot_grants hbuild hitem hlisted, snapshot_xPart hbuild⟩
  · rw [filter_snapshot hbuild 3 (by decide) fun record hrecord => of_decide_eq_true hrecord]
    exact snapshotRecords_karts catalog profile
  · unfold exceptionKeys at hk
    rw [List.mem_append, List.mem_append, List.mem_append, htune, hplant, hlevel, hsplit] at hk
    rcases hk with ((hk | hk) | hk) | hk
    · exact hretained _ _ k hk
    · exact hretained _ _ k hk
    · exact hretained _ _ k hk
    · rw [List.map_append, List.mem_append] at hk
      rcases hk with hk | hk
      · exact hretained _ _ k hk
      · obtain ⟨record, hm, rfl⟩ := List.mem_map.mp hk
        exact (hadded record hm).2
  · exact count_of_table hsnapshot (hxParts kart hm hthree hx hid hserial)

/-! ## A catalog that is large enough -/

section Sample

/-- Kart 2001 to 3200 of seventy categories. -/
def sampleKeys : List (Nat × Nat) := List.product (List.range' 1 70) (List.range' 2001 1200)

def sampleItem (key : Nat × Nat) : CatalogInventoryItem := ⟨key.1, key.2, 0, [], true, true⟩

theorem mem_sampleKeys {key : Nat × Nat} :
    key ∈ sampleKeys ↔ (1 ≤ key.1 ∧ key.1 ≤ 70) ∧ 2001 ≤ key.2 ∧ key.2 ≤ 3200 := by
  obtain ⟨category, id⟩ := key
  unfold sampleKeys
  rw [List.pair_mem_product, List.mem_range'_1, List.mem_range'_1]
  omega

def sampleCatalog : CatalogInventory Unit where
  items := sampleKeys.map sampleItem
  kartNames := ∅
  kartSpecs := ∅
  ids := by
    intro item hm
    obtain ⟨key, hkey, rfl⟩ := List.mem_map.mp hm
    have hrange := mem_sampleKeys.mp hkey
    show key.2 ≠ 0
    omega
  distinct := by
    rw [List.map_map]
    refine List.Nodup.map (fun first second h => h) ?_
    exact (List.nodup_range' 1 Nat.one_pos).product (List.nodup_range' 1 Nat.one_pos)

/-- One more copy of the kart 2001, which has a Floater record; so has a kart nobody owns. -/
def sampleSnapshotProfile : RiderProfile Unit := ⟨0, 1000, 2001, 2, [⟨2001, 2⟩], ()⟩

def sampleExceptions : EquipmentExceptions where
  tune := [⟨2001, 2, 203, 0, 0, 0, 0, 0, 0⟩, ⟨9999, 1, 203, 0, 0, 0, 0, 0, 0⟩]
  plant := []
  kartLevel := []
  parts := [.bare 2001 1]
  signed := by simp [exceptionKeys, TuneExcRecord.key, PartsExcRecord.key, PartsExcRecord.bare, IsI16]

theorem sampleItem_granted {key : Nat × Nat} (hkey : key ∈ sampleKeys)
    (hcategory : key.1 ∈ grantCategoryIds) : sampleItem key ∈ sampleCatalog.grantItems := by
  have hrange := mem_sampleKeys.mp hkey
  refine CatalogInventory.mem_grantItems.mpr ⟨List.mem_map_of_mem hkey, ?_, ?_⟩
  · have hsafe : isStockItemSafeForImplicitGrant key.1 key.2 = true := by
      -- the ids that are left out are below 2001, or 30022
      have hlists : ∀ id ∈ unsafeCharacterItemIds ++ unsafePlateItemIds ++ unsafeBalloonItemIds
          ++ unsafePetItemIds ++ unsafeMyroomItemIds, id < 2001 ∨ id = 30022 := by
        decide +kernel
      have hout : key.2 ∉ unsafeCharacterItemIds ++ unsafePlateItemIds ++ unsafeBalloonItemIds
          ++ unsafePetItemIds ++ unsafeMyroomItemIds := fun hm => by
        have hbound := hlists _ hm
        omega
      simp only [List.mem_append, not_or] at hout
      unfold isStockItemSafeForImplicitGrant
      split <;> simp [hout]
    show (true && isGrantCategory key.1 && isStockItemSafeForImplicitGrant key.1 key.2) = true
    rw [hsafe, Bool.true_and, Bool.and_true]
    exact decide_eq_true hcategory
  · show (_ || (none : Option Text).isNone || _) = true
    simp

/-- A list that contains this many different records is this long. -/
theorem le_length_of_keys {records : List RiderItemRecord} {keys : List (Nat × Nat)}
    (hnodup : keys.Nodup)
    (h : ∀ key ∈ keys, ∃ record ∈ records, (record.category, record.id) = key) :
    keys.length ≤ records.length := by
  have hsub : keys ⊆ records.map fun record => (record.category, record.id) := fun key hm =>
    List.mem_map.mpr (h key hm)
  have hle := (hnodup.subperm hsub).length_le
  rwa [List.length_map] at hle

theorem sampleRecord {category id : Nat} (hcategory : category ∈ listedCategories)
    (hlow : 2001 ≤ id) (hhigh : id ≤ 3200) :
    ∃ record ∈ snapshotRecords sampleCatalog sampleSnapshotProfile,
      (record.category, record.id) = (category, id) := by
  have hbounds : ∀ category ∈ listedCategories,
      (1 ≤ category ∧ category ≤ 70) ∧ category ∈ grantCategoryIds := by decide
  have hkey : (category, id) ∈ sampleKeys :=
    mem_sampleKeys.mpr ⟨(hbounds category hcategory).1, hlow, hhigh⟩
  exact ⟨_, mem_snapshotRecords.mpr (Or.inl ⟨_, sampleItem_granted hkey
    (hbounds category hcategory).2, rfl⟩), rfl⟩

theorem sampleSnapshot_built : ∃ snapshot, buildInventorySnapshotWithEquipment sampleCatalog
    sampleSnapshotProfile sampleExceptions = .ok snapshot := by
  have hids : (List.range' 2001 1200).Nodup := List.nodup_range' 1 Nat.one_pos
  apply build_succeeds
  · have hnodup : (List.product [3, 4, 7, 8, 9] (List.range' 2001 1200)).Nodup :=
      List.Nodup.product (by decide) hids
    have hfound : ∀ key ∈ List.product [3, 4, 7, 8, 9] (List.range' 2001 1200),
        ∃ record ∈ snapshotRecords sampleCatalog sampleSnapshotProfile,
          (record.category, record.id) = key := by
      intro key hm
      obtain ⟨category, id⟩ := key
      obtain ⟨hcategory, hid⟩ := List.pair_mem_product.mp hm
      have hlisted : ∀ category ∈ [3, 4, 7, 8, 9], category ∈ listedCategories := by decide
      have hlisted := hlisted category hcategory
      obtain ⟨hlow, hhigh⟩ := List.mem_range'_1.mp hid
      have hlast : id ≤ 3200 := by omega
      exact sampleRecord hlisted hlow hlast
    have hle := le_length_of_keys hnodup hfound
    have hlength : (List.product [3, 4, 7, 8, 9] (List.range' 2001 1200)).length =
        [3, 4, 7, 8, 9].length * (List.range' 2001 1200).length := List.length_product _ _
    rw [hlength, List.length_range'] at hle
    have hfive : [3, 4, 7, 8, 9].length = 5 := rfl
    rw [hfive] at hle
    unfold minimumGrantRecords
    omega
  · have hnodup : ((List.range' 2001 1200).map fun id => (3, id)).Nodup :=
      hids.map fun first second h => congrArg Prod.snd h
    have hle := le_length_of_keys hnodup fun key hm => by
      obtain ⟨id, hid, rfl⟩ := List.mem_map.mp hm
      rw [List.mem_range'_1] at hid
      have hthree : 3 ∈ listedCategories := by decide
      have hhigh : id ≤ 3200 := by omega
      obtain ⟨record, hrecord, hkey⟩ := sampleRecord hthree hid.1 hhigh
      have hcategory : record.category = 3 := congrArg Prod.fst hkey
      exact ⟨record, List.mem_filter.mpr ⟨hrecord, decide_eq_true hcategory⟩, hkey⟩
    rw [List.length_map, List.length_range'] at hle
    unfold minimumGrantKarts
    exact hle
  · intro category hm
    obtain ⟨record, hrecord, hkey⟩ := @sampleRecord category 2001 hm le_rfl (by omega)
    exact ⟨record, hrecord, congrArg Prod.fst hkey⟩

/-- The Floater record of copy 2 stays; the one of the kart 9999, which is not in the catalog,
goes; and the kart 2001 keeps its one record of X-parts. -/
theorem sampleSnapshot_consistent : ∃ snapshot,
    buildInventorySnapshotWithEquipment sampleCatalog sampleSnapshotProfile sampleExceptions =
        .ok snapshot ∧
      SnapshotConsistent sampleCatalog sampleSnapshotProfile sampleExceptions snapshot := by
  obtain ⟨snapshot, hbuild⟩ := sampleSnapshot_built
  have hload : loadMergedPartsRecords [.bare 2001 0] ([] : List (PartsState Unit)) =
      .ok sampleExceptions.parts := rfl
  exact ⟨snapshot, hbuild, buildInventorySnapshot_consistent _ _ _ _ _ _ (by
    unfold Keyed
    simp) hload hbuild⟩

end Sample

end P4475.Profile
