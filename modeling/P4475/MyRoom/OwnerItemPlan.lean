import P4475.MyRoom.OwnerItems

/-!
# The plan of the owner items is exact

The serializers and the planner are brought to one form: the checks that a 32-bit counter can
hold what it counts, and then values that cannot fail. `itemCheck` is the check of karts and
parts, `kartPackets` and `partsPackets` are what the packets say, each with its bytes. A plan is
then compared with packets, not with code. The empty inventory's packet is a packet of no karts.
-/

namespace P4475.MyRoom

open Lib

/-- What one owner-item packet says. -/
structure OwnerItemPacket (α : Type) where
  typeTotal : Nat
  typeOrdinal : Nat
  records : List α
  total : Nat
  ordinal : Nat

def tunePacketBytes (records : List MyRoomTune) : List UInt8 :=
  named ownerItemEnchantName ++ i32Bytes records.length ++ records.flatMap MyRoomTune.bytes

def kartPacketBytes (preventItem : Bool) (packet : OwnerItemPacket MyRoomKart) : List UInt8 :=
  named ownerItemName ++ i32Bytes packet.typeTotal ++ i32Bytes packet.typeOrdinal ++
    i32Bytes packet.records.length ++ packet.records.flatMap (MyRoomKart.bytes preventItem) ++
    List.replicate 8 0 ++ i32Bytes packet.total ++ i32Bytes packet.ordinal

def partsPacketBytes (packet : OwnerItemPacket MyRoomParts) : List UInt8 :=
  named ownerItemName ++ i32Bytes packet.typeTotal ++ i32Bytes packet.typeOrdinal ++ i32Bytes 0 ++
    i32Bytes 0 ++ i32Bytes packet.records.length ++ packet.records.flatMap MyRoomParts.bytes ++
    i32Bytes packet.total ++ i32Bytes packet.ordinal

/-- The packets of one type, of which `before` packets of the stream come first. -/
def numbered {α : Type} (total before : Nat) (pieces : List (List α)) : List (OwnerItemPacket α) :=
  pieces.zipIdx.map fun entry =>
    ⟨pieces.length, entry.2 + 1, entry.1, total, before + entry.2 + 1⟩

/-- The packets of karts and parts together. -/
def itemPacketCount (kartCount partsCount : Nat) : Nat :=
  divCeil kartCount myroomItemChunkSize + divCeil partsCount myroomItemChunkSize

def kartPackets (karts : List MyRoomKart) (parts : List MyRoomParts) :
    List (OwnerItemPacket MyRoomKart) :=
  if karts = [] ∧ parts = [] then [⟨1, 1, [], 1, 1⟩]
  else numbered (itemPacketCount karts.length parts.length) 0 (chunks myroomItemChunkSize karts)

def partsPackets (karts : List MyRoomKart) (parts : List MyRoomParts) :
    List (OwnerItemPacket MyRoomParts) :=
  numbered (itemPacketCount karts.length parts.length) (divCeil karts.length myroomItemChunkSize)
    (chunks myroomItemChunkSize parts)

/-- The counters of the karts and parts hold what they count. -/
def itemCheck (kartCount partsCount : Nat) : Except OwnerItemError Unit := do
  checkedCollectionLen "kart" kartCount
  checkedCollectionLen "parts" partsCount
  check (itemPacketCount kartCount partsCount ≤ i32Max)
    (.itemCollectionTooLarge "owner item packet" (itemPacketCount kartCount partsCount))

/-! ## Counters -/

theorem checkedCollectionLen_eq (field : String) (len : Nat) :
    checkedCollectionLen field len =
      check (divCeil len myroomItemChunkSize ≤ i32Max) (.itemCollectionTooLarge field len) := by
  unfold checkedCollectionLen wireChunkCount i32TryFrom check
  split <;> rfl

theorem wireCount_ok {field : String} {len : Nat} (h : len ≤ i32Max) :
    wireCount field len = .ok (len : Int) := by
  unfold wireCount i32TryFrom
  rw [if_pos h]
  rfl

theorem wireCount_error {field : String} {len : Nat} (h : ¬ len ≤ i32Max) :
    wireCount field len = .error (.itemCollectionTooLarge field len) := by
  unfold wireCount i32TryFrom
  rw [if_neg h]
  rfl

theorem wireChunkCount_ok {field : String} {len : Nat}
    (h : divCeil len myroomItemChunkSize ≤ i32Max) :
    wireChunkCount field len = .ok (divCeil len myroomItemChunkSize : Int) := by
  unfold wireChunkCount i32TryFrom
  rw [if_pos h]
  rfl

theorem i32Max_lt_usizeMax : i32Max < usizeMax := by
  unfold i32Max usizeMax u64Max
  omega

theorem checkedAdd_eq {a b : Nat} (h : a + b ≤ usizeMax) : checkedAdd a b = some (a + b) :=
  if_pos h

theorem wireIndex_ok {field : String} {index : Nat} (h : index + 1 ≤ i32Max) :
    wireIndex field index = .ok ((index + 1 : Nat) : Int) := by
  have hroom := i32Max_lt_usizeMax
  unfold wireIndex
  rw [checkedAdd_eq (by omega)]
  show okOr _ (i32TryFrom (index + 1)) = _
  unfold i32TryFrom
  rw [if_pos h]
  rfl

/-- A collection whose chunks fit a counter is far from filling the address space. -/
theorem collection_small {len : Nat} (h : divCeil len myroomItemChunkSize ≤ i32Max) :
    len ≤ 26 * i32Max := by
  have hge := divCeil_mul_ge (b := 26) (by omega) len
  unfold myroomItemChunkSize at h
  omega

theorem checkedWireCollectionLen_eq {field : String} {len overhead width : Nat}
    (h : divCeil len myroomItemChunkSize ≤ i32Max) (hoverhead : overhead ≤ 32) (hwidth : width ≤ 40) :
    checkedWireCollectionLen field (divCeil len myroomItemChunkSize) overhead len width =
      .ok (divCeil len myroomItemChunkSize * overhead + len * width) := by
  have hlen := collection_small h
  have hoverheads := Nat.mul_le_mul h hoverhead
  have hrecords := Nat.mul_le_mul hlen hwidth
  have hfit : i32Max * 32 + 26 * i32Max * 40 ≤ usizeMax := by
    unfold i32Max usizeMax u64Max
    omega
  unfold checkedWireCollectionLen checkedMul
  rw [if_pos (by omega), if_pos (by omega)]
  show okOr _ (checkedAdd _ _) = _
  rw [checkedAdd_eq (by omega)]
  rfl

/-! ## The serializers -/

theorem mapM_ok {ε α β : Type} {f : α → Except ε β} {g : α → β} {l : List α}
    (h : ∀ a ∈ l, f a = .ok (g a)) : l.mapM f = .ok (l.map g) := by
  induction l with
  | nil => rfl
  | cons a rest ih =>
    rw [List.mapM_cons, h a List.mem_cons_self, ih fun b hb => h b (List.mem_cons_of_mem _ hb)]
    rfl

theorem chunk_le_i32Max {α : Type} {l piece : List α}
    (h : piece ∈ chunks myroomItemChunkSize l) : piece.length ≤ i32Max := by
  have hle : piece.length ≤ myroomItemChunkSize := length_le_of_mem_chunks (by decide) h
  unfold myroomItemChunkSize at hle
  unfold i32Max
  omega

theorem serializeOwnerItemEnchants_eq (tunes : List MyRoomTune) :
    serializeOwnerItemEnchants tunes = (do
      checkedCollectionLen "tune" tunes.length
      return (chunks myroomItemChunkSize tunes).map tunePacketBytes) := by
  unfold serializeOwnerItemEnchants
  congr 1
  funext _
  refine mapM_ok fun piece hm => ?_
  rw [wireCount_ok (chunk_le_i32Max hm)]
  rfl

/-- The place of a chunk among its type's. -/
theorem index_lt {α : Type} {l : List α} {entry : List α × Nat}
    (h : entry ∈ (chunks myroomItemChunkSize l).zipIdx) :
    entry.1 ∈ chunks myroomItemChunkSize l ∧
      entry.2 < divCeil l.length myroomItemChunkSize := by
  obtain ⟨hlow, hhigh, hentry⟩ := List.mem_zipIdx h
  have hpos : 0 < myroomItemChunkSize := by decide
  rw [← length_chunks hpos]
  refine ⟨?_, by omega⟩
  rw [hentry]
  exact List.getElem_mem _

theorem serializeKartChunk_ok {preventItem : Bool} {typeTotal total index : Nat}
    {piece : List MyRoomKart} (hpiece : piece.length ≤ i32Max) (hindex : index + 1 ≤ i32Max) :
    serializeKartChunk preventItem (typeTotal : Int) (total : Int) piece index =
      .ok (kartPacketBytes preventItem ⟨typeTotal, index + 1, piece, total, 0 + index + 1⟩) := by
  unfold serializeKartChunk kartPacketBytes
  rw [wireIndex_ok hindex, wireCount_ok hpiece, wireIndex_ok hindex, Nat.zero_add]
  show Except.ok _ = Except.ok _
  simp only [List.append_assoc]

theorem serializePartsChunk_ok {kartCount partsCount before typeTotal total index : Nat}
    {piece : List MyRoomParts} (hpiece : piece.length ≤ i32Max)
    (hindex : before + index + 1 ≤ i32Max) :
    serializePartsChunk kartCount partsCount before (typeTotal : Int) (total : Int) piece index =
      .ok (partsPacketBytes ⟨typeTotal, index + 1, piece, total, before + index + 1⟩) := by
  have hroom := i32Max_lt_usizeMax
  unfold serializePartsChunk partsPacketBytes
  rw [checkedAdd_eq (by omega), okOr_some, ok_bind, wireIndex_ok (by omega), wireCount_ok hpiece,
    wireIndex_ok hindex]
  show Except.ok _ = Except.ok _
  simp only [List.append_assoc]

theorem kartPackets_eq {karts : List MyRoomKart} {parts : List MyRoomParts}
    (h : ¬ (karts = [] ∧ parts = [])) : kartPackets karts parts =
      numbered (itemPacketCount karts.length parts.length) 0 (chunks myroomItemChunkSize karts) :=
  if_neg h

theorem isEmpty_iff {karts : List MyRoomKart} {parts : List MyRoomParts} :
    (karts.isEmpty && parts.isEmpty) = true ↔ karts = [] ∧ parts = [] := by
  rw [Bool.and_eq_true, List.isEmpty_iff, List.isEmpty_iff]

theorem serializeOwnerItems_eq (karts : List MyRoomKart) (parts : List MyRoomParts)
    (preventItem : Bool) : serializeOwnerItems karts parts preventItem = (do
      itemCheck karts.length parts.length
      return (kartPackets karts parts).map (kartPacketBytes preventItem) ++
        (partsPackets karts parts).map partsPacketBytes) := by
  unfold serializeOwnerItems itemCheck
  rw [checkedCollectionLen_eq, checkedCollectionLen_eq]
  by_cases hkarts : divCeil karts.length myroomItemChunkSize ≤ i32Max
  case neg =>
    unfold check
    rw [if_neg hkarts]
    rfl
  by_cases hparts : divCeil parts.length myroomItemChunkSize ≤ i32Max
  case neg =>
    unfold check
    rw [if_pos hkarts, if_neg hparts]
    rfl
  have hroom : i32Max + i32Max ≤ usizeMax := by
    unfold i32Max usizeMax u64Max
    omega
  unfold check
  rw [if_pos hkarts, if_pos hparts]
  simp only [ok_bind]
  by_cases hempty : karts = [] ∧ parts = []
  · -- the explicit empty packet is a packet of no karts
    rw [if_pos (isEmpty_iff.mpr hempty)]
    obtain ⟨rfl, rfl⟩ := hempty
    have hfits : itemPacketCount 0 0 ≤ i32Max := Nat.zero_le _
    rw [List.length_nil, List.length_nil, if_pos hfits, kartPackets, if_pos ⟨rfl, rfl⟩, partsPackets,
      chunks_nil]
    rfl
  · rw [if_neg (fun h => hempty (isEmpty_iff.mp h)), checkedAdd_eq (by omega), okOr_some, ok_bind]
    show (do
      let allCount ← wireCount "owner item packet" (itemPacketCount karts.length parts.length)
      _) = _
    by_cases hall : itemPacketCount karts.length parts.length ≤ i32Max
    case neg =>
      rw [wireCount_error hall, if_neg hall]
      rfl
    have hkartPackets : (chunks myroomItemChunkSize karts).zipIdx.mapM (fun entry =>
        serializeKartChunk preventItem (divCeil karts.length myroomItemChunkSize : Int)
          (itemPacketCount karts.length parts.length : Int) entry.1 entry.2) =
        .ok ((kartPackets karts parts).map (kartPacketBytes preventItem)) := by
      rw [kartPackets_eq hempty, numbered, List.map_map]
      refine mapM_ok fun entry hm => ?_
      obtain ⟨hpiece, hlt⟩ := index_lt hm
      rw [serializeKartChunk_ok (chunk_le_i32Max hpiece) (by omega)]
      rw [Function.comp_apply, length_chunks (by decide)]
    have hpartsPackets : (chunks myroomItemChunkSize parts).zipIdx.mapM (fun entry =>
        serializePartsChunk karts.length parts.length (divCeil karts.length myroomItemChunkSize)
          (divCeil parts.length myroomItemChunkSize : Int)
          (itemPacketCount karts.length parts.length : Int) entry.1 entry.2) =
        .ok ((partsPackets karts parts).map partsPacketBytes) := by
      rw [partsPackets, numbered, List.map_map]
      refine mapM_ok fun entry hm => ?_
      obtain ⟨hpiece, hlt⟩ := index_lt hm
      unfold itemPacketCount at hall
      rw [serializePartsChunk_ok (chunk_le_i32Max hpiece) (by omega)]
      rw [Function.comp_apply, length_chunks (by decide)]
    rw [wireCount_ok hall, wireChunkCount_ok hkarts, wireChunkCount_ok hparts, if_pos hall]
    simp only [ok_bind, hkartPackets, hpartsPackets]

/-! ## The planner -/

/-- The bytes of the karts' and parts' packets. -/
def itemPacketBytes (kartCount partsCount : Nat) : Nat :=
  divCeil kartCount myroomItemChunkSize * ownerItemPacketOverhead +
    kartCount * ownerKartWireLength +
    (divCeil partsCount myroomItemChunkSize * ownerItemPacketOverhead +
      partsCount * ownerPartsWireLength)

/-- The packets of karts and parts, and their bytes. -/
def exactItems (kartCount partsCount : Nat) : Nat × Nat :=
  if kartCount = 0 ∧ partsCount = 0 then (1, ownerItemPacketOverhead)
  else (itemPacketCount kartCount partsCount, itemPacketBytes kartCount partsCount)

theorem planItemPackets_eq {kartCount partsCount : Nat}
    (hkarts : divCeil kartCount myroomItemChunkSize ≤ i32Max)
    (hparts : divCeil partsCount myroomItemChunkSize ≤ i32Max) :
    planItemPackets kartCount partsCount = (do
      check (itemPacketCount kartCount partsCount ≤ i32Max)
        (.itemCollectionTooLarge "owner item packet" (itemPacketCount kartCount partsCount))
      return exactItems kartCount partsCount) := by
  have hroom : i32Max + i32Max ≤ usizeMax := by
    unfold i32Max usizeMax u64Max
    omega
  have hkartsLen := collection_small hkarts
  have hpartsLen := collection_small hparts
  have hfit : i32Max * 32 + 26 * i32Max * 18 + (i32Max * 32 + 26 * i32Max * 40) ≤ usizeMax := by
    unfold i32Max usizeMax u64Max
    omega
  unfold planItemPackets exactItems check
  by_cases hempty : kartCount = 0 ∧ partsCount = 0
  · rw [if_pos hempty, if_pos hempty]
    obtain ⟨rfl, rfl⟩ := hempty
    have hfits : itemPacketCount 0 0 ≤ i32Max := Nat.zero_le _
    rw [if_pos hfits]
    rfl
  · rw [if_neg hempty, if_neg hempty]
    dsimp only
    rw [checkedAdd_eq (by omega), okOr_some, ok_bind]
    show (do
      let _ ← wireCount "owner item packet" (itemPacketCount kartCount partsCount)
      _) = _
    by_cases hall : itemPacketCount kartCount partsCount ≤ i32Max
    case neg =>
      rw [wireCount_error hall, if_neg hall]
      rfl
    rw [wireCount_ok hall, if_pos hall, ok_bind, ok_bind,
      checkedWireCollectionLen_eq hkarts (by decide) (by decide), ok_bind,
      checkedWireCollectionLen_eq hparts (by decide) (by decide), ok_bind, checkedAdd_eq, okOr_some]
    · rfl
    · unfold ownerItemPacketOverhead namedPacketHeaderLength ownerKartWireLength
        ownerPartsWireLength
      omega

/-- What a plan says where it is made. -/
def exactPlan (tuneCount kartCount partsCount : Nat) : MyRoomOwnerItemWirePlan :=
  ⟨divCeil tuneCount myroomItemChunkSize + (exactItems kartCount partsCount).1,
    divCeil tuneCount myroomItemChunkSize * ownerEnchantPacketOverhead +
      tuneCount * ownerTuneWireLength + (exactItems kartCount partsCount).2⟩

/-- No sum or product of a plan leaves the address space. -/
theorem exactPlan_fits {tuneCount kartCount partsCount : Nat}
    (htunes : divCeil tuneCount myroomItemChunkSize ≤ i32Max)
    (hkarts : divCeil kartCount myroomItemChunkSize ≤ i32Max)
    (hparts : divCeil partsCount myroomItemChunkSize ≤ i32Max) :
    (exactPlan tuneCount kartCount partsCount).packetCount ≤ usizeMax ∧
      (exactPlan tuneCount kartCount partsCount).byteLen ≤ usizeMax := by
  have htunesLen := collection_small htunes
  have hkartsLen := collection_small hkarts
  have hpartsLen := collection_small hparts
  have hfit : i32Max * 8 + 26 * i32Max * 24 + (i32Max * 32 + 26 * i32Max * 18 +
      (i32Max * 32 + 26 * i32Max * 40)) + 32 ≤ usizeMax := by
    unfold i32Max usizeMax u64Max
    omega
  unfold exactPlan exactItems itemPacketCount itemPacketBytes ownerItemPacketOverhead
    ownerEnchantPacketOverhead namedPacketHeaderLength ownerTuneWireLength ownerKartWireLength
    ownerPartsWireLength
  dsimp only
  constructor
  · split <;> omega
  · split <;> omega

theorem planOwnerItemPackets_eq (tuneCount kartCount partsCount : Nat) :
    planOwnerItemPackets tuneCount kartCount partsCount = (do
      checkedCollectionLen "tune" tuneCount
      itemCheck kartCount partsCount
      return exactPlan tuneCount kartCount partsCount) := by
  unfold planOwnerItemPackets itemCheck
  rw [checkedCollectionLen_eq, checkedCollectionLen_eq, checkedCollectionLen_eq]
  by_cases htunes : divCeil tuneCount myroomItemChunkSize ≤ i32Max
  case neg =>
    unfold check
    rw [if_neg htunes]
    rfl
  by_cases hkarts : divCeil kartCount myroomItemChunkSize ≤ i32Max
  case neg =>
    unfold check
    rw [if_pos htunes, if_neg hkarts]
    rfl
  by_cases hparts : divCeil partsCount myroomItemChunkSize ≤ i32Max
  case neg =>
    unfold check
    rw [if_pos htunes, if_pos hkarts, if_neg hparts]
    rfl
  dsimp only
  rw [checkedWireCollectionLen_eq htunes (by decide) (by decide), planItemPackets_eq hkarts hparts]
  unfold check
  rw [if_pos htunes, if_pos hkarts, if_pos hparts]
  simp only [ok_bind]
  by_cases hall : itemPacketCount kartCount partsCount ≤ i32Max
  case neg =>
    rw [if_neg hall]
    rfl
  obtain ⟨hpackets, hbytes⟩ := exactPlan_fits htunes hkarts hparts
  rw [if_pos hall]
  simp only [ok_bind]
  rw [pure_bind, checkedAdd_eq hpackets, okOr_some, ok_bind, checkedAdd_eq hbytes, okOr_some, ok_bind]
  rfl

/-! ## Packets and plan -/

theorem length_tunePacket (records : List MyRoomTune) : (tunePacketBytes records).length =
    ownerEnchantPacketOverhead + ownerTuneWireLength * records.length := by
  unfold tunePacketBytes
  rw [List.length_append, List.length_append, length_flatMap_of_width length_tuneBytes,
    length_named, length_i32Bytes]
  rfl

theorem length_kartPacket (preventItem : Bool) (packet : OwnerItemPacket MyRoomKart) :
    (kartPacketBytes preventItem packet).length =
      ownerItemPacketOverhead + ownerKartWireLength * packet.records.length := by
  unfold kartPacketBytes
  simp only [List.length_append, length_flatMap_of_width (length_kartBytes preventItem),
    length_named, length_i32Bytes, List.length_replicate]
  unfold ownerItemPacketOverhead
  omega

theorem length_partsPacket (packet : OwnerItemPacket MyRoomParts) :
    (partsPacketBytes packet).length =
      ownerItemPacketOverhead + ownerPartsWireLength * packet.records.length := by
  unfold partsPacketBytes
  simp only [List.length_append, length_flatMap_of_width length_partsBytes, length_named,
    length_i32Bytes]
  unfold ownerItemPacketOverhead
  omega

section
variable {α : Type} (total before : Nat) (pieces : List (List α))

theorem numbered_records : (numbered total before pieces).map OwnerItemPacket.records = pieces := by
  unfold numbered
  rw [List.map_map]
  exact List.zipIdx_map_fst 0 pieces

theorem length_numbered : (numbered total before pieces).length = pieces.length := by
  unfold numbered
  rw [List.length_map, List.length_zipIdx]

/-- The counters of a type run from one. -/
theorem numbered_typeOrdinals :
    (numbered total before pieces).map OwnerItemPacket.typeOrdinal =
      List.range' 1 pieces.length := by
  have hsucc : (fun entry : List α × Nat => entry.2 + 1) = (1 + ·) ∘ Prod.snd := by
    funext entry
    exact Nat.add_comm _ _
  unfold numbered
  rw [List.map_map]
  show pieces.zipIdx.map (fun entry => entry.2 + 1) = _
  rw [hsucc, ← List.map_map, List.zipIdx_map_snd, List.map_add_range']

/-- The ordinals go on where the packets before stopped. -/
theorem numbered_ordinals :
    (numbered total before pieces).map OwnerItemPacket.ordinal =
      List.range' (before + 1) pieces.length := by
  have hsucc : (fun entry : List α × Nat => before + entry.2 + 1) =
      (before + 1 + ·) ∘ Prod.snd := by
    funext entry
    show before + entry.2 + 1 = before + 1 + entry.2
    omega
  unfold numbered
  rw [List.map_map]
  show pieces.zipIdx.map (fun entry => before + entry.2 + 1) = _
  rw [hsucc, ← List.map_map, List.zipIdx_map_snd, List.map_add_range']

theorem numbered_totals : ∀ packet ∈ numbered total before pieces,
    packet.total = total ∧ packet.typeTotal = pieces.length := by
  intro packet hm
  obtain ⟨entry, -, rfl⟩ := List.mem_map.mp hm
  exact ⟨rfl, rfl⟩

end

/-! ## The claim of the planner -/

/-- `pieces` cut `records` into lists that fit a packet: every record once, in order. -/
structure Cut {α : Type} (records : List α) (pieces : List (List α)) : Prop where
  all : pieces.flatten = records
  size : ∀ piece ∈ pieces, piece.length ≤ 26

/-- The counters of one type's packets in a stream of `total`. -/
structure Counted {α : Type} (total : Nat) (packets : List (OwnerItemPacket α)) : Prop where
  typeOrdinals : packets.map OwnerItemPacket.typeOrdinal = List.range' 1 packets.length
  typeTotals : ∀ packet ∈ packets, packet.typeTotal = packets.length
  totals : ∀ packet ∈ packets, packet.total = total

theorem cut_chunks {α : Type} (records : List α) : Cut records (chunks myroomItemChunkSize records) where
  all := chunks_flatten _ records
  size := fun _ hm => length_le_of_mem_chunks (by decide) hm

theorem numbered_counted {α : Type} (total before : Nat) (pieces : List (List α)) :
    Counted total (numbered total before pieces) where
  typeOrdinals := by
    rw [numbered_typeOrdinals, length_numbered]
  typeTotals := by
    rw [length_numbered]
    exact fun packet hm => (numbered_totals total before pieces packet hm).2
  totals := fun packet hm => (numbered_totals total before pieces packet hm).1

/-- The owner-item packets of an inventory, and what they say. -/
structure ItemStream (karts : List MyRoomKart) (parts : List MyRoomParts) (preventItem : Bool)
    (kartPackets : List (OwnerItemPacket MyRoomKart))
    (partsPackets : List (OwnerItemPacket MyRoomParts)) (items : List (List UInt8)) : Prop where
  bytes : items = kartPackets.map (kartPacketBytes preventItem) ++ partsPackets.map partsPacketBytes
  karts : Cut karts (kartPackets.map OwnerItemPacket.records)
  parts : Cut parts (partsPackets.map OwnerItemPacket.records)
  kartsCounted : Counted items.length kartPackets
  partsCounted : Counted items.length partsPackets
  ordinals : kartPackets.map OwnerItemPacket.ordinal ++ partsPackets.map OwnerItemPacket.ordinal =
    List.range' 1 items.length

section
variable (karts : List MyRoomKart) (parts : List MyRoomParts) (preventItem : Bool)

def itemBytes : List (List UInt8) :=
  (kartPackets karts parts).map (kartPacketBytes preventItem) ++
    (partsPackets karts parts).map partsPacketBytes

theorem length_partsPackets :
    (partsPackets karts parts).length = divCeil parts.length myroomItemChunkSize := by
  unfold partsPackets
  rw [length_numbered, length_chunks (by decide)]

theorem itemStream_empty : ItemStream [] [] preventItem (kartPackets [] []) (partsPackets [] [])
    (itemBytes [] [] preventItem) := by
  have hkarts : kartPackets [] [] = [⟨1, 1, [], 1, 1⟩] := if_pos ⟨rfl, rfl⟩
  have hparts : partsPackets [] [] = [] := by
    unfold partsPackets
    rw [chunks_nil]
    rfl
  unfold itemBytes
  rw [hkarts, hparts]
  refine ⟨rfl, ⟨rfl, ?_⟩, ⟨rfl, ?_⟩, ⟨rfl, ?_, ?_⟩, ⟨rfl, ?_, ?_⟩, rfl⟩
  · intro piece hm
    obtain rfl := List.mem_singleton.mp hm
    exact Nat.zero_le 26
  · intro piece hm
    cases hm
  · intro packet hm
    obtain rfl := List.mem_singleton.mp hm
    rfl
  · intro packet hm
    obtain rfl := List.mem_singleton.mp hm
    rfl
  · intro packet hm
    cases hm
  · intro packet hm
    cases hm

theorem itemStream : ItemStream karts parts preventItem (kartPackets karts parts)
    (partsPackets karts parts) (itemBytes karts parts preventItem) := by
  by_cases hempty : karts = [] ∧ parts = []
  · obtain ⟨rfl, rfl⟩ := hempty
    exact itemStream_empty preventItem
  have hkarts := kartPackets_eq hempty
  have hlength : (itemBytes karts parts preventItem).length =
      itemPacketCount karts.length parts.length := by
    unfold itemBytes
    rw [List.length_append, List.length_map, List.length_map, length_partsPackets, hkarts,
      length_numbered, length_chunks (by decide)]
    rfl
  refine ⟨rfl, ?_, ?_, ?_, ?_, ?_⟩
  · rw [hkarts, numbered_records]
    exact cut_chunks karts
  · unfold partsPackets
    rw [numbered_records]
    exact cut_chunks parts
  · rw [hlength, hkarts]
    exact numbered_counted _ _ _
  · rw [hlength]
    exact numbered_counted _ _ _
  · -- the parts' ordinals start behind the last packet of karts
    rw [hlength, hkarts, numbered_ordinals]
    unfold partsPackets
    rw [numbered_ordinals, length_chunks (by decide), length_chunks (by decide), Nat.zero_add,
      Nat.add_comm _ 1, List.range'_append_1]
    rfl

/-- As many packets and bytes as were planned. -/
theorem itemBytes_planned : (itemBytes karts parts preventItem).length =
      (exactItems karts.length parts.length).1 ∧
    ((itemBytes karts parts preventItem).map List.length).sum =
      (exactItems karts.length parts.length).2 := by
  have hcut := itemStream karts parts preventItem
  have hsum : ((itemBytes karts parts preventItem).map List.length).sum =
      (kartPackets karts parts).length * ownerItemPacketOverhead +
        karts.length * ownerKartWireLength +
      ((partsPackets karts parts).length * ownerItemPacketOverhead +
        parts.length * ownerPartsWireLength) := by
    unfold itemBytes
    rw [List.map_append, List.sum_append, sum_blocks (length_kartPacket preventItem),
      sum_blocks length_partsPacket, hcut.karts.all, hcut.parts.all]
  have hcount : (itemBytes karts parts preventItem).length =
      (kartPackets karts parts).length + (partsPackets karts parts).length := by
    unfold itemBytes
    rw [List.length_append, List.length_map, List.length_map]
  rw [hsum, hcount, length_partsPackets]
  by_cases hempty : karts = [] ∧ parts = []
  · obtain ⟨rfl, rfl⟩ := hempty
    have hkarts : kartPackets [] [] = [⟨1, 1, [], 1, 1⟩] := if_pos ⟨rfl, rfl⟩
    rw [hkarts]
    exact ⟨rfl, rfl⟩
  · have hnonempty : ¬ (karts.length = 0 ∧ parts.length = 0) := by
      rw [List.length_eq_zero_iff, List.length_eq_zero_iff]
      exact hempty
    unfold exactItems
    rw [if_neg hnonempty, kartPackets_eq hempty, length_numbered, length_chunks (by decide)]
    exact ⟨rfl, rfl⟩

end

/-- An `i32` cannot count that many; the error shows `shown`. -/
def Refused (field : String) (counted shown : Nat) (error : OwnerItemError) : Prop :=
  i32Max < counted ∧ error = .itemCollectionTooLarge field shown

def TunesRefused (tuneCount : Nat) (error : OwnerItemError) : Prop :=
  Refused "tune" (divCeil tuneCount myroomItemChunkSize) tuneCount error

def ItemsRefused (kartCount partsCount : Nat) (error : OwnerItemError) : Prop :=
  Refused "kart" (divCeil kartCount myroomItemChunkSize) kartCount error ∨
    Refused "parts" (divCeil partsCount myroomItemChunkSize) partsCount error ∨
    Refused "owner item packet" (itemPacketCount kartCount partsCount)
      (itemPacketCount kartCount partsCount) error

theorem check_error {ε : Type} {c : Prop} [Decidable c] {e error : ε}
    (h : check c e = .error error) : ¬ c ∧ error = e := by
  unfold check at h
  split at h
  next => cases h
  next hc => exact ⟨hc, (Except.error.inj h).symm⟩

theorem tunes_cases (tuneCount : Nat) :
    (checkedCollectionLen "tune" tuneCount = .ok () ∧
      divCeil tuneCount myroomItemChunkSize ≤ i32Max) ∨
    ∃ error, checkedCollectionLen "tune" tuneCount = .error error ∧
      TunesRefused tuneCount error := by
  rw [checkedCollectionLen_eq]
  cases h : check (divCeil tuneCount myroomItemChunkSize ≤ i32Max)
      (OwnerItemError.itemCollectionTooLarge "tune" tuneCount) with
  | ok u => exact .inl ⟨rfl, check_eq_ok.mp h⟩
  | error error =>
    obtain ⟨hlarge, rfl⟩ := check_error h
    exact .inr ⟨_, rfl, Nat.lt_of_not_le hlarge, rfl⟩

theorem items_cases (kartCount partsCount : Nat) :
    (itemCheck kartCount partsCount = .ok () ∧
      divCeil kartCount myroomItemChunkSize ≤ i32Max ∧
      divCeil partsCount myroomItemChunkSize ≤ i32Max ∧
      itemPacketCount kartCount partsCount ≤ i32Max) ∨
    ∃ error, itemCheck kartCount partsCount = .error error ∧
      ItemsRefused kartCount partsCount error := by
  unfold itemCheck
  rw [checkedCollectionLen_eq, checkedCollectionLen_eq]
  cases hkarts : check (divCeil kartCount myroomItemChunkSize ≤ i32Max)
      (OwnerItemError.itemCollectionTooLarge "kart" kartCount) with
  | error error =>
    obtain ⟨hlarge, rfl⟩ := check_error hkarts
    exact .inr ⟨_, rfl, .inl ⟨Nat.lt_of_not_le hlarge, rfl⟩⟩
  | ok u =>
    cases hparts : check (divCeil partsCount myroomItemChunkSize ≤ i32Max)
        (OwnerItemError.itemCollectionTooLarge "parts" partsCount) with
    | error error =>
      obtain ⟨hlarge, rfl⟩ := check_error hparts
      exact .inr ⟨_, rfl, .inr (.inl ⟨Nat.lt_of_not_le hlarge, rfl⟩)⟩
    | ok u =>
      rw [ok_bind, ok_bind]
      cases hall : check (itemPacketCount kartCount partsCount ≤ i32Max)
          (OwnerItemError.itemCollectionTooLarge "owner item packet"
            (itemPacketCount kartCount partsCount)) with
      | error error =>
        obtain ⟨hlarge, rfl⟩ := check_error hall
        exact .inr ⟨_, rfl, .inr (.inr ⟨Nat.lt_of_not_le hlarge, rfl⟩)⟩
      | ok u =>
        exact .inl ⟨rfl, check_eq_ok.mp hkarts, check_eq_ok.mp hparts, check_eq_ok.mp hall⟩

/-- A plan is exact, and what fails is a 32-bit counter, never a sum or a product. -/
theorem plan_cases (tuneCount kartCount partsCount : Nat) :
    (planOwnerItemPackets tuneCount kartCount partsCount =
        .ok (exactPlan tuneCount kartCount partsCount) ∧
      (exactPlan tuneCount kartCount partsCount).packetCount ≤ usizeMax ∧
      (exactPlan tuneCount kartCount partsCount).byteLen ≤ usizeMax) ∨
    ∃ error, planOwnerItemPackets tuneCount kartCount partsCount = .error error ∧
      (TunesRefused tuneCount error ∨ ItemsRefused kartCount partsCount error) := by
  rw [planOwnerItemPackets_eq]
  rcases tunes_cases tuneCount with ⟨htunes, hcount⟩ | ⟨error, htunes, hrefused⟩
  case inr =>
    rw [htunes]
    exact .inr ⟨error, rfl, .inl hrefused⟩
  rw [htunes]
  rcases items_cases kartCount partsCount with ⟨hitems, hkarts, hparts, -⟩ | ⟨error, hitems, hrefused⟩
  · rw [hitems]
    exact .inl ⟨rfl, exactPlan_fits hcount hkarts hparts⟩
  · rw [hitems]
    exact .inr ⟨error, rfl, .inr hrefused⟩

/-- **The planner and the serializers agree.** A plan exists where both serializers succeed; it
counts their packets and bytes; the packets cut each collection into pieces of at most 26 records
and number them; and no arithmetic of either overflows, as only 32-bit counters are refused. -/
theorem ownerItems_planned (tunes : List MyRoomTune) (karts : List MyRoomKart)
    (parts : List MyRoomParts) (preventItem : Bool) :
    ((∃ plan, planOwnerItemPackets tunes.length karts.length parts.length = .ok plan) ↔
      (∃ enchants, serializeOwnerItemEnchants tunes = .ok enchants) ∧
      ∃ items, serializeOwnerItems karts parts preventItem = .ok items) ∧
    (∀ plan enchants items,
      planOwnerItemPackets tunes.length karts.length parts.length = .ok plan →
      serializeOwnerItemEnchants tunes = .ok enchants →
      serializeOwnerItems karts parts preventItem = .ok items →
      plan.packetCount = (enchants ++ items).length ∧
      plan.byteLen = ((enchants ++ items).map List.length).sum ∧
      (∃ tuneChunks, enchants = tuneChunks.map tunePacketBytes ∧ Cut tunes tuneChunks) ∧
      (∃ kartPackets partsPackets,
        ItemStream karts parts preventItem kartPackets partsPackets items) ∧
      items.length ≤ i32Max) ∧
    (∀ tuneCount kartCount partsCount,
      (∀ plan, planOwnerItemPackets tuneCount kartCount partsCount = .ok plan →
        plan.packetCount ≤ usizeMax ∧ plan.byteLen ≤ usizeMax) ∧
      (∀ error, planOwnerItemPackets tuneCount kartCount partsCount = .error error →
        TunesRefused tuneCount error ∨ ItemsRefused kartCount partsCount error)) ∧
    (∀ error, serializeOwnerItemEnchants tunes = .error error → TunesRefused tunes.length error) ∧
    (∀ error, serializeOwnerItems karts parts preventItem = .error error →
      ItemsRefused karts.length parts.length error) := by
  have henchants := serializeOwnerItemEnchants_eq tunes
  have hitems := serializeOwnerItems_eq karts parts preventItem
  have hplan := planOwnerItemPackets_eq tunes.length karts.length parts.length
  refine ⟨?_, ?_, ?_, ?_, ?_⟩
  · rw [henchants, hitems, hplan]
    rcases tunes_cases tunes.length with ⟨ht, -⟩ | ⟨error, ht, -⟩
    · rcases items_cases karts.length parts.length with ⟨hi, -⟩ | ⟨error, hi, -⟩
      · rw [ht, hi]
        exact iff_of_true ⟨_, rfl⟩ ⟨⟨_, rfl⟩, ⟨_, rfl⟩⟩
      · rw [ht, hi]
        exact iff_of_false (fun h => nomatch h.choose_spec) (fun h => nomatch h.2.choose_spec)
    · rw [ht]
      exact iff_of_false (fun h => nomatch h.choose_spec) (fun h => nomatch h.1.choose_spec)
  · intro plan enchants items hp he hi
    rw [hplan] at hp
    rw [henchants] at he
    rw [hitems] at hi
    rcases tunes_cases tunes.length with ⟨ht, -⟩ | ⟨error, ht, -⟩
    case inr =>
      rw [ht] at he
      cases he
    rcases items_cases karts.length parts.length with ⟨hc, -, -, hfits⟩ | ⟨error, hc, -⟩
    case inr =>
      rw [hc] at hi
      cases hi
    rw [ht, hc] at hp
    rw [ht] at he
    rw [hc] at hi
    obtain rfl := Except.ok.inj hp
    obtain rfl := Except.ok.inj he
    obtain rfl : itemBytes karts parts preventItem = items := Except.ok.inj hi
    obtain ⟨hcount, hbytes⟩ := itemBytes_planned karts parts preventItem
    have hcut := cut_chunks tunes
    refine ⟨?_, ?_, ⟨_, rfl, hcut⟩, ⟨_, _, itemStream karts parts preventItem⟩, ?_⟩
    · rw [List.length_append, List.length_map, length_chunks (by decide), hcount]
      rfl
    · have htunes : ∀ piece : List MyRoomTune, _ = _ + _ * (id piece).length :=
        length_tunePacket
      rw [List.map_append, List.sum_append, hbytes, sum_blocks htunes, List.map_id, hcut.all,
        length_chunks (by decide)]
      rfl
    · rw [hcount]
      unfold exactItems
      split
      · exact Nat.le_of_lt (by decide)
      · exact hfits
  · intro tuneCount kartCount partsCount
    rcases plan_cases tuneCount kartCount partsCount with ⟨h, hfits⟩ | ⟨error, h, hrefused⟩
    · rw [h]
      refine ⟨?_, fun error he => nomatch he⟩
      intro plan he
      obtain rfl := Except.ok.inj he
      exact hfits
    · rw [h]
      refine ⟨fun plan he => (nomatch he), ?_⟩
      intro error' he
      obtain rfl := Except.error.inj he
      exact hrefused
  · intro error he
    rw [henchants] at he
    rcases tunes_cases tunes.length with ⟨ht, -⟩ | ⟨error', ht, hrefused⟩
    · rw [ht] at he
      cases he
    · rw [ht] at he
      obtain rfl := Except.error.inj he
      exact hrefused
  · intro error he
    rw [hitems] at he
    rcases items_cases karts.length parts.length with ⟨hc, -⟩ | ⟨error', hc, hrefused⟩
    · rw [hc] at he
      cases he
    · rw [hc] at he
      obtain rfl := Except.error.inj he
      exact hrefused

end P4475.MyRoom
