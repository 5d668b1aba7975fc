import P4475.Lib.FinmapExt
import P4475.Nickname

/-!
# The inventory catalog

`p4475-profile/src/catalog.rs`: the items of an exported catalog and which of
them a profile owns without a grant of its own. The XML reader refuses an item
with id zero and a second item of one category and id, and a value of
`CatalogInventory` carries both facts. `S` stands for the parsed kart specs,
whose contents do not matter here.
-/

namespace P4475.Profile

open Lib

structure CatalogInventoryItem where
  category : Nat
  id : Nat
  serial : Nat
  name : Text
  autoGrant : Bool
  xPartsCompatible : Bool
  deriving DecidableEq

/-- The key under which the reader looks for duplicates. -/
def CatalogInventoryItem.key (item : CatalogInventoryItem) : Nat × Nat := (item.category, item.id)

structure CatalogInventory (S : Type) where
  items : List CatalogInventoryItem
  kartNames : Map Nat Text
  /-- By the name in lowercase. -/
  kartSpecs : Map Text S
  ids : ∀ item ∈ items, item.id ≠ 0
  distinct : (items.map CatalogInventoryItem.key).Nodup

def grantCategoryIds : List Nat :=
  [1, 2, 3, 4, 7, 8, 9, 11, 12, 13, 14, 16, 18, 20, 21, 22, 23, 26, 27, 28, 30, 31, 32, 36, 37,
    38, 39, 43, 44, 45, 46, 49, 52, 53, 55, 59, 61, 67, 68, 69, 70]

def unsafeCharacterItemIds : List Nat :=
  [45, 47, 48, 52, 59, 116, 117, 124, 128, 130, 137, 144, 147, 149, 159, 175, 176, 184, 192, 193,
    194, 195, 196, 197, 231, 245, 246, 247, 265, 301, 302, 333, 350, 376, 377, 391, 392, 396, 397]

def unsafePlateItemIds : List Nat :=
  [80, 81, 88, 97, 110, 111, 116, 120, 122, 123, 125, 127, 128, 129, 130, 131, 133, 134, 146, 147,
    148, 150, 152, 169, 170, 171, 172, 173, 174, 175, 176, 177, 178, 179, 180, 181, 182, 183, 186,
    188, 189, 190, 191, 192, 193, 195, 196, 197, 198, 204, 206, 210, 211, 214, 215, 216, 218, 221,
    227, 231]

def unsafeBalloonItemIds : List Nat :=
  [92, 93, 107, 131, 138, 173, 174, 218, 232, 253, 270, 274, 276, 278, 303, 309, 329, 336, 342,
    346, 357, 358, 359, 376, 386, 389, 401, 411, 412, 413, 419, 420, 429, 451, 453, 454, 463, 477,
    481, 488, 489, 491, 492, 493, 494, 495, 496, 497, 498, 499, 500, 501, 502, 503, 505, 506, 508,
    510, 511, 513, 516, 562, 571, 587, 588, 624, 628, 652, 661, 663, 668, 672, 698, 699, 713, 715,
    719, 720, 721, 722, 723, 724, 725, 743, 753, 754, 793, 829, 857, 858, 997, 1013, 1019, 1037,
    30022]

def unsafePetItemIds : List Nat := [8, 10, 11, 14, 18, 50, 77, 85, 92, 155]

def unsafeMyroomItemIds : List Nat := [14, 37, 50]

def isGrantCategory (category : Nat) : Bool := category ∈ grantCategoryIds

def isStockItemSafeForImplicitGrant (category itemId : Nat) : Bool :=
  match category with
  | 1 => itemId ∉ unsafeCharacterItemIds
  | 4 => itemId ∉ unsafePlateItemIds
  | 9 => itemId ∉ unsafeBalloonItemIds
  | 21 => itemId ∉ unsafePetItemIds
  | 28 => itemId ∉ unsafeMyroomItemIds
  | _ => true

def isGrantItem (item : CatalogInventoryItem) : Bool :=
  item.autoGrant && isGrantCategory item.category
    && isStockItemSafeForImplicitGrant item.category item.id

namespace CatalogInventory

variable {S : Type} (catalog : CatalogInventory S)

def kartName (kartId : Nat) : Option Text := catalog.kartNames.lookup kartId

/-- `kart_spec_by_name`. -/
def kartSpecByName (name : Text) : Option S := catalog.kartSpecs.lookup (toAsciiLowercase name)

def kartSpec (kartId : Nat) : Option S := (catalog.kartName kartId).bind catalog.kartSpecByName

def category (category : Nat) : List CatalogInventoryItem :=
  catalog.items.filter fun item => item.category = category

def item (category itemId : Nat) : Option CatalogInventoryItem :=
  catalog.items.find? fun item => item.category = category && item.id = itemId

def containsKart (kartId : Nat) : Bool := (catalog.item 3 kartId).isSome

def supportsXParts (kartId : Nat) : Bool :=
  (catalog.item 3 kartId).any fun item => item.xPartsCompatible

def hasUsableKartSpec (item : CatalogInventoryItem) : Bool :=
  item.category ≠ 3 || (catalog.kartName item.id).isNone || (catalog.kartSpec item.id).isSome

def grantsItem (category itemId : Nat) : Bool :=
  catalog.items.any fun item =>
    item.category = category && item.id = itemId && isGrantItem item
      && catalog.hasUsableKartSpec item

def grantItems : List CatalogInventoryItem :=
  catalog.items.filter fun item => isGrantItem item && catalog.hasUsableKartSpec item

variable {catalog}

/-! ## What the catalog holds -/

theorem eq_of_key {first second : CatalogInventoryItem} (hfirst : first ∈ catalog.items)
    (hsecond : second ∈ catalog.items) (h : first.key = second.key) : first = second :=
  List.inj_on_of_nodup_map catalog.distinct hfirst hsecond h

theorem containsKart_iff {kartId : Nat} :
    catalog.containsKart kartId = true ↔
      ∃ item ∈ catalog.items, item.category = 3 ∧ item.id = kartId := by
  unfold containsKart item
  rw [List.find?_isSome]
  simp

theorem not_containsKart_zero : catalog.containsKart 0 = false := by
  apply Bool.eq_false_iff.mpr
  intro h
  obtain ⟨item, hm, -, hid⟩ := containsKart_iff.mp h
  exact catalog.ids item hm hid

theorem mem_grantItems {item : CatalogInventoryItem} :
    item ∈ catalog.grantItems ↔
      item ∈ catalog.items ∧ isGrantItem item = true ∧ catalog.hasUsableKartSpec item = true := by
  unfold grantItems
  rw [List.mem_filter, Bool.and_eq_true]

/-- The two answers about implicit grants agree. -/
theorem grantsItem_iff {category itemId : Nat} :
    catalog.grantsItem category itemId = true ↔
      ∃ item ∈ catalog.grantItems, item.category = category ∧ item.id = itemId := by
  unfold grantsItem
  rw [List.any_eq_true]
  constructor
  · rintro ⟨item, hm, h⟩
    simp only [Bool.and_eq_true, decide_eq_true_eq] at h
    obtain ⟨⟨⟨hcategory, hid⟩, hgrant⟩, hspec⟩ := h
    exact ⟨item, mem_grantItems.mpr ⟨hm, hgrant, hspec⟩, hcategory, hid⟩
  · rintro ⟨item, hm, hcategory, hid⟩
    obtain ⟨hitem, hgrant, hspec⟩ := mem_grantItems.mp hm
    refine ⟨item, hitem, ?_⟩
    simp only [Bool.and_eq_true, decide_eq_true_eq]
    exact ⟨⟨⟨hcategory, hid⟩, hgrant⟩, hspec⟩

theorem grantItems_keys_nodup : (catalog.grantItems.map CatalogInventoryItem.key).Nodup :=
  catalog.distinct.sublist (List.filter_sublist.map _)

end CatalogInventory

end P4475.Profile
