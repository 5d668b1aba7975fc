import P4475.Identity.Types
import P4475.Nickname
import P4475.Lib.Sampling
import Mathlib.Data.List.Nodup

/-!
# Item probabilities

The tables, the validation and the sampler of `p4475-server/src/item_probability.rs`.
Ranks are the `i16` that a client reports and racer counts any `usize`. Loading a table
from XML or from the client's archives is not modelled.
-/

namespace P4475

open Lib

/-- `MAX_ENTRIES_PER_TABLE`. -/
def maxEntriesPerTable : Nat := 512

/-- `MAX_ITEM_NAME_BYTES`. -/
def maxItemNameBytes : Nat := 256

/-- `MAX_WEIGHT`. -/
def maxWeight : Nat := 1000000

inductive ItemProbabilityRankBand
  | live
  | top
  | high
  | middle
  | low
  | combined
  deriving DecidableEq

inductive ItemProbabilityRankPolicy
  | trustClientReported
  | combinedFallback
  deriving DecidableEq

/-- `LIVE_RANK_BANDS`, by racer count less one and by zero-based rank. -/
def liveRankBands : List (List ItemProbabilityRankBand) := [
  [.top],
  [.top, .middle],
  [.top, .middle, .low],
  [.top, .middle, .middle, .low],
  [.top, .high, .middle, .middle, .low],
  [.top, .high, .middle, .middle, .low, .low],
  [.top, .high, .high, .middle, .middle, .low, .low],
  [.top, .high, .high, .middle, .middle, .middle, .low, .low]]

structure ItemProbabilityEntry where
  itemId : Int
  name : Text
  topWeight : Nat
  highWeight : Nat
  middleWeight : Nat
  lowWeight : Nat
  deriving DecidableEq

inductive ItemProbabilityError
  | emptyTable (table : String)
  | tooManyEntries (table : String) (actual maximum : Nat)
  | invalidItemId (table : String) (index : Nat) (itemId : Int)
  | duplicateItemId (table : String) (itemId : Int)
  | invalidName (table : String) (index : Nat)
  | weightTooLarge (table : String) (index : Nat) (field : String) (actual maximum : Nat)
  | zeroActiveWeight (table : String) (rankBand : ItemProbabilityRankBand)
  | weightTotalOverflow
  | rollOutOfRange (roll total : Nat)
  | selectionInvariant
  deriving DecidableEq

/-- `weight`. -/
def ItemProbabilityEntry.weight (rankBand : ItemProbabilityRankBand)
    (entry : ItemProbabilityEntry) : Nat :=
  match rankBand with
  | .top => entry.topWeight
  | .high => entry.highWeight
  | .middle => entry.middleWeight
  | .low => entry.lowWeight
  | .combined => entry.topWeight + entry.highWeight + entry.middleWeight + entry.lowWeight
  | .live => entry.topWeight + entry.highWeight + entry.middleWeight + entry.lowWeight

structure ItemProbabilityConfiguration where
  rankBand : ItemProbabilityRankBand
  individual : List ItemProbabilityEntry
  team : List ItemProbabilityEntry
  deriving DecidableEq

/-- The name check of `validate_table`; `name.len()` counts UTF-8 bytes. -/
def validItemName (name : Text) : Bool :=
  name ≠ [] && name.length ≤ 64 && (name.map Char.utf8Size).sum ≤ maxItemNameBytes &&
    !name.any isControl

/-- The four weights that `validate_table` bounds, by field name. -/
def ItemProbabilityEntry.fields (entry : ItemProbabilityEntry) : List (String × Nat) :=
  [("top", entry.topWeight), ("high", entry.highWeight), ("middle", entry.middleWeight),
    ("low", entry.lowWeight)]

/-- The entry loop of `validate_table`, from an index on, with the ids seen. -/
def validateEntries (table : String) :
    (entries : List ItemProbabilityEntry) → (index : Nat) → (ids : List Int) →
      Except ItemProbabilityError Unit
  | [], _, _ => .ok ()
  | entry :: rest, index, ids =>
    if entry.itemId ≤ 0 then .error (.invalidItemId table index entry.itemId)
    else if entry.itemId ∈ ids then .error (.duplicateItemId table entry.itemId)
    else if validItemName entry.name = false then .error (.invalidName table index)
    else
      match entry.fields.find? fun field => decide (maxWeight < field.2) with
      | some (field, actual) => .error (.weightTooLarge table index field actual maxWeight)
      | none => validateEntries table rest (index + 1) (entry.itemId :: ids)

/-- The bands that `validate_table` checks. -/
def checkedBands (configured : ItemProbabilityRankBand) : List ItemProbabilityRankBand :=
  if configured = .live then [.top, .high, .middle, .low] else [configured]

/-- `validate_table`. -/
def validateTable (table : String) (entries : List ItemProbabilityEntry)
    (configured : ItemProbabilityRankBand) : Except ItemProbabilityError Unit :=
  if entries = [] then .error (.emptyTable table)
  else if maxEntriesPerTable < entries.length then
    .error (.tooManyEntries table entries.length maxEntriesPerTable)
  else
    match validateEntries table entries 0 [] with
    | .error e => .error e
    | .ok () =>
      match (checkedBands configured).find? fun band => entries.all (·.weight band = 0) with
      | some band => .error (.zeroActiveWeight table band)
      | none => .ok ()

namespace ItemProbabilityConfiguration

/-- `validate`. -/
def validate (c : ItemProbabilityConfiguration) : Except ItemProbabilityError Unit :=
  match validateTable "individual" c.individual c.rankBand with
  | .error e => .error e
  | .ok () => validateTable "team" c.team c.rankBand

/-- `resolve_rank_band`. -/
def resolveRankBand (configured : ItemProbabilityRankBand) (clientReportedRank : Int)
    (racerCount : Nat) (policy : ItemProbabilityRankPolicy) : ItemProbabilityRankBand :=
  if configured ≠ .live then configured
  else if policy = .combinedFallback then .combined
  else if clientReportedRank < 0 then .combined
  else if racerCount = 0 then .combined
  else ((liveRankBands[racerCount - 1]?).bind (·[clientReportedRank.toNat]?)).getD .combined

/-- `table`. -/
def table (c : ItemProbabilityConfiguration) (teamMode : Bool) : List ItemProbabilityEntry :=
  if teamMode then c.team else c.individual

/-- The name of a table in the errors. -/
def tableName (teamMode : Bool) : String := if teamMode then "team" else "individual"

/-- The `try_fold` of `roll_total`. -/
def foldTotal (band : ItemProbabilityRankBand) :
    List ItemProbabilityEntry → (total : Nat) → Except ItemProbabilityError Nat
  | [], total => .ok total
  | entry :: rest, total =>
    if u64Max < total + entry.weight band then .error .weightTotalOverflow
    else foldTotal band rest (total + entry.weight band)

/-- `roll_total`. -/
def rollTotal (c : ItemProbabilityConfiguration) (teamMode : Bool) (liveRank : Int)
    (racerCount : Nat) (policy : ItemProbabilityRankPolicy) :
    Except ItemProbabilityError (ItemProbabilityRankBand × Nat) :=
  let band := resolveRankBand c.rankBand liveRank racerCount policy
  match foldTotal band (c.table teamMode) 0 with
  | .error e => .error e
  | .ok total =>
    if total = 0 then .error (.zeroActiveWeight (tableName teamMode) band) else .ok (band, total)

/-- The selection loop of `select_with_roll`. -/
def selectEntry (band : ItemProbabilityRankBand) :
    List ItemProbabilityEntry → (cursor : Nat) →
      Except ItemProbabilityError (Int × ItemProbabilityRankBand)
  | [], _ => .error .selectionInvariant
  | entry :: rest, cursor =>
    if cursor < entry.weight band then .ok (entry.itemId, band)
    else selectEntry band rest (cursor - entry.weight band)

/-- `select_with_roll`. -/
def selectWithRoll (c : ItemProbabilityConfiguration) (teamMode : Bool) (liveRank : Int)
    (racerCount roll : Nat) (policy : ItemProbabilityRankPolicy) :
    Except ItemProbabilityError (Int × ItemProbabilityRankBand) :=
  match c.rollTotal teamMode liveRank racerCount policy with
  | .error e => .error e
  | .ok (band, total) =>
    if total ≤ roll then .error (.rollOutOfRange roll total)
    else selectEntry band (c.table teamMode) roll

end ItemProbabilityConfiguration

/-! ## What validation promises -/

variable {name : String} {entries : List ItemProbabilityEntry}
  {configured band : ItemProbabilityRankBand}

theorem weight_le {entry : ItemProbabilityEntry}
    (h : ∀ field ∈ entry.fields, field.2 ≤ maxWeight) (band : ItemProbabilityRankBand) :
    entry.weight band ≤ 4 * maxWeight := by
  have htop := h ("top", entry.topWeight) (by simp [ItemProbabilityEntry.fields])
  have hhigh := h ("high", entry.highWeight) (by simp [ItemProbabilityEntry.fields])
  have hmiddle := h ("middle", entry.middleWeight) (by simp [ItemProbabilityEntry.fields])
  have hlow := h ("low", entry.lowWeight) (by simp [ItemProbabilityEntry.fields])
  dsimp only at htop hhigh hmiddle hlow
  cases band <;> dsimp only [ItemProbabilityEntry.weight] <;> omega

/-- The loop bounds every weight and lets no id through twice. -/
theorem validateEntries_ok {index : Nat} {ids : List Int}
    (h : validateEntries name entries index ids = .ok ()) :
    (∀ entry ∈ entries, ∀ field ∈ entry.fields, field.2 ≤ maxWeight) ∧
      (entries.map (·.itemId)).Nodup ∧ ∀ entry ∈ entries, entry.itemId ∉ ids := by
  induction entries generalizing index ids with
  | nil => exact ⟨fun _ h => absurd h List.not_mem_nil, List.nodup_nil,
      fun _ h => absurd h List.not_mem_nil⟩
  | cons entry rest ih =>
    unfold validateEntries at h
    split at h
    next => exact absurd h (by simp)
    next =>
      split at h
      next => exact absurd h (by simp)
      next hnew =>
        split at h
        next => exact absurd h (by simp)
        next =>
          split at h
          next => exact absurd h (by simp)
          next hfields =>
            obtain ⟨hbounds, hnodup, hfresh⟩ := ih h
            refine ⟨fun e he field hf => ?_, ?_, fun e he => ?_⟩
            · rcases List.mem_cons.mp he with rfl | he
              · simpa using List.find?_eq_none.mp hfields field hf
              · exact hbounds e he field hf
            · rw [List.map_cons, List.nodup_cons]
              refine ⟨fun hmem => ?_, hnodup⟩
              obtain ⟨other, hother, hid⟩ := List.mem_map.mp hmem
              exact hfresh other hother (hid ▸ List.mem_cons_self)
            · rcases List.mem_cons.mp he with rfl | he
              · exact hnew
              · exact fun hmem => hfresh e he (List.mem_cons_of_mem _ hmem)

/-- What a valid table is good for, in every band that may be resolved. -/
structure ValidTable (configured : ItemProbabilityRankBand)
    (entries : List ItemProbabilityEntry) : Prop where
  size : entries.length ≤ maxEntriesPerTable
  bounded : ∀ entry ∈ entries, ∀ field ∈ entry.fields, field.2 ≤ maxWeight
  distinct : (entries.map (·.itemId)).Nodup
  active : ∀ band ∈ checkedBands configured, ∃ entry ∈ entries, 0 < entry.weight band

theorem validateTable_ok (h : validateTable name entries configured = .ok ()) :
    ValidTable configured entries := by
  unfold validateTable at h
  split at h
  next => exact absurd h (by simp)
  next =>
    split at h
    next => exact absurd h (by simp)
    next hsize =>
      split at h
      next => exact absurd h (by simp)
      next hentries =>
        obtain ⟨hbounded, hdistinct, -⟩ := validateEntries_ok hentries
        split at h
        next => exact absurd h (by simp)
        next hactive =>
          refine ⟨not_lt.mp hsize, hbounded, hdistinct, fun band hband => ?_⟩
          have hnone := List.find?_eq_none.mp hactive band hband
          rw [List.all_eq_true] at hnone
          by_contra hzero
          refine hnone fun entry he => ?_
          have hle : ¬ 0 < entry.weight band := fun hpos => hzero ⟨entry, he, hpos⟩
          simpa using hle

namespace ItemProbabilityConfiguration

variable {c : ItemProbabilityConfiguration}

theorem validate_table (h : c.validate = .ok ()) (teamMode : Bool) :
    ValidTable c.rankBand (c.table teamMode) := by
  unfold validate at h
  split at h
  next => exact absurd h (by simp)
  next hindividual =>
    cases teamMode with
    | false => exact validateTable_ok hindividual
    | true => exact validateTable_ok h

/-! ## The sampler -/

/-- A live band resolves to the combined one or to one that validation has checked. -/
theorem resolve_live (liveRank : Int) (racerCount : Nat) (policy : ItemProbabilityRankPolicy) :
    resolveRankBand .live liveRank racerCount policy = .combined ∨
      resolveRankBand .live liveRank racerCount policy ∈ checkedBands .live := by
  have hrows : ∀ bands ∈ liveRankBands, ∀ band ∈ bands, band ∈ checkedBands .live := by decide
  unfold resolveRankBand
  rw [if_neg (fun h => h rfl)]
  split
  next => exact Or.inl rfl
  next =>
    split
    next => exact Or.inl rfl
    next =>
      split
      next => exact Or.inl rfl
      next =>
        cases hband : (liveRankBands[racerCount - 1]?).bind (·[liveRank.toNat]?) with
        | none => exact Or.inl rfl
        | some band =>
          obtain ⟨bands, hbands, hget⟩ := Option.bind_eq_some_iff.mp hband
          exact Or.inr (hrows bands (List.mem_of_getElem? hbands) band (List.mem_of_getElem? hget))

/-- Whatever band is resolved, some entry is active in it. -/
theorem active_resolved (h : ValidTable configured entries) (liveRank : Int) (racerCount : Nat)
    (policy : ItemProbabilityRankPolicy) : ∃ entry ∈ entries,
      0 < entry.weight (resolveRankBand configured liveRank racerCount policy) := by
  by_cases hlive : configured = .live
  · subst hlive
    rcases resolve_live liveRank racerCount policy with hcombined | hchecked
    · rw [hcombined]
      obtain ⟨entry, he, hpos⟩ := h.active .top (by decide)
      have htop : 0 < entry.topWeight := hpos
      refine ⟨entry, he, ?_⟩
      show 0 < entry.topWeight + entry.highWeight + entry.middleWeight + entry.lowWeight
      omega
    · exact h.active _ hchecked
  · have hband : resolveRankBand configured liveRank racerCount policy = configured := by
      unfold resolveRankBand
      exact if_pos hlive
    rw [hband]
    apply h.active
    unfold checkedBands
    rw [if_neg hlive]
    exact List.mem_singleton_self _

/-- The fold adds up the weights, as long as they fit. -/
theorem foldTotal_eq {total : Nat} (h : total + totalWeight (·.weight band) entries ≤ u64Max) :
    foldTotal band entries total = .ok (total + totalWeight (·.weight band) entries) := by
  induction entries generalizing total with
  | nil => rfl
  | cons entry rest ih =>
    rw [totalWeight_cons] at h ⊢
    rw [foldTotal, if_neg (by omega), ih (by omega), Nat.add_assoc]

/-- The weights of a table are bounded together by its size. -/
theorem totalWeight_le {bound : Nat} (h : ∀ entry ∈ entries, entry.weight band ≤ bound) :
    totalWeight (·.weight band) entries ≤ entries.length * bound := by
  induction entries with
  | nil => exact Nat.zero_le _
  | cons entry rest ih =>
    have hentry := h entry List.mem_cons_self
    have hrest := ih fun e he => h e (List.mem_cons_of_mem _ he)
    rw [totalWeight_cons, List.length_cons, Nat.succ_mul]
    omega

theorem totalWeight_pos {entry : ItemProbabilityEntry} (he : entry ∈ entries)
    (hpos : 0 < entry.weight band) : 0 < totalWeight (·.weight band) entries := by
  induction entries with
  | nil => exact absurd he List.not_mem_nil
  | cons first rest ih =>
    rw [totalWeight_cons]
    rcases List.mem_cons.mp he with rfl | he
    · omega
    · have hrest := ih he
      omega

/-- The selection loop is the weighted selection, by id. -/
theorem selectEntry_eq (band : ItemProbabilityRankBand) (entries : List ItemProbabilityEntry)
    (cursor : Nat) : selectEntry band entries cursor =
      match selectWeighted (·.weight band) entries cursor with
      | some entry => .ok (entry.itemId, band)
      | none => .error .selectionInvariant := by
  induction entries generalizing cursor with
  | nil => rfl
  | cons entry rest ih =>
    rw [selectEntry, selectWeighted]
    split
    next => rfl
    next => exact ih _

/-- In a table without repeated ids, the entries with one id weigh what its entry
weighs. -/
theorem filter_itemId (h : (entries.map (·.itemId)).Nodup) {entry : ItemProbabilityEntry}
    (he : entry ∈ entries) : entries.filter (·.itemId = entry.itemId) = [entry] := by
  induction entries with
  | nil => exact absurd he List.not_mem_nil
  | cons first rest ih =>
    rw [List.map_cons, List.nodup_cons] at h
    rcases List.mem_cons.mp he with rfl | he
    · have hnone : rest.filter (·.itemId = entry.itemId) = [] := by
        refine List.filter_eq_nil_iff.mpr fun other hother => ?_
        simp only [decide_eq_true_eq]
        exact fun hid => h.1 (hid ▸ List.mem_map_of_mem hother)
      rw [List.filter_cons, if_pos (by simp), hnone]
    · have hne : first.itemId ≠ entry.itemId := fun hid => h.1 (hid ▸ List.mem_map_of_mem he)
      rw [List.filter_cons, if_neg (by simpa using hne), ih h.2 he]

/-- **The sampler realises the configured distribution.** With a valid configuration the
total is the sum of the weights in the resolved band, not zero and without overflow;
exactly the rolls below it select something; and each item of the table is selected by
exactly as many of them as it weighs. -/
theorem sampler_exact (h : c.validate = .ok ()) (teamMode : Bool) (liveRank : Int)
    (racerCount : Nat) (policy : ItemProbabilityRankPolicy) :
    let band := resolveRankBand c.rankBand liveRank racerCount policy
    let total := totalWeight (·.weight band) (c.table teamMode)
    let select := fun roll => c.selectWithRoll teamMode liveRank racerCount roll policy
    c.rollTotal teamMode liveRank racerCount policy = .ok (band, total) ∧
      0 < total ∧ total ≤ u64Max ∧
      (∀ roll < total, ∃ entry ∈ c.table teamMode, select roll = .ok (entry.itemId, band) ∧
        0 < entry.weight band) ∧
      (∀ roll, total ≤ roll → select roll = .error (.rollOutOfRange roll total)) ∧
      ∀ entry ∈ c.table teamMode,
        Nat.count (fun roll => select roll = .ok (entry.itemId, band)) total =
          entry.weight band := by
  intro band total select
  have hvalid := validate_table h teamMode
  obtain ⟨active, hactive, hweight⟩ := active_resolved hvalid liveRank racerCount policy
  have hpos : 0 < total := totalWeight_pos hactive hweight
  have hle : total ≤ u64Max := by
    have hbound : total ≤ (c.table teamMode).length * (4 * maxWeight) :=
      totalWeight_le fun entry he => weight_le (hvalid.bounded entry he) band
    have hsize := hvalid.size
    unfold maxEntriesPerTable at hsize
    unfold maxWeight at hbound
    unfold u64Max
    omega
  have htotal : c.rollTotal teamMode liveRank racerCount policy = .ok (band, total) := by
    have hfold : foldTotal band (c.table teamMode) 0 = .ok (0 + total) :=
      foldTotal_eq (by omega)
    unfold rollTotal
    dsimp only
    rw [hfold, Nat.zero_add]
    exact if_neg hpos.ne'
  have hbelow : ∀ roll < total, select roll = selectEntry band (c.table teamMode) roll := by
    intro roll hroll
    show c.selectWithRoll teamMode liveRank racerCount roll policy = _
    unfold selectWithRoll
    rw [htotal]
    exact if_neg (not_le.mpr hroll)
  refine ⟨htotal, hpos, hle, fun roll hroll => ?_, fun roll hroll => ?_, fun entry he => ?_⟩
  · obtain ⟨entry, hentry⟩ := selectWeighted_of_lt (ItemProbabilityEntry.weight band) hroll
    obtain ⟨hmem, hentryPos⟩ := selectWeighted_some (ItemProbabilityEntry.weight band) hentry
    refine ⟨entry, hmem, ?_, hentryPos⟩
    rw [hbelow roll hroll, selectEntry_eq, hentry]
  · show c.selectWithRoll teamMode liveRank racerCount roll policy = _
    unfold selectWithRoll
    rw [htotal]
    exact if_pos hroll
  · have hcount := count_selectWeighted (ItemProbabilityEntry.weight band)
      (·.itemId = entry.itemId) (c.table teamMode)
    rw [filter_itemId hvalid.distinct he, totalWeight_cons] at hcount
    have hsame : ∀ roll ∈ Finset.range total, select roll = .ok (entry.itemId, band) ↔
        (selectWeighted (·.weight band) (c.table teamMode) roll).any
          (·.itemId = entry.itemId) = true := by
      intro roll hroll
      rw [hbelow roll (Finset.mem_range.mp hroll), selectEntry_eq]
      cases selectWeighted (·.weight band) (c.table teamMode) roll with
      | none => simp
      | some other => simp
    rw [Nat.count_eq_card_filter_range, Finset.filter_congr hsame,
      ← Nat.count_eq_card_filter_range, hcount]
    rfl

/-! ## The fallback tables -/

/-- `equal_entry`. -/
def equalEntry (itemId : Int) (name : String) : ItemProbabilityEntry :=
  ⟨itemId, name.toList, 1, 1, 1, 1⟩

/-- The items of both fallback tables. -/
def commonEntries : List ItemProbabilityEntry := [
  equalEntry 2 "devil", equalEntry 3 "ufo", equalEntry 4 "waterFly", equalEntry 5 "magnet",
  equalEntry 6 "booster", equalEntry 7 "rocket", equalEntry 8 "banana", equalEntry 9 "waterBomb",
  equalEntry 10 "shield", equalEntry 11 "angel", equalEntry 12 "emp", equalEntry 13 "timeBomb",
  equalEntry 33 "guideRocket", equalEntry 111 "thunderbolt"]

/-- `safe_fallback`. -/
def safeFallback : ItemProbabilityConfiguration where
  rankBand := .live
  individual := commonEntries
  team := commonEntries ++ [equalEntry 109 "scanning", equalEntry 110 "slotLock",
    equalEntry 113 "barricade", equalEntry 114 "cloud2"]

theorem safeFallback_valid : safeFallback.validate = .ok () := by decide +kernel

/-- Eighteen items, each for one roll of eighteen. -/
theorem safeFallback_uniform :
    safeFallback.rollTotal true 3 6 .trustClientReported = .ok (.middle, 18) ∧
      ∀ entry ∈ safeFallback.table true,
        Nat.count (fun roll => safeFallback.selectWithRoll true 3 6 roll .trustClientReported =
          .ok (entry.itemId, .middle)) 18 = entry.weight .middle :=
  ⟨(sampler_exact safeFallback_valid true 3 6 .trustClientReported).1,
    (sampler_exact safeFallback_valid true 3 6 .trustClientReported).2.2.2.2.2⟩

end ItemProbabilityConfiguration

end P4475
