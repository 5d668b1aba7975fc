import P4475.World.RandomTracks

/-!
# Overriding a random-track pool with its own default list

Overrides pass checks that the published lists do not: a limit on their number, the form of the
ids, and that every track fits the pool. A default list that passes them resolves to what it
resolves to without being an override; any other is refused.
-/

namespace P4475

open Lib

/-! ## Checked overrides -/

/-- The form of an id that an override may name. -/
def ValidTrackId (id : Text) : Prop :=
  id ≠ [] ∧ (id.map Char.utf8Size).sum ≤ 80 ∧ ¬ id.any isControl = true

theorem validateTrackIds_ok {seen : Finset Text} {ids : List Text} :
    validateTrackIds seen ids = .ok () ↔ (∀ id ∈ ids, ValidTrackId id) ∧
      (ids.map toAsciiLowercase).Nodup ∧ ∀ id ∈ ids, toAsciiLowercase id ∉ seen := by
  induction ids generalizing seen with
  | nil => exact iff_of_true rfl ⟨by simp, List.nodup_nil, by simp⟩
  | cons id rest ih =>
    unfold validateTrackIds
    rw [List.forall_mem_cons, List.forall_mem_cons, List.map_cons, List.nodup_cons]
    by_cases hbad : id = [] ∨ 80 < (id.map Char.utf8Size).sum ∨ id.any isControl ∨
        toAsciiLowercase id ∈ seen
    · rw [if_pos hbad]
      refine iff_of_false (fun he => by cases he) ?_
      intro ⟨⟨⟨hne, hlen, hctl⟩, _⟩, _, hout, _⟩
      rcases hbad with hbad | hbad | hbad | hbad
      · exact hne hbad
      · omega
      · exact hctl hbad
      · exact hout hbad
    · rw [if_neg hbad, ih]
      push Not at hbad
      obtain ⟨hne, hlen, hctl, hout⟩ := hbad
      constructor
      · intro ⟨hvalid, hnodup, hnew⟩
        refine ⟨⟨⟨hne, hlen, hctl⟩, hvalid⟩, ⟨fun hmem => ?_, hnodup⟩, hout, fun other hother => ?_⟩
        · obtain ⟨other, hother, hsame⟩ := List.mem_map.mp hmem
          exact hnew other hother (hsame ▸ Finset.mem_insert_self _ _)
        · exact fun hin => hnew other hother (Finset.mem_insert_of_mem hin)
      · intro ⟨⟨_, hvalid⟩, ⟨hnotin, hnodup⟩, _, hnew⟩
        refine ⟨hvalid, hnodup, fun other hother hin => ?_⟩
        rcases Finset.mem_insert.mp hin with hsame | hin
        · exact hnotin (hsame ▸ List.mem_map_of_mem hother)
        · exact hnew other hother hin

/-- What `validate_configuration` asks of one override. -/
structure RandomTrackPoolOverride.Valid (configured : RandomTrackPoolOverride) : Prop where
  gameType : configured.gameType ≤ 1
  selector : configured.selector ∈ supportedSelectors
  nonempty : configured.trackIds ≠ []
  count : configured.trackIds.length ≤ maxTracksPerPool
  ids : ∀ id ∈ configured.trackIds, ValidTrackId id
  distinct : (configured.trackIds.map toAsciiLowercase).Nodup

/-- The selectors of the rooms are those that may be overridden. -/
theorem isRandomTrackSelector_iff (selector : Nat) :
    ProtocolRoomState.isRandomTrackSelector selector = true ↔ selector ∈ supportedSelectors :=
  decide_eq_true_iff

theorem validatePools_ok {keys : Finset (Nat × Nat)} {pools : List RandomTrackPoolOverride} :
    validatePools keys pools = .ok () ↔ (∀ configured ∈ pools, configured.Valid) ∧
      (pools.map (·.key)).Nodup ∧ ∀ configured ∈ pools, configured.key ∉ keys := by
  induction pools generalizing keys with
  | nil => exact iff_of_true rfl ⟨by simp, List.nodup_nil, by simp⟩
  | cons pool rest ih =>
    unfold validatePools
    rw [List.forall_mem_cons, List.forall_mem_cons, List.map_cons, List.nodup_cons]
    by_cases hkey : 1 < pool.gameType ∨
        ProtocolRoomState.isRandomTrackSelector pool.selector = false ∨
        pool.selector ∉ supportedSelectors
    · rw [if_pos hkey]
      refine iff_of_false (fun he => by cases he) ?_
      intro ⟨⟨hvalid, _⟩, _⟩
      rcases hkey with hkey | hkey | hkey
      · exact absurd hvalid.gameType (by omega)
      · rw [(isRandomTrackSelector_iff _).mpr hvalid.selector] at hkey
        cases hkey
      · exact hkey hvalid.selector
    · rw [if_neg hkey]
      push Not at hkey
      by_cases hseen : pool.key ∈ keys
      · rw [if_pos hseen]
        exact iff_of_false (fun he => by cases he) fun h => h.2.2.1 hseen
      · rw [if_neg hseen]
        by_cases hcount : pool.trackIds = [] ∨ maxTracksPerPool < pool.trackIds.length
        · rw [if_pos hcount]
          refine iff_of_false (fun he => by cases he) ?_
          intro ⟨⟨hvalid, _⟩, _⟩
          rcases hcount with hcount | hcount
          · exact hvalid.nonempty hcount
          · exact absurd hvalid.count (by omega)
        · rw [if_neg hcount, bind_eq_ok_iff]
          push Not at hcount
          constructor
          · intro ⟨_, hids, hrest⟩
            obtain ⟨hforms, hdistinct, -⟩ := validateTrackIds_ok.mp hids
            obtain ⟨hvalid, hnodup, hnew⟩ := ih.mp hrest
            refine ⟨⟨⟨hkey.1, hkey.2.2, hcount.1, hcount.2, hforms, hdistinct⟩, hvalid⟩,
              ⟨fun hmem => ?_, hnodup⟩, hseen, fun other hother hin => ?_⟩
            · obtain ⟨other, hother, hsame⟩ := List.mem_map.mp hmem
              exact hnew other hother (hsame ▸ Finset.mem_insert_self _ _)
            · exact hnew other hother (Finset.mem_insert_of_mem hin)
          · intro ⟨⟨hvalid, hvalids⟩, ⟨hnotin, hnodup⟩, _, hnew⟩
            refine ⟨(), validateTrackIds_ok.mpr ⟨hvalid.ids, hvalid.distinct, by simp⟩,
              ih.mpr ⟨hvalids, hnodup, fun other hother hin => ?_⟩⟩
            rcases Finset.mem_insert.mp hin with hsame | hin
            · exact hnotin (hsame ▸ List.mem_map_of_mem hother)
            · exact hnew other hother hin

/-- There are no more pools than a configuration may override. -/
theorem length_le_of_valid {pools : List RandomTrackPoolOverride}
    (hvalid : ∀ configured ∈ pools, configured.Valid) (hnodup : (pools.map (·.key)).Nodup) :
    pools.length ≤ maxPools := by
  have hsub : pools.map (·.key) ⊆ [0, 1] ×ˢ supportedSelectors := by
    intro key hkey
    obtain ⟨configured, hmem, hsame⟩ := List.mem_map.mp hkey
    have hgame := (hvalid configured hmem).gameType
    rw [← hsame]
    refine List.mem_product.mpr ⟨?_, (hvalid configured hmem).selector⟩
    show configured.gameType ∈ [0, 1]
    simp only [List.mem_cons, List.not_mem_nil, or_false]
    omega
  have hlen := (List.subperm_of_subset hnodup hsub).length_le
  rw [List.length_map] at hlen
  exact le_trans hlen (by decide)

theorem validateConfiguration_ok {configuration : RandomTrackConfiguration} :
    validateConfiguration configuration = .ok () ↔
      (∀ configured ∈ configuration.pools, configured.Valid) ∧
        (configuration.pools.map (·.key)).Nodup := by
  have hpools : validatePools ∅ configuration.pools = .ok () ↔
      (∀ configured ∈ configuration.pools, configured.Valid) ∧
        (configuration.pools.map (·.key)).Nodup := by
    rw [validatePools_ok]
    simp
  unfold validateConfiguration
  by_cases hmany : maxPools < configuration.pools.length
  · rw [if_pos hmany]
    refine iff_of_false (fun he => by cases he) fun h => ?_
    have hlen := length_le_of_valid h.1 h.2
    omega
  · rw [if_neg hmany]
    exact hpools

/-! ## Published pools -/

namespace RandomTracks

theorem active_ok (known : Map Text RandomTrackDefinition) (seen : Finset Text)
    (ids : List Text) :
    (∀ id ∈ active known seen ids, (∃ track, known.lookup (toAsciiLowercase id) = some track) ∧
        toAsciiLowercase id ∉ seen) ∧
      ((active known seen ids).map toAsciiLowercase).Nodup := by
  induction ids generalizing seen with
  | nil => exact ⟨by simp [active], List.nodup_nil⟩
  | cons id rest ih =>
    rw [active]
    by_cases hnew : known.lookup (toAsciiLowercase id) ≠ none ∧ toAsciiLowercase id ∉ seen
    · rw [if_pos hnew, List.forall_mem_cons, List.map_cons, List.nodup_cons]
      obtain ⟨hrest, hnodup⟩ := ih (insert (toAsciiLowercase id) seen)
      refine ⟨⟨⟨Option.ne_none_iff_exists'.mp hnew.1, hnew.2⟩, fun other hother => ?_⟩,
        fun hmem => ?_, hnodup⟩
      · obtain ⟨hknown, hout⟩ := hrest other hother
        exact ⟨hknown, fun hin => hout (Finset.mem_insert_of_mem hin)⟩
      · obtain ⟨other, hother, hsame⟩ := List.mem_map.mp hmem
        exact (hrest other hother).2 (hsame ▸ Finset.mem_insert_self _ _)
    · rw [if_neg hnew]
      exact ih seen

/-- The keys of all pools that may be published. -/
def poolKeys : List (Nat × Nat) :=
  [(0, 0), (1, 0), (0, 1), (1, 1), (0, 3), (1, 3), (0, 4), (1, 4), (0, 5), (1, 5), (0, 6), (1, 6),
    (0, 7), (1, 7), (0, 8), (1, 8), (1, 23), (0, 30), (1, 30), (0, 33), (1, 33), (0, 40)]

theorem sources_keys (root : BmlNode) (tracks : List RandomTrackDefinition) :
    (sources root tracks).map (fun source => (source.1, source.2.1)) = poolKeys := rfl

theorem addPool_some {known : Map Text RandomTrackDefinition} {source : Nat × Nat × List Text}
    {pool : RandomTrackPool} (h : addPool known source = some pool) :
    pool.key = (source.1, source.2.1) ∧ pool.defaultTrackIds = active known ∅ source.2.2 ∧
      pool.defaultTrackIds ≠ [] := by
  unfold addPool at h
  dsimp only at h
  split at h
  next => cases h
  next hids =>
    cases h
    exact ⟨rfl, rfl, hids⟩

end RandomTracks

open RandomTracks

theorem keys_filterMap_sublist (known : Map Text RandomTrackDefinition)
    (sources : List (Nat × Nat × List Text)) :
    ((sources.filterMap (addPool known)).map (·.key)).Sublist
      (sources.map fun source => (source.1, source.2.1)) := by
  induction sources with
  | nil => exact List.Sublist.refl _
  | cons source rest ih =>
    cases hpool : addPool known source with
    | none =>
      rw [List.filterMap_cons_none hpool]
      exact ih.cons _
    | some pool =>
      rw [List.filterMap_cons_some hpool, List.map_cons, List.map_cons, (addPool_some hpool).1]
      exact ih.cons_cons _

theorem nodup_keys_buildPools (root : BmlNode) (tracks : List RandomTrackDefinition) :
    ((buildPools root tracks).map (·.key)).Nodup := by
  refine (keys_filterMap_sublist _ _).nodup ?_
  rw [sources_keys]
  decide

/-- A published pool may be overridden, and its default list has each of its tracks once. -/
theorem buildPools_ok {root : BmlNode} {tracks : List RandomTrackDefinition}
    {pool : RandomTrackPool} (h : pool ∈ buildPools root tracks) :
    pool.gameType ≤ 1 ∧ pool.selector ∈ supportedSelectors ∧ pool.defaultTrackIds ≠ [] ∧
      (pool.defaultTrackIds.map toAsciiLowercase).Nodup ∧
      ∀ id ∈ pool.defaultTrackIds,
        ∃ track, (tracksById tracks).lookup (toAsciiLowercase id) = some track := by
  obtain ⟨source, hsource, hpool⟩ := List.mem_filterMap.mp h
  obtain ⟨hkey, hids, hne⟩ := addPool_some hpool
  have hmem : pool.key ∈ poolKeys := by
    rw [← sources_keys root tracks, hkey]
    exact List.mem_map_of_mem hsource
  have hkeys : ∀ key ∈ poolKeys, key.1 ≤ 1 ∧ key.2 ∈ supportedSelectors := by decide
  obtain ⟨hknown, hnodup⟩ := active_ok (tracksById tracks) ∅ source.2.2
  rw [← hids] at hknown hnodup
  exact ⟨(hkeys _ hmem).1, (hkeys _ hmem).2, hne, hnodup, fun id hid => (hknown id hid).1⟩

/-! ## Resolving -/

variable {catalog : RandomTrackCatalog} {pool : RandomTrackPool}

/-- Each of the ids names a track that fits the pool. -/
def Fitting (catalog : RandomTrackCatalog) (pool : RandomTrackPool) (ids : List Text) : Prop :=
  ∀ id ∈ ids, ∃ track, (tracksById catalog.tracks).lookup (toAsciiLowercase id) = some track ∧
    isCompatibleTrack pool track = true

theorem collectHashes_fitting {ids : List Text} (h : Fitting catalog pool ids)
    (hashes : List Nat) : catalog.collectHashes pool true hashes ids =
      catalog.collectHashes pool false hashes ids := by
  induction ids generalizing hashes with
  | nil => rfl
  | cons id rest ih =>
    obtain ⟨⟨track, htrack, hfits⟩, hrest⟩ := List.forall_mem_cons.mp h
    rw [RandomTrackCatalog.collectHashes, RandomTrackCatalog.collectHashes, htrack]
    dsimp only
    have hchecked : ¬ ((true : Bool) = true ∧ isCompatibleTrack pool track = false) := fun h => by
      rw [hfits] at h
      cases h.2
    have hunchecked : ¬ ((false : Bool) = true ∧ isCompatibleTrack pool track = false) :=
      fun h => by cases h.1
    rw [if_neg hchecked, if_neg hunchecked]
    exact ih hrest _

theorem fitting_of_collectHashes {ids : List Text} {hashes result : List Nat}
    (h : catalog.collectHashes pool true hashes ids = .ok result) :
    Fitting catalog pool ids := by
  induction ids generalizing hashes with
  | nil => exact fun id hid => absurd hid List.not_mem_nil
  | cons id rest ih =>
    rw [RandomTrackCatalog.collectHashes] at h
    cases htrack : (tracksById catalog.tracks).lookup (toAsciiLowercase id) with
    | none =>
      rw [htrack] at h
      cases h
    | some track =>
      rw [htrack] at h
      dsimp only at h
      by_cases hfits : isCompatibleTrack pool track = true
      · have hchecked : ¬ ((true : Bool) = true ∧ isCompatibleTrack pool track = false) :=
          fun hboth => by
            rw [hfits] at hboth
            cases hboth.2
        rw [if_neg hchecked] at h
        exact List.forall_mem_cons.mpr ⟨⟨track, htrack, hfits⟩, ih h⟩
      · rw [if_pos ⟨rfl, Bool.eq_false_iff.mpr hfits⟩] at h
        cases h

/-- The override of a pool with its own default list. -/
def RandomTrackPool.ownOverride (pool : RandomTrackPool) : RandomTrackPoolOverride :=
  ⟨pool.gameType, pool.selector, pool.defaultTrackIds⟩

theorem resolvePool_own (h : Fitting catalog pool pool.defaultTrackIds) :
    catalog.resolvePool pool (some pool.ownOverride) = catalog.resolvePool pool none := by
  unfold RandomTrackCatalog.resolvePool
  show (catalog.collectHashes pool true [] pool.defaultTrackIds >>= _) =
    (catalog.collectHashes pool false [] pool.defaultTrackIds >>= _)
  rw [collectHashes_fitting h]
  rfl

theorem fitting_of_resolvePool {resolved : ResolvedRandomTrackPool}
    (h : catalog.resolvePool pool (some pool.ownOverride) = .ok resolved) :
    Fitting catalog pool pool.defaultTrackIds := by
  obtain ⟨hashes, hhashes, _⟩ := bind_eq_ok h
  exact fitting_of_collectHashes hhashes

/-! ## Two configurations -/

section Configurations

variable {before after : List RandomTrackPoolOverride}

/-- The overrides of the pools, by key. -/
def overridesOf (configuration : RandomTrackConfiguration) :
    Map (Nat × Nat) RandomTrackPoolOverride :=
  collectMap (configuration.pools.map fun configured => (configured.key, configured))

theorem lookup_overridesOf {configuration : RandomTrackConfiguration}
    (h : (configuration.pools.map (·.key)).Nodup) (key : Nat × Nat)
    (configured : RandomTrackPoolOverride) :
    (overridesOf configuration).lookup key = some configured ↔
      configured ∈ configuration.pools ∧ configured.key = key := by
  have hkeys : ((configuration.pools.map fun configured =>
      (configured.key, configured)).map Prod.fst).Nodup := by
    rw [List.map_map]
    exact h
  unfold overridesOf
  rw [lookup_collectMap hkeys, List.mem_map]
  constructor
  · intro ⟨other, hmem, hsame⟩
    cases hsame
    exact ⟨hmem, rfl⟩
  · intro ⟨hmem, hkey⟩
    exact ⟨configured, hmem, by rw [hkey]⟩

/-- An override more makes a difference for its own key only. -/
theorem lookup_overridesOf_insert {own : RandomTrackPoolOverride}
    (hfree : ∀ configured ∈ before ++ after, configured.key ≠ own.key)
    (hnodup : ((before ++ after).map (·.key)).Nodup) (key : Nat × Nat) :
    (overridesOf ⟨before ++ own :: after⟩).lookup key =
      if key = own.key then some own else (overridesOf ⟨before ++ after⟩).lookup key := by
  have hperm : (before ++ own :: after).Perm (own :: (before ++ after)) := List.perm_middle
  have hnodup' : ((before ++ own :: after).map (·.key)).Nodup := by
    refine (hperm.map _).nodup_iff.mpr (List.nodup_cons.mpr ⟨fun hmem => ?_, hnodup⟩)
    obtain ⟨configured, hconfigured, hsame⟩ := List.mem_map.mp hmem
    exact hfree configured hconfigured hsame
  refine Option.ext fun configured => ?_
  rw [lookup_overridesOf hnodup']
  show configured ∈ before ++ own :: after ∧ configured.key = key ↔ _
  rw [hperm.mem_iff, List.mem_cons]
  by_cases hkey : key = own.key
  · rw [if_pos hkey, Option.some_inj]
    constructor
    · intro ⟨hmem, hsame⟩
      rcases hmem with hown | hother
      · exact hown.symm
      · exact absurd (hsame.trans hkey) (hfree configured hother)
    · intro hown
      rw [← hown]
      exact ⟨Or.inl rfl, hkey.symm⟩
  · rw [if_neg hkey, lookup_overridesOf hnodup]
    constructor
    · intro ⟨hmem, hsame⟩
      refine ⟨hmem.resolve_left fun hown => hkey ?_, hsame⟩
      rw [← hsame, hown]
    · intro ⟨hmem, hsame⟩
      exact ⟨Or.inr hmem, hsame⟩

theorem foldlM_resolve_congr {f g : RandomTrackPool → Except RandomTrackError ResolvedRandomTrackPool}
    {pools : List RandomTrackPool} (h : ∀ pool ∈ pools, f pool = g pool)
    (resolved : Map (Nat × Nat) ResolvedRandomTrackPool) :
    (pools.foldlM (fun resolved pool => do
      let pool' ← f pool
      return resolved.insert pool.key pool') resolved) =
    pools.foldlM (fun resolved pool => do
      let pool' ← g pool
      return resolved.insert pool.key pool') resolved := by
  induction pools generalizing resolved with
  | nil => rfl
  | cons pool rest ih =>
    obtain ⟨hfirst, hrest⟩ := List.forall_mem_cons.mp h
    rw [List.foldlM_cons, List.foldlM_cons, hfirst]
    exact bind_congr fun next => ih hrest next

theorem foldlM_resolve_each {f : RandomTrackPool → Except RandomTrackError ResolvedRandomTrackPool}
    {pools : List RandomTrackPool} {resolved result : Map (Nat × Nat) ResolvedRandomTrackPool}
    (h : (pools.foldlM (fun resolved pool => do
      let pool' ← f pool
      return resolved.insert pool.key pool') resolved) = .ok result) :
    ∀ pool ∈ pools, ∃ pool', f pool = .ok pool' := by
  induction pools generalizing resolved with
  | nil => exact fun pool hpool => absurd hpool List.not_mem_nil
  | cons pool rest ih =>
    rw [List.foldlM_cons] at h
    obtain ⟨next, hfirst, hrest⟩ := bind_eq_ok h
    obtain ⟨pool', hpool, _⟩ := bind_eq_ok hfirst
    exact List.forall_mem_cons.mpr ⟨⟨pool', hpool⟩, ih hrest⟩

end Configurations

/-- What a default list needs to be an override. -/
structure Publishable (catalog : RandomTrackCatalog) (pool : RandomTrackPool) : Prop where
  count : pool.defaultTrackIds.length ≤ maxTracksPerPool
  ids : ∀ id ∈ pool.defaultTrackIds, ValidTrackId id
  fitting : Fitting catalog pool pool.defaultTrackIds

section Own

variable {root : BmlNode} {tracks : List RandomTrackDefinition}
  {before after : List RandomTrackPoolOverride}

/-- The configuration with the override is valid exactly when the override is. -/
theorem validate_own (hfree : ∀ configured ∈ before ++ after, configured.key ≠ pool.key)
    (h : validateConfiguration ⟨before ++ after⟩ = .ok ()) :
    validateConfiguration ⟨before ++ pool.ownOverride :: after⟩ = .ok () ↔
      pool.ownOverride.Valid := by
  obtain ⟨hvalid, hnodup⟩ := validateConfiguration_ok.mp h
  have hperm : (before ++ pool.ownOverride :: after).Perm (pool.ownOverride :: (before ++ after)) :=
    List.perm_middle
  rw [validateConfiguration_ok]
  constructor
  · intro ⟨hall, _⟩
    exact hall _ (hperm.mem_iff.mpr List.mem_cons_self)
  · intro hown
    refine ⟨fun configured hmem => ?_, ?_⟩
    · rcases List.mem_cons.mp (hperm.mem_iff.mp hmem) with hsame | hother
      · exact hsame ▸ hown
      · exact hvalid configured hother
    · refine (hperm.map _).nodup_iff.mpr (List.nodup_cons.mpr ⟨fun hmem => ?_, hnodup⟩)
      obtain ⟨configured, hconfigured, hsame⟩ := List.mem_map.mp hmem
      exact hfree configured hconfigured hsame

/-- Pools with one key are the same. -/
theorem pool_of_key {other : RandomTrackPool} (hpool : pool ∈ buildPools root tracks)
    (hother : other ∈ buildPools root tracks) (h : other.key = pool.key) : other = pool :=
  List.inj_on_of_nodup_map (nodup_keys_buildPools root tracks) hother hpool h

/-- What `resolve` does with a valid configuration. -/
theorem resolve_eq {configuration : RandomTrackConfiguration}
    (h : validateConfiguration configuration = .ok ()) :
    catalog.resolve configuration = (do
      let pools ← catalog.pools.foldlM
        (fun (pools : Map (Nat × Nat) ResolvedRandomTrackPool) pool => do
          let resolved ← catalog.resolvePool pool ((overridesOf configuration).lookup pool.key)
          return pools.insert pool.key resolved) ∅
      catalog.checkPools configuration.pools
      return ⟨pools⟩) := by
  unfold RandomTrackCatalog.resolve
  rw [h]
  rfl

/-- What an override resolves to that has the published list. -/
theorem resolve_own (hpool : pool ∈ buildPools root tracks)
    (hfree : ∀ configured ∈ before ++ after, configured.key ≠ pool.key)
    (h : validateConfiguration ⟨before ++ after⟩ = .ok ())
    (hown : validateConfiguration ⟨before ++ pool.ownOverride :: after⟩ = .ok ())
    (hfits : Fitting (.load root tracks) pool pool.defaultTrackIds) :
    (RandomTrackCatalog.load root tracks).resolve ⟨before ++ pool.ownOverride :: after⟩ =
      (RandomTrackCatalog.load root tracks).resolve ⟨before ++ after⟩ := by
  have hnodup := (validateConfiguration_ok.mp h).2
  have hlookup : ∀ key, (overridesOf ⟨before ++ pool.ownOverride :: after⟩).lookup key =
      if key = pool.key then some pool.ownOverride
      else (overridesOf ⟨before ++ after⟩).lookup key :=
    lookup_overridesOf_insert hfree hnodup
  have hnone : (overridesOf ⟨before ++ after⟩).lookup pool.key = none := by
    cases hsome : (overridesOf ⟨before ++ after⟩).lookup pool.key with
    | none => rfl
    | some configured =>
      obtain ⟨hmem, hkey⟩ := (lookup_overridesOf hnodup _ _).mp hsome
      exact absurd hkey (hfree configured hmem)
  have hsame : ∀ other ∈ buildPools root tracks,
      (RandomTrackCatalog.load root tracks).resolvePool other
        ((overridesOf ⟨before ++ pool.ownOverride :: after⟩).lookup other.key) =
      (RandomTrackCatalog.load root tracks).resolvePool other
        ((overridesOf ⟨before ++ after⟩).lookup other.key) := by
    intro other hother
    rw [hlookup]
    by_cases hkey : other.key = pool.key
    · rw [pool_of_key hpool hother hkey, hnone, if_pos rfl]
      exact resolvePool_own hfits
    · rw [if_neg hkey]
  -- the pool of the override is known, so the last check finds the same as before
  have hknown : ((RandomTrackCatalog.load root tracks).pools.any fun other =>
      other.key = pool.ownOverride.key) = true :=
    List.any_eq_true.mpr ⟨pool, hpool, decide_eq_true rfl⟩
  have hfind : (pool.ownOverride :: after).find? (fun configured =>
        !(RandomTrackCatalog.load root tracks).pools.any fun other => other.key = configured.key) =
      after.find? fun configured =>
        !(RandomTrackCatalog.load root tracks).pools.any fun other => other.key = configured.key := by
    rw [List.find?_cons, hknown]
    rfl
  have hcheck : (RandomTrackCatalog.load root tracks).checkPools
        (before ++ pool.ownOverride :: after) =
      (RandomTrackCatalog.load root tracks).checkPools (before ++ after) := by
    unfold RandomTrackCatalog.checkPools
    rw [List.find?_append, List.find?_append, hfind]
  rw [resolve_eq h, resolve_eq hown]
  have hpools := foldlM_resolve_congr hsame ∅
  show (List.foldlM _ ∅ (buildPools root tracks) >>= _) =
    (List.foldlM _ ∅ (buildPools root tracks) >>= _)
  rw [hpools]
  dsimp only
  rw [hcheck]

end Own

/-- **Which default lists may be overrides.** Where a configuration without an override for a
published pool resolves, the configuration that overrides the pool with its own default list
resolves too exactly when the list is short enough, its ids have the form of overridden ids,
and its tracks fit the pool; and then every room has the same candidates. -/
theorem randomTracks_override {root : BmlNode} {tracks : List RandomTrackDefinition}
    {pool : RandomTrackPool} (hpool : pool ∈ (RandomTrackCatalog.load root tracks).pools)
    {before after : List RandomTrackPoolOverride}
    (hfree : ∀ configured ∈ before ++ after, configured.key ≠ pool.key)
    {resolved : ResolvedRandomTracks}
    (h : (RandomTrackCatalog.load root tracks).resolve ⟨before ++ after⟩ = .ok resolved) :
    ((∃ resolved', (RandomTrackCatalog.load root tracks).resolve
        ⟨before ++ pool.ownOverride :: after⟩ = .ok resolved') ↔
      Publishable (.load root tracks) pool) ∧
    ∀ resolved', (RandomTrackCatalog.load root tracks).resolve
        ⟨before ++ pool.ownOverride :: after⟩ = .ok resolved' →
      ∀ roomGameType selector basicAiOnly,
        resolved'.candidates roomGameType selector basicAiOnly =
          resolved.candidates roomGameType selector basicAiOnly := by
  obtain ⟨_, hvalid, _⟩ := bind_eq_ok h
  obtain ⟨hgame, hselector, hne, hdistinct, _⟩ := buildPools_ok hpool
  -- an override that resolves has passed every check
  have hchecked : ∀ resolved', (RandomTrackCatalog.load root tracks).resolve
      ⟨before ++ pool.ownOverride :: after⟩ = .ok resolved' →
        validateConfiguration ⟨before ++ pool.ownOverride :: after⟩ = .ok () ∧
          Publishable (.load root tracks) pool := by
    intro resolved' hresolved
    obtain ⟨_, hown, _⟩ := bind_eq_ok hresolved
    have hownValid := (validate_own hfree hvalid).mp hown
    rw [resolve_eq hown] at hresolved
    obtain ⟨pools, hpools, _⟩ := bind_eq_ok hresolved
    obtain ⟨pool', hpool'⟩ := foldlM_resolve_each hpools pool hpool
    have hlookup : (overridesOf ⟨before ++ pool.ownOverride :: after⟩).lookup pool.key =
        some pool.ownOverride := by
      refine (lookup_overridesOf (validateConfiguration_ok.mp hown).2 _ _).mpr ⟨?_, rfl⟩
      exact List.mem_append_right _ List.mem_cons_self
    rw [hlookup] at hpool'
    exact ⟨hown, hownValid.count, hownValid.ids, fitting_of_resolvePool hpool'⟩
  have hsame : Publishable (.load root tracks) pool →
      (RandomTrackCatalog.load root tracks).resolve ⟨before ++ pool.ownOverride :: after⟩ =
        .ok resolved := by
    intro hpublishable
    have hown := (validate_own hfree hvalid).mpr
      ⟨hgame, hselector, hne, hpublishable.count, hpublishable.ids, hdistinct⟩
    rw [resolve_own hpool hfree hvalid hown hpublishable.fitting]
    exact h
  refine ⟨⟨fun ⟨resolved', hresolved⟩ => (hchecked resolved' hresolved).2, fun hpublishable =>
    ⟨resolved, hsame hpublishable⟩⟩, fun resolved' hresolved roomGameType selector basicAiOnly => ?_⟩
  have hequal := hsame (hchecked resolved' hresolved).2
  rw [hresolved] at hequal
  cases hequal
  rfl

/-- A node whose own value is not read. -/
def poolNode (name : String) (attributes : List (String × String)) (children : List BmlNode) :
    BmlNode :=
  .node name.toList [] (attributes.map fun entry => (entry.1.toList, entry.2.toList)) children

/-- A table of one set, for the very easy speed rooms. -/
def poolTable (ids : List String) : BmlNode :=
  poolNode "root" [] [poolNode "RandomTrackSet"
    [("gameType", "speed"), ("randomType", "hot1")]
    (ids.map fun id => poolNode "track" [("id", id)] [])]

def samplePoolTracks : List RandomTrackDefinition :=
  [⟨"a_rvs".toList, [], "speed".toList, true, 5⟩, ⟨"b".toList, [], "item".toList, false, 6⟩]

/-- The pool that the sample table publishes. -/
def samplePool (ids : List String) : RandomTrackPool :=
  ⟨0, 3, "스피드전 · 인기 매우 쉬움", ids.map String.toList⟩

/-- A published list of one fitting track may be its own override. -/
theorem samplePool_override :
    ∃ resolved resolved', (RandomTrackCatalog.load (poolTable ["b"]) samplePoolTracks).resolve
        ⟨[] ++ []⟩ = .ok resolved ∧
      (RandomTrackCatalog.load (poolTable ["b"]) samplePoolTracks).resolve
        ⟨[] ++ (samplePool ["b"]).ownOverride :: []⟩ = .ok resolved' ∧
      resolved'.candidates 0 3 false = resolved.candidates 0 3 false ∧
      resolved.candidates 0 3 false = [6] := by
  have hpool : samplePool ["b"] ∈
      (RandomTrackCatalog.load (poolTable ["b"]) samplePoolTracks).pools := by decide +kernel
  have hown := @randomTracks_override _ _ _ hpool [] [] (by simp) _ rfl
  exact ⟨_, _, rfl, rfl, hown.2 _ rfl 0 3 false, rfl⟩

/-- A published list with a reverse track outside the reverse pools is refused as its own
override, though the pool itself resolves. -/
theorem samplePool_not_overridable :
    ¬ ∀ (root : BmlNode) (tracks : List RandomTrackDefinition),
      ∀ pool ∈ (RandomTrackCatalog.load root tracks).pools,
        ∀ resolved, (RandomTrackCatalog.load root tracks).resolve ⟨[]⟩ = .ok resolved →
          ∃ resolved', (RandomTrackCatalog.load root tracks).resolve ⟨[pool.ownOverride]⟩ =
            .ok resolved' := by
  intro hclaim
  have hpool : samplePool ["A_rvs", "b"] ∈
      (RandomTrackCatalog.load (poolTable ["A_rvs", "b"]) samplePoolTracks).pools := by
    decide +kernel
  obtain ⟨resolved', haccepted⟩ :=
    hclaim (poolTable ["A_rvs", "b"]) samplePoolTracks _ hpool _ rfl
  have hrefused : (RandomTrackCatalog.load (poolTable ["A_rvs", "b"]) samplePoolTracks).resolve
        ⟨[(samplePool ["A_rvs", "b"]).ownOverride]⟩ =
      .error (.incompatibleOverrideTrack "스피드전 · 인기 매우 쉬움" "A_rvs".toList) := rfl
  rw [hrefused] at haccepted
  cases haccepted

end P4475
