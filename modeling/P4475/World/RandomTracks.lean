import P4475.Core.Bml
import P4475.Lib.FinmapExt
import P4475.Lib.Outcome
import P4475.Nickname
import P4475.World.Room

/-!
# Random-track pools

`p4475-server/src/random_track.rs`: the pools that the client's tables publish, and how a
configuration of overrides is resolved against them. The tracks of a catalog are given; reading
them from the client's archives is not modelled. An override is checked more strictly than the
list it replaces: only a track that fits the pool may be named in it.
-/

namespace P4475

open Lib

/-- `MAX_POOLS`. -/
def maxPools : Nat := 32

/-- `MAX_TRACKS_PER_POOL`. -/
def maxTracksPerPool : Nat := 512

/-- `SUPPORTED_SELECTORS`. -/
def supportedSelectors : List Nat := [0, 1, 3, 4, 5, 6, 7, 8, 23, 30, 33, 40]

structure RandomTrackDefinition where
  id : Text
  koreanName : Text
  gameType : Text
  basicAi : Bool
  hash : Nat
  deriving DecidableEq

structure RandomTrackPool where
  gameType : Nat
  selector : Nat
  koreanName : String
  defaultTrackIds : List Text
  deriving DecidableEq

structure RandomTrackPoolOverride where
  gameType : Nat
  selector : Nat
  trackIds : List Text
  deriving DecidableEq

structure RandomTrackConfiguration where
  pools : List RandomTrackPoolOverride
  deriving DecidableEq

/-- The key of a pool. -/
def RandomTrackPool.key (pool : RandomTrackPool) : Nat × Nat := (pool.gameType, pool.selector)

def RandomTrackPoolOverride.key (configured : RandomTrackPoolOverride) : Nat × Nat :=
  (configured.gameType, configured.selector)

inductive RandomTrackError
  | tooManyOverrides (maximum : Nat)
  | invalidOverridePool (gameType selector : Nat)
  | duplicateOverridePool (gameType selector : Nat)
  | invalidOverrideTrackCount (maximum : Nat)
  | invalidOverrideTrackId (id : Text)
  | unknownOverridePool (gameType selector : Nat)
  | unknownOverrideTrack (id : Text)
  | incompatibleOverrideTrack (pool : String) (id : Text)
  | emptyResolvedPool (gameType selector : Nat)
  deriving DecidableEq

namespace RandomTracks

/-! ## Published pools -/

/-- `attribute` of a node. -/
def attributeText (node : BmlNode) (name : Text) : Text :=
  match node with
  | .node _ _ attributes _ =>
    ((attributes.find? fun entry => eqIgnoreAsciiCase entry.1 name).map Prod.snd).getD []

/-- The children of a node that have a name. -/
def childrenNamed (node : BmlNode) (name : Text) : List BmlNode :=
  match node with
  | .node _ _ _ children => children.filter fun child =>
    match child with
    | .node childName _ _ _ => eqIgnoreAsciiCase childName name

/-- `track_ids`. -/
def trackIds (node : BmlNode) : List Text :=
  ((childrenNamed node "track".toList).map fun child => attributeText child "id".toList).filter
    fun id => id ≠ []

/-- The sets of `random_pool_sources`: those of one key are joined. -/
def sets (root : BmlNode) : Map (Text × Text) (List Text) :=
  (childrenNamed root "RandomTrackSet".toList).foldl (fun sets child =>
    let key := (toAsciiLowercase (attributeText child "gameType".toList),
      toAsciiLowercase (attributeText child "randomType".toList))
    sets.insert key ((sets.lookup key).getD [] ++ trackIds child)) ∅

/-- The lists of `random_pool_sources`: the last of one key stays. -/
def lists (root : BmlNode) : Map Text (List Text) :=
  collectMap ((childrenNamed root "RandomTrackList".toList).map fun child =>
    (toAsciiLowercase (attributeText child "randomType".toList), trackIds child))

/-- `tracks_by_id`, with the track in the place of its index, and `track_map`. -/
def tracksById (tracks : List RandomTrackDefinition) : Map Text RandomTrackDefinition :=
  collectMap (tracks.map fun track => (toAsciiLowercase track.id, track))

/-- `active`: the known tracks, each of them once. -/
def active (known : Map Text RandomTrackDefinition) :
    (seen : Finset Text) → List Text → List Text
  | _, [] => []
  | seen, id :: rest =>
    if known.lookup (toAsciiLowercase id) ≠ none ∧ toAsciiLowercase id ∉ seen then
      id :: active known (insert (toAsciiLowercase id) seen) rest
    else active known seen rest

/-- `ends_with("_rvs")` of a lower-case id. -/
def isReverse (id : Text) : Bool := "_rvs".toList.isSuffixOf (toAsciiLowercase id)

/-- `ends_with("_crz")` of a lower-case id. -/
def isCrazy (id : Text) : Bool := "_crz".toList.isSuffixOf (toAsciiLowercase id)

/-- `base_tracks`. -/
def baseTracks (tracks : List RandomTrackDefinition) (types : List Text) : List Text :=
  (tracks.filter fun track => types.any (eqIgnoreAsciiCase track.gameType) &&
    !isReverse track.id && !isCrazy track.id).map (·.id)

/-- `item_only`. -/
def itemOnly (known : Map Text RandomTrackDefinition) (ids : List Text) : List Text :=
  ids.filter fun id => (known.lookup (toAsciiLowercase id)).any fun track =>
    eqIgnoreAsciiCase track.gameType "item".toList

/-- `pool_name`. -/
def poolName (gameType selector : Nat) : String :=
  let mode := if gameType = 0 then "스피드전" else "아이템전"
  let name := match selector with
    | 0 => "전체 랜덤"
    | 1 => "클럽 랜덤"
    | 3 => "인기 매우 쉬움"
    | 4 => "인기 쉬움"
    | 5 => "인기 보통"
    | 6 => "인기 어려움"
    | 7 => "인기 매우 어려움"
    | 8 => "신규 트랙"
    | 23 => "크레이지"
    | 30 => "리버스"
    | 33 => "뉴 리그"
    | 40 => "스피드 전용"
    | _ => "랜덤"
  mode ++ " · " ++ name

/-- The lists that `build_pools` adds, before `add` makes them active once more. -/
def sources (root : BmlNode) (tracks : List RandomTrackDefinition) :
    List (Nat × Nat × List Text) :=
  let known := tracksById tracks
  let direct := fun (gameType randomType : String) => active known ∅
    (((sets root).lookup
      (toAsciiLowercase gameType.toList, toAsciiLowercase randomType.toList)).getD [])
  let listed := fun (randomType : String) =>
    active known ∅ (((lists root).lookup (toAsciiLowercase randomType.toList)).getD [])
  [(0, 0, baseTracks tracks ["speed".toList, "item".toList]),
    (1, 0, baseTracks tracks ["item".toList]),
    (0, 1, direct "speed" "clubSpeed"), (1, 1, direct "item" "clubItem")] ++
  [(3, "hot1"), (4, "hot2"), (5, "hot3"), (6, "hot4"), (7, "hot5")].flatMap (fun hot =>
    [(0, hot.1, direct "speed" hot.2), (1, hot.1, direct "item" hot.2)]) ++
  [(0, 8, listed "new"), (1, 8, itemOnly known (listed "new")),
    (1, 23, direct "item" "crazy"),
    (0, 30, listed "reverse"), (1, 30, itemOnly known (listed "reverse")),
    (0, 33, direct "speed" "newLeagueRandom"), (1, 33, direct "item" "newLeagueRandom"),
    (0, 40, baseTracks tracks ["speed".toList])]

/-- `add`. -/
def addPool (known : Map Text RandomTrackDefinition) (source : Nat × Nat × List Text) :
    Option RandomTrackPool :=
  let ids := active known ∅ source.2.2
  if ids = [] then none
  else some ⟨source.1, source.2.1, poolName source.1 source.2.1, ids⟩

end RandomTracks

/-- `build_pools`. -/
def buildPools (root : BmlNode) (tracks : List RandomTrackDefinition) : List RandomTrackPool :=
  (RandomTracks.sources root tracks).filterMap (RandomTracks.addPool (RandomTracks.tracksById tracks))

structure RandomTrackCatalog where
  tracks : List RandomTrackDefinition
  pools : List RandomTrackPool

/-- The catalog of some tracks and the table of pools. -/
def RandomTrackCatalog.load (root : BmlNode) (tracks : List RandomTrackDefinition) :
    RandomTrackCatalog := ⟨tracks, buildPools root tracks⟩

/-! ## Overrides -/

/-- `is_compatible_track`. -/
def isCompatibleTrack (pool : RandomTrackPool) (track : RandomTrackDefinition) : Bool :=
  let reverse := RandomTracks.isReverse track.id
  let crazy := RandomTracks.isCrazy track.id
  if (pool.selector = 30 ∧ reverse = false) ∨ (pool.selector = 23 ∧ crazy = false) ∨
      (pool.selector ≠ 23 ∧ pool.selector ≠ 30 ∧ (reverse = true ∨ crazy = true)) then false
  else if pool.gameType = 1 then eqIgnoreAsciiCase track.gameType "item".toList
  else if pool.selector = 40 then eqIgnoreAsciiCase track.gameType "speed".toList
  else eqIgnoreAsciiCase track.gameType "speed".toList ||
    eqIgnoreAsciiCase track.gameType "item".toList

/-- The loop of `validate_configuration` over the ids of an override. -/
def validateTrackIds : (ids : Finset Text) → List Text → Except RandomTrackError Unit
  | _, [] => return ()
  | ids, id :: rest =>
    if id = [] ∨ 80 < (id.map Char.utf8Size).sum ∨ id.any isControl ∨
        toAsciiLowercase id ∈ ids then
      throw (.invalidOverrideTrackId id)
    else validateTrackIds (insert (toAsciiLowercase id) ids) rest

/-- The loop of `validate_configuration` over the overrides. -/
def validatePools : (keys : Finset (Nat × Nat)) → List RandomTrackPoolOverride →
    Except RandomTrackError Unit
  | _, [] => return ()
  | keys, pool :: rest =>
    if 1 < pool.gameType ∨ ProtocolRoomState.isRandomTrackSelector pool.selector = false ∨
        pool.selector ∉ supportedSelectors then
      throw (.invalidOverridePool pool.gameType pool.selector)
    else if pool.key ∈ keys then throw (.duplicateOverridePool pool.gameType pool.selector)
    else if pool.trackIds = [] ∨ maxTracksPerPool < pool.trackIds.length then
      throw (.invalidOverrideTrackCount maxTracksPerPool)
    else do
      validateTrackIds ∅ pool.trackIds
      validatePools (insert pool.key keys) rest

/-- `validate_configuration`. -/
def validateConfiguration (configuration : RandomTrackConfiguration) :
    Except RandomTrackError Unit :=
  if maxPools < configuration.pools.length then throw (.tooManyOverrides maxPools)
  else validatePools ∅ configuration.pools

structure ResolvedRandomTrackPool where
  hashes : List Nat
  basicAiHashes : List Nat
  deriving DecidableEq

/-- `ResolvedRandomTracks`. -/
structure ResolvedRandomTracks where
  pools : Map (Nat × Nat) ResolvedRandomTrackPool

namespace RandomTrackCatalog

variable (catalog : RandomTrackCatalog)

/-- The loop of `resolve` over the ids of a pool; those of an override are checked. -/
def collectHashes (pool : RandomTrackPool) (configured : Bool) :
    (hashes : List Nat) → List Text → Except RandomTrackError (List Nat)
  | hashes, [] => return hashes
  | hashes, id :: rest =>
    match (RandomTracks.tracksById catalog.tracks).lookup (toAsciiLowercase id) with
    | none => throw (.unknownOverrideTrack id)
    | some track =>
      if configured = true ∧ isCompatibleTrack pool track = false then
        throw (.incompatibleOverrideTrack pool.koreanName id)
      else collectHashes pool configured
        (if track.hash ∈ hashes then hashes else hashes ++ [track.hash]) rest

/-- One turn of the loop of `resolve` over the pools. -/
def resolvePool (pool : RandomTrackPool) (configured : Option RandomTrackPoolOverride) :
    Except RandomTrackError ResolvedRandomTrackPool := do
  let ids := (configured.map (·.trackIds)).getD pool.defaultTrackIds
  let hashes ← collectHashes catalog pool configured.isSome [] ids
  if hashes = [] then throw (.emptyResolvedPool pool.gameType pool.selector)
  else
    let basicAi := (ids.filterMap fun id =>
      (RandomTracks.tracksById catalog.tracks).lookup (toAsciiLowercase id)).filter (·.basicAi)
    return ⟨hashes, (sortByKey id (basicAi.map (·.hash))).destutter (· ≠ ·)⟩

/-- The last loop of `resolve`: every override is of a known pool. -/
def checkPools (overrides : List RandomTrackPoolOverride) : Except RandomTrackError Unit :=
  match overrides.find? fun configured =>
      !catalog.pools.any fun pool => pool.key = configured.key with
  | some configured => throw (.unknownOverridePool configured.gameType configured.selector)
  | none => return ()

/-- `RandomTrackCatalog::resolve`. -/
def resolve (configuration : RandomTrackConfiguration) :
    Except RandomTrackError ResolvedRandomTracks := do
  validateConfiguration configuration
  let overrides := collectMap (configuration.pools.map fun pool => (pool.key, pool))
  let pools ← catalog.pools.foldlM (fun (pools : Map (Nat × Nat) ResolvedRandomTrackPool) pool => do
    let resolved ← catalog.resolvePool pool (overrides.lookup pool.key)
    return pools.insert pool.key resolved) ∅
  catalog.checkPools configuration.pools
  return ⟨pools⟩

end RandomTrackCatalog

/-- `ResolvedRandomTracks::candidates`. -/
def ResolvedRandomTracks.candidates (resolved : ResolvedRandomTracks)
    (roomGameType selector : Nat) (basicAiOnly : Bool) : List Nat :=
  let catalogGameType := if roomGameType = 2 ∨ roomGameType = 4 then 1 else 0
  match resolved.pools.lookup (catalogGameType, selector) with
  | none => []
  | some pool =>
    if basicAiOnly = true ∧ pool.basicAiHashes ≠ [] then pool.basicAiHashes else pool.hashes

end P4475
