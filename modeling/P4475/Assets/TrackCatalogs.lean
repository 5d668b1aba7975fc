import P4475.Assets.ThemeOrder

/-!
# Staging the tracks of another client

The catalog part of `stage_tracks_from_source`: which rows of the source's track table are selected,
and how they are merged into the target's table and locale. Ids are compared folded when rows are
selected, up to the case of their letters when an installed row is looked up, and exactly when the
installation checks its catalogs.
-/

namespace P4475.Assets

open Lib

/-! ## Track ids -/

/-- The last place where two neighbours match; `rposition` over `windows(2)`. -/
def lastPair (p : Char → Char → Bool) : Text → Option Nat
  | a :: b :: rest =>
    match lastPair p (b :: rest) with
    | some k => some (k + 1)
    | none => if p a b then some 0 else none
  | _ => none

/-- `is_ordinary_track_id`. -/
def isOrdinaryTrackId (id : Text) : Bool :=
  match lastPair (fun a b => a = '_' && (b = 'I' || b = 'i' || b = 'R' || b = 'r')) id with
  | none => false
  | some marker =>
    marker ≠ 0 && marker + 4 ≤ id.length && ((id.drop (marker + 2)).take 2).all Char.isDigit &&
      ((id.drop (marker + 4)).isEmpty || eqIgnoreAsciiCase (id.drop (marker + 4)) "_kd".toList)

/-- `track_theme`. -/
def trackTheme (id : Text) : Option Text :=
  let lower := toAsciiLowercase id
  let markers := (lastPair (fun a b => a = '_' && b = 'i') lower).toList ++
    (lastPair (fun a b => a = '_' && b = 'r') lower).toList
  markers.max?.map (id.take ·)

/-- `is_true`. -/
def isTrue (value : Option Text) : Bool :=
  value.any fun text =>
    toAsciiLowercase text ∈ ["1".toList, "true".toList, "yes".toList]

/-- `track_folder_id`. -/
def trackFolderId (path : Text) : Option Text :=
  match path.splitOn '/' with
  | root :: id :: _ :: _ =>
    if toAsciiLowercase root ∈ ["track".toList, "track_".toList] then some id else none
  | _ => none

/-- `has_track_resources`, of the effective paths of an index. -/
def hasTrackResources (index : List Text) (id : Text) : Bool :=
  index.any fun path => (trackFolderId path).any (eqIgnoreAsciiCase · id)

/-! ## Rows for the target -/

/-- `apply_theme_compatibility`. -/
def applyThemeCompatibility (theme : Text) (definition : BmlNode) : BmlNode :=
  match themeSlotAlias theme with
  | none => definition
  | some slot =>
    let definition := setAttribute "theme".toList slot.nativeCode definition
    let values := ((attributeOf definition "texTheme".toList).map (List.splitOn '|')).getD []
    let others := ((values.map trim).filter (!·.isEmpty)).filter
      (!eqIgnoreAsciiCase · slot.nativeCode)
    let textureThemes := others.foldl (fun merged value => merged ++ '|' :: value) slot.nativeCode
    setAttribute "bgmTheme".toList theme (setAttribute "texTheme".toList textureThemes definition)

/-- `normalize_definition_for_p4475` inserts a level before the difficulty. -/
def insertLevel : BmlNode → BmlNode
  | .node name value attributes children =>
    let definition := BmlNode.node name value attributes children
    let difficulty := ((attributeOf definition "difficulty".toList).bind
      (parseUnsigned u32Max)).getD 0
    let insertion := (attributes.findIdx? fun entry =>
      eqIgnoreAsciiCase entry.1 "difficulty".toList).getD attributes.length
    .node name value
      (attributes.insertIdx insertion ("level".toList, (toString (min difficulty 3)).toList)) children

/-- `normalize_definition_for_p4475`. -/
def normalizeDefinition (source : BmlNode) (theme : Text) : BmlNode :=
  applyThemeCompatibility theme
    (if (attributeOf source "level".toList).isNone then insertLevel source else source)

/-- `normalize_locale_for_p4475`. -/
def normalizeLocale (source : BmlNode) (id : Text) : BmlNode :=
  let optional := ["bpLevelMin".toList, "bpLevelMax".toList, "allowed1vs1".toList,
    "pursuit1vs1".toList, "basicAi".toList, "isAllowedRoadBlock".toList, "f1speed".toList,
    "isOnlyTraining".toList]
  let copied := optional.filterMap fun name => (attributeOf source name).map fun value =>
    (name, value)
  .node "track".toList [] (("id".toList, id) :: ("name".toList, id) :: copied) []

/-! ## Selection -/

structure SelectedTrack where
  id : Text
  gameType : Text
  theme : Text
  alreadyInstalled : Bool
  localeAlreadyInstalled : Bool
  definition : BmlNode
  locale : BmlNode

/-- Why a row of the source is not staged. -/
inductive Rejection
  | unsupportedGameType (gameType : Text)
  | missingLocale
  | blocked
  | noResources
  deriving DecidableEq

inductive StageError
  | wrongRoot (name : Text)
  | repeatedLocale (id : Text)
  | noTheme (id : Text)
  | unknownTheme (theme : Text)
  /-- `none` is "not present in the source track table". -/
  | ineligible (requested : Text) (reason : Option Rejection)
  | nothingSelected
  | panicked (message : String)
  deriving DecidableEq

/-- What becomes of a row of the source. -/
inductive RowDecision
  | skipped
  | rejected (folded : Text) (reason : Rejection)
  | selected (track : SelectedTrack)

def RowDecision.track? : RowDecision → Option SelectedTrack
  | .selected track => some track
  | _ => none

def RowDecision.rejection? : RowDecision → Option (Text × Rejection)
  | .rejected folded reason => some (folded, reason)
  | _ => none

/-- What the selection looks at beside the source's table. -/
structure StageInputs where
  /-- The effective paths of the source. -/
  index : List Text
  requestedTracks : List Text
  sourceLocales : List (Text × BmlNode)
  targetTable : List BmlNode
  targetLocale : List BmlNode

/-- One turn of the selection. -/
def considerTrack (inputs : StageInputs) (definition : BmlNode) : Except StageError RowDecision :=
  match rowId definition with
  | none => .ok .skipped
  | some id =>
    let folded := foldPath id
    let alreadyInstalled := inputs.targetTable.any (foldsTo folded)
    let gameType := (attributeOf definition "gameType".toList).getD []
    if !isOrdinaryTrackId id then .ok .skipped
    else if !inputs.requestedTracks.isEmpty && !inputs.requestedTracks.any (foldPath · == folded)
    then .ok .skipped
    else if toAsciiLowercase gameType ∉ ["item".toList, "speed".toList] then
      .ok (.rejected folded (.unsupportedGameType gameType))
    else if alreadyInstalled && inputs.requestedTracks.isEmpty then .ok .skipped
    else
      match inputs.sourceLocales.find? (·.1 == folded) with
      | none => .ok (.rejected folded .missingLocale)
      | some (_, locale) =>
        if isTrue (attributeOf locale "blocked".toList) ||
            (attributeOf locale "choosable".toList).any fun value => !isTrue (some value) then
          .ok (.rejected folded .blocked)
        else if !hasTrackResources inputs.index id then .ok (.rejected folded .noResources)
        else
          match trackTheme id with
          | none => .error (.noTheme id)
          | some theme =>
            if isNativeTheme theme || (themeSlotAlias theme).isSome then
              .ok (.selected {
                id := id
                gameType := toAsciiLowercase gameType
                theme := theme
                alreadyInstalled := alreadyInstalled
                localeAlreadyInstalled := inputs.targetLocale.any (foldsTo folded)
                definition := normalizeDefinition definition theme
                locale := normalizeLocale locale id })
            else .error (.unknownTheme theme)

/-- Every requested track is selected; else the last reason why it is not. -/
def checkRequested (selected : List SelectedTrack) (rejections : List (Text × Rejection))
    (requested : Text) : Except StageError Unit :=
  if selected.any fun track => foldPath track.id == foldPath requested then .ok ()
  else .error (.ineligible requested
    ((rejections.reverse.find? (·.1 == foldPath requested)).map Prod.snd))

/-- The selected tracks, in the order of the source's table. -/
def selectTracks (inputs : StageInputs) (sourceTable : List BmlNode) :
    Except StageError (List SelectedTrack) := do
  let decisions ← sourceTable.mapM (considerTrack inputs)
  let selected := decisions.filterMap RowDecision.track?
  inputs.requestedTracks.forM (checkRequested selected (decisions.filterMap RowDecision.rejection?))
  if selected.isEmpty then throw .nothingSelected
  return selected

end P4475.Assets
