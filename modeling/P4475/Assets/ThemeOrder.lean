import P4475.Assets.TrackInstall
import P4475.Lib.FirstMatch
import P4475.Lib.Placement

/-!
# The order of the selector's themes

`merge_theme_tab_order` registers themes in the `themeTabOrder` of a selector config. A theme of
the client itself stays where it is; an aliased one is taken out and placed again, next to its
neighbours in the source's order. The rows are edited as a list, one theme after the other.
-/

namespace P4475.Assets

open Lib

/-- `P4475_NATIVE_THEMES`. -/
def nativeThemes : List Text :=
  ["steam".toList, "forest".toList, "desert".toList, "village".toList, "ice".toList, "tomb".toList,
    "mine".toList, "northeu".toList, "factory".toList, "pirate".toList, "fairy".toList,
    "moonhill".toList, "gold".toList, "china".toList, "castle".toList, "nymph".toList,
    "mechanic".toList, "xyy".toList, "wkc".toList, "brodi".toList, "park".toList, "beach".toList,
    "transFormer".toList, "jurassic".toList, "world".toList, "nemo".toList, "sword".toList,
    "god".toList, "abyss".toList, "camelot".toList, "olympos".toList, "korea".toList,
    "mabi".toList, "maple".toList]

/-- `is_native_theme`. -/
def isNativeTheme (theme : Text) : Bool := nativeThemes.any (eqIgnoreAsciiCase · theme)

/-- `str::trim_matches` with a slash. -/
def trimSlashes (path : Text) : Text :=
  ((path.dropWhile (· = '/')).reverse.dropWhile (· = '/')).reverse

/-- `fold_path`. -/
def foldPath (path : Text) : Text :=
  toAsciiLowercase (trimSlashes (path.map fun c => if c = '\\' then '/' else c))

/-! ## Nodes -/

/-- `set_attribute`, on the attributes. -/
def assign (name value : Text) (attributes : List (Text × Text)) : List (Text × Text) :=
  editFirst (fun entry => eqIgnoreAsciiCase entry.1 name) (fun entry => (entry.1, value))
    (name, value) attributes

/-- `set_attribute`. -/
def setAttribute (name value : Text) : BmlNode → BmlNode
  | .node own text attributes children => .node own text (assign name value attributes) children

def withName (name : Text) : BmlNode → BmlNode
  | .node _ text attributes children => .node name text attributes children

def withChildren (children : List BmlNode) : BmlNode → BmlNode
  | .node name text attributes _ => .node name text attributes children

/-- The `id` of a row. -/
def rowId (node : BmlNode) : Option Text := attributeOf node "id".toList

/-- A row has this id, up to the case of its letters. -/
def isRow (id : Text) (node : BmlNode) : Bool := (rowId node).any (eqIgnoreAsciiCase · id)

/-- A row has this id, as a path. -/
def foldsTo (folded : Text) (node : BmlNode) : Bool :=
  (rowId node).any fun id => foldPath id == folded

/-- Two rows have the same id, as paths. -/
def sameTheme (candidate target : BmlNode) : Bool :=
  (rowId candidate).any fun id => foldsTo (foldPath id) target

def isThemeTabOrder (node : BmlNode) : Bool :=
  eqIgnoreAsciiCase (BmlNode.name node) "themeTabOrder".toList

/-- The rows of a config's order. -/
def themeTabRows (config : BmlNode) : Option (List BmlNode) :=
  ((BmlNode.children config).find? isThemeTabOrder).map BmlNode.children

/-- Give a config's order new rows. -/
def putThemeTabRows (rows : List BmlNode) : List BmlNode → List BmlNode
  | [] => []
  | node :: rest =>
    if isThemeTabOrder node then withChildren rows node :: rest
    else node :: putThemeTabRows rows rest

/-! ## One theme -/

/-- The rows that make room for an aliased theme. -/
def isAliasRow (original : Text) (slot : ThemeSlotAlias) (node : BmlNode) : Bool :=
  (rowId node).any fun id => eqIgnoreAsciiCase id original ||
    eqIgnoreAsciiCase id slot.nativeCode || id == selectorRegistrationId original

/-- The rows among which a theme is placed. -/
def keptRows (original : Text) (rows : List BmlNode) : List BmlNode :=
  match themeSlotAlias original with
  | some slot => rows.filter (!isAliasRow original slot ·)
  | none => rows

/-- The row of a theme: the source's, if it has one, under the client's id. -/
def themeRow (sourceOrder : List BmlNode) (folded original : Text) : BmlNode :=
  let found := (sourceOrder.find? (foldsTo folded)).getD
    (.node "theme".toList [] [("id".toList, original)] [])
  let row := setAttribute "id".toList (selectorRegistrationId original)
    (withName "theme".toList found)
  match themeSlotAlias original with
  | some slot =>
    setAttribute "icon".toList slot.icon (setAttribute "stringKey".toList slot.stringKey row)
  | none => row

/-- The place of a theme's row, next to its neighbours in the source's order. -/
def themePlace (sourceOrder : List BmlNode) (folded : Text) (rows : List BmlNode) : Nat :=
  match sourceOrder.findIdx? (foldsTo folded) with
  | some index =>
    placeIndex sameTheme (sourceOrder.take index) (sourceOrder.drop (index + 1)) rows
  | none => rows.length

/-- One turn of the loop of `merge_theme_tab_order`. -/
def mergeTheme (sourceOrder : List BmlNode) (rows : List BmlNode) (theme : Text × Text) :
    List BmlNode :=
  if (themeSlotAlias theme.2).isNone && rows.any (isRow (selectorRegistrationId theme.2)) then rows
  else
    (keptRows theme.2 rows).insertIdx
      (themePlace sourceOrder theme.1 (keptRows theme.2 rows))
      (themeRow sourceOrder theme.1 theme.2)

/-- `merge_theme_tab_order`: the themes that are registered, and the merged config. Each turn of the
loop registers its theme. -/
def mergeThemeTabOrder (sourceConfig : Option BmlNode) (targetConfig : BmlNode)
    (themes : List (Text × Text)) : Except InstallError (List Text × BmlNode) := do
  ensure (eqIgnoreAsciiCase (BmlNode.name targetConfig) "config".toList)
    "selector config root is not config" (BmlNode.name targetConfig)
  let sourceOrder := (sourceConfig.bind themeTabRows).getD []
  match themeTabRows targetConfig with
  | none => throw ⟨"selector config has no themeTabOrder node", []⟩
  | some rows =>
    let merged := themes.foldl (mergeTheme sourceOrder) rows
    return (themes.map Prod.fst,
      withChildren (putThemeTabRows merged (BmlNode.children targetConfig)) targetConfig)

end P4475.Assets
