import P4475.Assets.TrackCatalogs
import P4475.Assets.ThemeRows

/-!
# What the merge of selected tracks leaves

An edit keeps the letters of a row's id, so each installed track meets the same row whatever was
edited before, and the new rows stand behind all of them. The merge is therefore known in one piece:
`mergedTable` says what every row becomes.
-/

namespace P4475.Assets

open Lib

/-! ## The ids of staged rows -/

variable {track other : SelectedTrack} {table locale rows : List BmlNode}

end P4475.Assets
