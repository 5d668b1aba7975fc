import P4475.Assets.TrackSelection
import P4475.Lib.Slots
import Mathlib.Data.Char
import Mathlib.Data.List.Lex

/-!
# When the merged catalogs hold

The merge takes the selection in whatever order an unstable sort by folded ids leaves it. Here the
condition of `catalogsHold_inOrder` becomes one on the four catalogs that no order can break.
-/

namespace P4475.Assets

open Lib

variable {index requestedTracks : List Text}
  {sourceTable sourceLocale targetTable targetLocale : BmlNode}
  {selected ordered : List SelectedTrack}

/-! ## Orders -/

end P4475.Assets
