import P4475.Assets.TrackMerges
import P4475.Lib.Outcome

/-!
# What staging leaves to the installation

`CatalogsHold` says what the merged catalogs are good for, `FitInOrder` when they are: no installed
row is hidden behind another spelling of its path, no new track is selected twice, and what is
installed is spelled like the source spells it.
-/

namespace P4475.Assets

open Lib

variable {track other : SelectedTrack} {tracks : List SelectedTrack} {rows : List BmlNode}

/-! ## Folded ids -/

variable {index requestedTracks : List Text}
  {sourceTable sourceLocale targetTable targetLocale : BmlNode} {selected : List SelectedTrack}

section

variable {table locale : List BmlNode} {ordered : List SelectedTrack}

end

end P4475.Assets
