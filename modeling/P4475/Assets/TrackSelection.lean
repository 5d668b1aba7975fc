import P4475.Assets.TrackStaging

/-!
# Which tracks are selected

The selection is read off the four catalogs: a row of the source is taken if it passes the tests of
`considerTrack`, and what it is taken as does not matter here.
-/

namespace P4475.Assets

open Lib

variable {index requestedTracks : List Text}
  {sourceTable sourceLocale targetTable targetLocale : BmlNode} {selected : List SelectedTrack}

end P4475.Assets
