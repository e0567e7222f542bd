import CssValue.Grid.Track
import CssValue.Text.Blank

/-! # Grid templates -/

namespace CssValue

/-- The tracks of a grid along one axis. -/
inductive GridTemplate where
  | none
  | tracks (tracks : List GridTrack)
  | repeated (count : RepeatCount) (tracks : List GridTrack)
  | custom (text : String)
deriving BEq, DecidableEq

def GridTemplate.ofLengths (lengths : List Length) : GridTemplate :=
  .tracks (lengths.map GridTrack.length)

open Text in
instance : Render GridTemplate where
  render
    | .none => "none"
    | .tracks tracks => orNone spaced (tracks.map render)
    | .repeated count tracks =>
      functional "repeat" (listed [render count, spaced (tracks.map render)])
    | .custom text => orIfBlank "none" text

instance : Encode GridTemplate where
  encode
    | .none => .string "None"
    | .tracks tracks => .tagged "Tracks" (encode tracks)
    | .repeated count tracks => .tagged "Repeat" (.array [encode count, encode tracks])
    | .custom text => .tagged "Custom" (encode text)

/-- The named areas of a grid, by rows.  A cell without a name belongs to no area. -/
inductive GridTemplateAreas where
  | none
  | areas (rows : List (List (Option String)))
  | custom (text : String)
deriving BEq, DecidableEq

namespace GridTemplateAreas

/-- A row of cells between quotes, with a dot for a cell without a name. -/
def rowText (cells : List (Option String)) : String :=
  "'" ++ Text.spaced (cells.map fun cell => cell.getD ".") ++ "'"

end GridTemplateAreas

open Text in
instance : Render GridTemplateAreas where
  render
    | .none => "none"
    | .areas rows => orNone spaced (rows.map GridTemplateAreas.rowText)
    | .custom text => orIfBlank "none" text

instance : Encode GridTemplateAreas where
  encode
    | .none => .string "None"
    | .areas rows => .tagged "Areas" (encode rows)
    | .custom text => .tagged "Custom" (encode text)

end CssValue
