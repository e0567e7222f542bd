import CssValue.Json
import CssValue.Text.Blank
import CssValue.Text.Render

/-! # Placement of items in a grid -/

namespace CssValue

/-- A line of a grid, or a distance in tracks. -/
inductive GridLine where
  | auto
  | span (count : Nat)
  | line (number : Int)
  | named (name : String)
deriving DecidableEq

instance : Render GridLine where
  render
    | .auto => "auto"
    | .span count => Text.spaced ["span", render count]
    | .line number => render number
    | .named name => Text.orIfBlank "auto" name

instance : Encode GridLine where
  encode
    | .auto => .string "Auto"
    | .span count => .tagged "Span" (encode count)
    | .line number => .tagged "Line" (encode number)
    | .named name => .tagged "Name" (encode name)

namespace Grid

/-- Placements are separated by slashes. -/
def slashed (parts : List String) : String := " / ".intercalate parts

end Grid

/-- The first and the last line of an item along one axis. -/
structure GridPlacement where
  start : GridLine
  stop : GridLine
deriving DecidableEq

instance : Render GridPlacement where
  render placement := Grid.slashed [render placement.start, render placement.stop]

instance : Encode GridPlacement where
  encode placement :=
    .object [("start", encode placement.start), ("end", encode placement.stop)]

/-- The area of an item. -/
inductive GridArea where
  | auto
  | lines (rowStart columnStart rowEnd columnEnd : Int)
  | named (name : String)
deriving DecidableEq

instance : Render GridArea where
  render
    | .auto => "auto"
    | .lines rowStart columnStart rowEnd columnEnd =>
      Grid.slashed [render rowStart, render columnStart, render rowEnd, render columnEnd]
    | .named name => Text.orIfBlank "auto" name

instance : Encode GridArea where
  encode
    | .auto => .string "Auto"
    | .lines rowStart columnStart rowEnd columnEnd => .tagged "Lines" <|
      .object [("row_start", encode rowStart), ("column_start", encode columnStart),
        ("row_end", encode rowEnd), ("column_end", encode columnEnd)]
    | .named name => .tagged "Named" (encode name)

end CssValue
