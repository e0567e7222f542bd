import CssValue.Quantity.Length

/-! # Grid tracks -/

namespace CssValue

/-- How often a group of tracks repeats. -/
inductive RepeatCount where
  | count (count : Nat)
  | autoFill
  | autoFit
deriving DecidableEq

instance : Render RepeatCount where
  render
    | .count count => render count
    | .autoFill => "auto-fill"
    | .autoFit => "auto-fit"

instance : Encode RepeatCount where
  encode
    | .count count => .tagged "Count" (encode count)
    | .autoFill => .string "AutoFill"
    | .autoFit => .string "AutoFit"

namespace Grid

/-- The notation for a size between two bounds. -/
def minmaxText (least most : Length) : String :=
  Text.functional "minmax" (Text.listed [render least, render most])

/-- The notation for a size that fits the content up to a limit. -/
def fitContentText (limit : Length) : String := Text.functional "fit-content" (render limit)

end Grid

/-- The size of one track of a template. -/
inductive GridTrack where
  | fraction (share : Binary64)
  | minmax (least most : Length)
  | auto
  | length (length : Length)
  | fitContent (limit : Length)
deriving BEq, DecidableEq

instance : Render GridTrack where
  render
    | .fraction share => render share ++ "fr"
    | .minmax least most => Grid.minmaxText least most
    | .auto => "auto"
    | .length length => render length
    | .fitContent limit => Grid.fitContentText limit

instance : Encode GridTrack where
  encode
    | .fraction share => .tagged "Fr" (encode share)
    | .minmax least most => .tagged "Minmax" (.array [encode least, encode most])
    | .auto => .string "Auto"
    | .length length => .tagged "Length" (encode length)
    | .fitContent limit => .tagged "FitContent" (encode limit)

/-- The size of tracks that no template names. -/
inductive GridAuto where
  | auto
  | length (length : Length)
  | minmax (least most : Length)
  | fitContent (limit : Length)
deriving BEq, DecidableEq

instance : Render GridAuto where
  render
    | .auto => "auto"
    | .length length => render length
    | .minmax least most => Grid.minmaxText least most
    | .fitContent limit => Grid.fitContentText limit

instance : Encode GridAuto where
  encode
    | .auto => .string "Auto"
    | .length length => .tagged "Length" (encode length)
    | .minmax least most => .tagged "Minmax" (.array [encode least, encode most])
    | .fitContent limit => .tagged "FitContent" (encode limit)

/-- The order in which cells are filled. -/
inductive GridAutoFlow where
  | row | column | rowDense | columnDense
deriving DecidableEq

instance : Keyword GridAutoFlow where
  all := [.row, .column, .rowDense, .columnDense]
  token
    | .row => "row"
    | .column => "column"
    | .rowDense => "row dense"
    | .columnDense => "column dense"

/-- The gaps between rows and between columns. -/
structure GridGap where
  row : Length
  column : Length
deriving BEq, DecidableEq

def GridGap.uniform (gap : Length) : GridGap := ⟨gap, gap⟩

/-- Gaps of equal value are written once. -/
instance : Render GridGap where
  render gap :=
    if gap.row == gap.column then render gap.row
    else Text.spaced [render gap.row, render gap.column]

instance : Encode GridGap where
  encode gap := .object [("row", encode gap.row), ("column", encode gap.column)]

end CssValue
