import CssValue.Quantity.Length

/-! # Margins and paddings -/

namespace CssValue

/-- The lengths at the four edges of a box, as margin and padding write them. -/
inductive BoxEdges where
  | all (length : Length)
  | horizontal (length : Length)
  | vertical (length : Length)
  | edges (top right bottom left : Option Length)
deriving BEq, DecidableEq

namespace BoxEdges

def auto : BoxEdges := all .auto

def top (length : Length) : BoxEdges := edges (some length) none none none

def right (length : Length) : BoxEdges := edges none (some length) none none

def bottom (length : Length) : BoxEdges := edges none none (some length) none

def left (length : Length) : BoxEdges := edges none none none (some length)

end BoxEdges

instance : Render BoxEdges where
  render
    | .all length => render length
    | .horizontal length => Text.spaced ["0", render length]
    | .vertical length => Text.spaced [render length, "0"]
    | .edges top right bottom left => Text.fourSides top right bottom left

instance : Encode BoxEdges where
  encode
    | .all length => .tagged "All" (encode length)
    | .horizontal length => .tagged "Horizontal" (encode length)
    | .vertical length => .tagged "Vertical" (encode length)
    | .edges top right bottom left => .tagged "Edges" <|
      .object [("top", encode top), ("right", encode right), ("bottom", encode bottom),
        ("left", encode left)]

end CssValue
