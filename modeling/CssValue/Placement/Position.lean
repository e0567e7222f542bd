import CssValue.Quantity.Length

/-! # Positions in a box -/

namespace CssValue

/-- A horizontal side or the middle. -/
inductive HorizontalKeyword where
  | left | center | right
deriving DecidableEq

instance : Keyword HorizontalKeyword where
  all := [.left, .center, .right]
  token
    | .left => "left"
    | .center => "center"
    | .right => "right"

/-- A vertical side or the middle. -/
inductive VerticalKeyword where
  | top | center | bottom
deriving DecidableEq

instance : Keyword VerticalKeyword where
  all := [.top, .center, .bottom]
  token
    | .top => "top"
    | .center => "center"
    | .bottom => "bottom"

/-- A position, given on each axis by a keyword or a length. -/
inductive Position where
  | keywords (x : HorizontalKeyword) (y : VerticalKeyword)
  | lengths (x y : Length)
  | keywordLength (x : HorizontalKeyword) (y : Length)
  | lengthKeyword (x : Length) (y : VerticalKeyword)
deriving BEq, DecidableEq

namespace Position

/-- The middle of the box. -/
def center : Position := keywords .center .center

/-- The initial position of a background: its top left corner. -/
def initial : Position := lengths (.percentage 0) (.percentage 0)

/-- The two parts of a written position. -/
def parts : Position → List String
  | keywords x y => [render x, render y]
  | lengths x y => [render x, render y]
  | keywordLength x y => [render x, render y]
  | lengthKeyword x y => [render x, render y]

end Position

instance : Render Position := ⟨fun position => Text.spaced position.parts⟩

instance : Encode Position where
  encode
    | .keywords x y => .tagged "Keywords" (.array [encode x, encode y])
    | .lengths x y => .tagged "Lengths" (.array [encode x, encode y])
    | .keywordLength x y =>
      .tagged "Mixed" (.tagged "KeywordLength" (.array [encode x, encode y]))
    | .lengthKeyword x y =>
      .tagged "Mixed" (.tagged "LengthKeyword" (.array [encode x, encode y]))

end CssValue
