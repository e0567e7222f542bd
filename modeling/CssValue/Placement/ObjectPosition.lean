import CssValue.Quantity.Length

/-! # The position of replaced content in its box -/

namespace CssValue

/-- A side of a box or the middle of an axis. -/
inductive PositionKeyword where
  | left | center | right | top | bottom
deriving DecidableEq

instance : Keyword PositionKeyword where
  all := [.left, .center, .right, .top, .bottom]
  token
    | .left => "left"
    | .center => "center"
    | .right => "right"
    | .top => "top"
    | .bottom => "bottom"

/-- The position on one axis. -/
inductive PositionValue where
  | length (length : Length)
  | keyword (keyword : PositionKeyword)
deriving BEq, DecidableEq

instance : Render PositionValue where
  render
    | .length length => render length
    | .keyword keyword => render keyword

instance : Encode PositionValue where
  encode
    | .length length => .tagged "Length" (encode length)
    | .keyword keyword => .tagged "Keyword" (encode keyword)

instance : Decode PositionValue where
  decode? tree :=
    match tree.alternative? with
    | some ("Length", length) => PositionValue.length <$> decode? length
    | some ("Keyword", keyword) => PositionValue.keyword <$> decode? keyword
    | _ => none

/-- The position of replaced content: one value, two values, or a CSS-wide keyword. -/
inductive ObjectPosition where
  | one (value : PositionValue)
  | two (x y : PositionValue)
  | wide (keyword : WideKeyword)
deriving BEq, DecidableEq

namespace ObjectPosition

def oneKeyword (keyword : PositionKeyword) : ObjectPosition := one (.keyword keyword)

def twoKeywords (x y : PositionKeyword) : ObjectPosition := two (.keyword x) (.keyword y)

def left : ObjectPosition := oneKeyword .left

def center : ObjectPosition := oneKeyword .center

def right : ObjectPosition := oneKeyword .right

def top : ObjectPosition := oneKeyword .top

def bottom : ObjectPosition := oneKeyword .bottom

def topLeft : ObjectPosition := twoKeywords .left .top

def topCenter : ObjectPosition := twoKeywords .center .top

def topRight : ObjectPosition := twoKeywords .right .top

def centerLeft : ObjectPosition := twoKeywords .left .center

def centerRight : ObjectPosition := twoKeywords .right .center

def bottomLeft : ObjectPosition := twoKeywords .left .bottom

def bottomCenter : ObjectPosition := twoKeywords .center .bottom

def bottomRight : ObjectPosition := twoKeywords .right .bottom

def lengths (x y : Length) : ObjectPosition := two (.length x) (.length y)

def percentages (x y : Binary64) : ObjectPosition := lengths (.percentage x) (.percentage y)

/-- A length from the left, in the middle of the other axis. -/
def atX (x : Length) : ObjectPosition := two (.length x) (.keyword .center)

/-- A length from the top, in the middle of the other axis. -/
def atY (y : Length) : ObjectPosition := two (.keyword .center) (.length y)

def symmetric (length : Length) : ObjectPosition := lengths length length

end ObjectPosition

instance : Render ObjectPosition where
  render
    | .one value => render value
    | .two x y => Text.spaced [render x, render y]
    | .wide keyword => render keyword

instance : Encode ObjectPosition where
  encode
    | .one value => .tagged "One" (encode value)
    | .two x y => .tagged "Two" (.array [encode x, encode y])
    | .wide keyword => .tagged "Global" (encode keyword)

instance : Decode ObjectPosition where
  decode? tree :=
    match tree.alternative? with
    | some ("One", value) => ObjectPosition.one <$> decode? value
    | some ("Two", .array [x, y]) => ObjectPosition.two <$> decode? x <*> decode? y
    | some ("Global", keyword) => ObjectPosition.wide <$> decode? keyword
    | _ => none

/-- The style of replaced content. -/
structure ObjectStyle where
  position : ObjectPosition
deriving BEq, DecidableEq

namespace ObjectStyle

/-- The style that takes over the position of the surrounding element. -/
def initial : ObjectStyle := ⟨.wide .inherit⟩

def withPosition (style : ObjectStyle) (position : ObjectPosition) : ObjectStyle :=
  { style with position }

end ObjectStyle

instance : Encode ObjectStyle := ⟨fun style => .object [("position", encode style.position)]⟩

/-- A style is read from an object, where keys other than `position` do not count, or from an array
of its one field. -/
instance : Decode ObjectStyle where
  decode?
    | .object fields => fields.lookup "position" >>= fun tree => ObjectStyle.mk <$> decode? tree
    | .array [tree] => ObjectStyle.mk <$> decode? tree
    | _ => none

end CssValue
