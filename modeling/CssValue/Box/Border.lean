import CssValue.Paint.Color
import CssValue.Quantity.Length

/-! # Borders and outlines -/

namespace CssValue

inductive BorderWidth where
  | length (length : Length)
  | thin
  | medium
  | thick
deriving BEq, DecidableEq

instance : Render BorderWidth where
  render
    | .length length => render length
    | .thin => "thin"
    | .medium => "medium"
    | .thick => "thick"

instance : Encode BorderWidth where
  encode
    | .length length => .tagged "Length" (encode length)
    | .thin => .string "Thin"
    | .medium => .string "Medium"
    | .thick => .string "Thick"

inductive BorderStyle where
  | none | hidden | dotted | dashed | solid | double | groove | ridge | inset | outset
deriving DecidableEq

instance : Keyword BorderStyle where
  all := [.none, .hidden, .dotted, .dashed, .solid, .double, .groove, .ridge, .inset, .outset]
  token
    | .none => "none"
    | .hidden => "hidden"
    | .dotted => "dotted"
    | .dashed => "dashed"
    | .solid => "solid"
    | .double => "double"
    | .groove => "groove"
    | .ridge => "ridge"
    | .inset => "inset"
    | .outset => "outset"

/-- The radius of the corners. -/
inductive BorderRadius where
  | all (radius : Length)
  | corners (topLeft topRight bottomRight bottomLeft : Option Length)
deriving BEq, DecidableEq

namespace BorderRadius

def topLeft (radius : Length) : BorderRadius := corners (some radius) none none none

def topRight (radius : Length) : BorderRadius := corners none (some radius) none none

def bottomRight (radius : Length) : BorderRadius := corners none none (some radius) none

def bottomLeft (radius : Length) : BorderRadius := corners none none none (some radius)

end BorderRadius

instance : Render BorderRadius where
  render
    | .all radius => render radius
    | .corners topLeft topRight bottomRight bottomLeft =>
      Text.fourSides topLeft topRight bottomRight bottomLeft

instance : Encode BorderRadius where
  encode
    | .all radius => .tagged "All" (encode radius)
    | .corners topLeft topRight bottomRight bottomLeft => .tagged "Corners" <|
      .object [("top_left", encode topLeft), ("top_right", encode topRight),
        ("bottom_right", encode bottomRight), ("bottom_left", encode bottomLeft)]

/-- The value of a border property. -/
inductive Border where
  | shorthand (width : BorderWidth) (style : BorderStyle) (color : Option Color)
  | width (width : BorderWidth)
  | style (style : BorderStyle)
  | color (color : Color)
  | radius (radius : BorderRadius)
  | wide (keyword : WideKeyword)
deriving BEq, DecidableEq

namespace Border

def none : Border := style .none

def ofLength (width : Length) (style : BorderStyle) (color : Option Color) : Border :=
  shorthand (.length width) style color

end Border

instance : Render Border where
  render
    | .shorthand width style color =>
      Text.spaced ([render width, render style] ++ Text.part color)
    | .width width => render width
    | .style style => render style
    | .color color => render color
    | .radius radius => render radius
    | .wide keyword => render keyword

instance : Encode Border where
  encode
    | .shorthand width style color => .tagged "Shorthand" <|
      .object [("width", encode width), ("style", encode style), ("color", encode color)]
    | .width width => .tagged "Width" (encode width)
    | .style style => .tagged "Style" (encode style)
    | .color color => .tagged "Color" (encode color)
    | .radius radius => .tagged "Radius" (encode radius)
    | .wide keyword => .tagged "Global" (encode keyword)

/-- A line around a box, outside its border. -/
structure Outline where
  style : BorderStyle
  width : BorderWidth
  color : Option Color
deriving BEq, DecidableEq

def Outline.none : Outline := ⟨.none, .medium, Option.none⟩

instance : Render Outline where
  render outline :=
    Text.spaced ([render outline.style, render outline.width] ++ Text.part outline.color)

instance : Encode Outline where
  encode outline := .object
    [("style", encode outline.style), ("width", encode outline.width),
      ("color", encode outline.color)]

end CssValue
