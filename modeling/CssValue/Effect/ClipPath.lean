import CssValue.Quantity.Length
import CssValue.Text.Blank

/-! # Clipping paths -/

namespace CssValue

/-- A point of a clipping shape. -/
structure ClipPoint where
  x : Length
  y : Length
deriving BEq, DecidableEq

instance : Render ClipPoint := ⟨fun point => Text.spaced [render point.x, render point.y]⟩

instance : Encode ClipPoint where
  encode point := .object [("x", encode point.x), ("y", encode point.y)]

inductive ClipPath where
  | none
  | circle (radius : Length) (center : Option ClipPoint)
  | ellipse (radiusX radiusY : Length) (center : Option ClipPoint)
  | inset (top right bottom left : Length) (round : Option Length)
  | polygon (points : List ClipPoint)
  | custom (text : String)
  | wide (keyword : WideKeyword)
deriving BEq, DecidableEq

namespace ClipPath

/-- The shape with its center moved; shapes without a center stay. -/
def centeredAt (path : ClipPath) (point : ClipPoint) : ClipPath :=
  match path with
  | circle radius _ => circle radius (some point)
  | ellipse radiusX radiusY _ => ellipse radiusX radiusY (some point)
  | other => other

/-- The shape with its corners rounded; shapes other than an inset stay. -/
def rounded (path : ClipPath) (radius : Length) : ClipPath :=
  match path with
  | inset top right bottom left _ => inset top right bottom left (some radius)
  | other => other

end ClipPath

open Text in
instance : Render ClipPath where
  render
    | .none => "none"
    | .circle radius center =>
      functional "circle" <|
        spaced (render radius :: (part center).map fun point => spaced ["at", point])
    | .ellipse radiusX radiusY center =>
      functional "ellipse" <| spaced <|
        render radiusX :: render radiusY ::
          (part center).map fun point => spaced ["at", point]
    | .inset top right bottom left round =>
      functional "inset" <| spaced <|
        [render top, render right, render bottom, render left] ++
          (part round).map fun radius => spaced ["round", radius]
    | .polygon points =>
      orNone (fun parts => functional "polygon" (listed parts)) (points.map render)
    | .custom text => orIfBlank "none" text
    | .wide keyword => render keyword

instance : Encode ClipPath where
  encode
    | .none => .string "None"
    | .circle radius center => .tagged "Circle" <|
      .object [("radius", encode radius), ("center", encode center)]
    | .ellipse radiusX radiusY center => .tagged "Ellipse" <|
      .object [("radius_x", encode radiusX), ("radius_y", encode radiusY),
        ("center", encode center)]
    | .inset top right bottom left round => .tagged "Inset" <|
      .object [("top", encode top), ("right", encode right), ("bottom", encode bottom),
        ("left", encode left), ("round", encode round)]
    | .polygon points => .tagged "Polygon" (encode points)
    | .custom text => .tagged "Custom" (encode text)
    | .wide keyword => .tagged "Global" (encode keyword)

end CssValue
