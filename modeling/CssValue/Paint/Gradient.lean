import CssValue.Paint.Color
import CssValue.Placement.Position
import CssValue.Quantity.Angle

/-! # Gradients -/

namespace CssValue

/-- A color of a gradient and the positions where it stands. -/
structure GradientStop where
  color : Color
  positions : List Length
deriving BEq, DecidableEq

namespace GradientStop

def ofColor (color : Color) : GradientStop := ⟨color, []⟩

/-- The color stands at one more position. -/
def standingAt (stop : GradientStop) (position : Length) : GradientStop :=
  { stop with positions := stop.positions ++ [position] }

end GradientStop

instance : Render GradientStop where
  render stop := Text.spaced (render stop.color :: stop.positions.map render)

instance : Encode GradientStop where
  encode stop := .object [("color", encode stop.color), ("positions", encode stop.positions)]

/-- The shape of a radial gradient. -/
inductive RadialShape where
  | circle | ellipse
deriving DecidableEq

instance : Keyword RadialShape where
  all := [.circle, .ellipse]
  token
    | .circle => "circle"
    | .ellipse => "ellipse"

/-- How far a radial gradient reaches. -/
inductive RadialSize where
  | closestSide
  | farthestSide
  | closestCorner
  | farthestCorner
  | explicit (width height : Length)
deriving BEq, DecidableEq

instance : Render RadialSize where
  render
    | .closestSide => "closest-side"
    | .farthestSide => "farthest-side"
    | .closestCorner => "closest-corner"
    | .farthestCorner => "farthest-corner"
    | .explicit width height => Text.spaced [render width, render height]

instance : Encode RadialSize where
  encode
    | .closestSide => .string "ClosestSide"
    | .farthestSide => .string "FarthestSide"
    | .closestCorner => .string "ClosestCorner"
    | .farthestCorner => .string "FarthestCorner"
    | .explicit width height => .tagged "Explicit" (.array [encode width, encode height])

/-- An image that blends colors along a line, around a center, or around a circle. -/
inductive Gradient where
  | linear (angle : Angle) (stops : List GradientStop)
  | radial (shape : RadialShape) (size : RadialSize) (position : Position)
      (stops : List GradientStop)
  | conic (angle : Angle) (position : Position) (stops : List GradientStop)
deriving BEq, DecidableEq

namespace Gradient

def functionName : Gradient → String
  | linear _ _ => "linear-gradient"
  | radial _ _ _ _ => "radial-gradient"
  | conic _ _ _ => "conic-gradient"

/-- What the notation says before its colors. -/
def geometry : Gradient → String
  | linear angle _ => render angle
  | radial shape size position _ =>
    Text.spaced [render shape, render size, "at", render position]
  | conic angle position _ => Text.spaced ["from", render angle, "at", render position]

def stops : Gradient → List GradientStop
  | linear _ stops | radial _ _ _ stops | conic _ _ stops => stops

end Gradient

instance : Render Gradient where
  render gradient :=
    Text.functional gradient.functionName
      (Text.listed (gradient.geometry :: gradient.stops.map render))

instance : Encode Gradient where
  encode
    | .linear angle stops => .tagged "Linear" <|
      .object [("angle", encode angle), ("stops", encode stops)]
    | .radial shape size position stops => .tagged "Radial" <|
      .object [("shape", encode shape), ("size", encode size), ("position", encode position),
        ("stops", encode stops)]
    | .conic angle position stops => .tagged "Conic" <|
      .object [("angle", encode angle), ("position", encode position), ("stops", encode stops)]

end CssValue
