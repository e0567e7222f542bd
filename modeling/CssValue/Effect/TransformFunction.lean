import CssValue.Quantity.Angle
import CssValue.Quantity.Length

/-! # Single transform functions -/

namespace CssValue

inductive TransformFunction where
  | matrix (a b c d tx ty : Binary64)
  | matrix3d (entries : Vector Binary64 16)
  | translate (x : Length) (y : Option Length)
  | translate3d (x y z : Length)
  | translateX (x : Length)
  | translateY (y : Length)
  | translateZ (z : Length)
  | scale (x : Binary64) (y : Option Binary64)
  | scale3d (x y z : Binary64)
  | scaleX (x : Binary64)
  | scaleY (y : Binary64)
  | scaleZ (z : Binary64)
  | rotate (angle : Angle)
  | rotate3d (x y z : Binary64) (angle : Angle)
  | rotateX (angle : Angle)
  | rotateY (angle : Angle)
  | rotateZ (angle : Angle)
  | skew (x : Angle) (y : Option Angle)
  | skewX (angle : Angle)
  | skewY (angle : Angle)
  | perspective (distance : Length)
deriving BEq, DecidableEq

namespace TransformFunction

def name : TransformFunction → String
  | matrix _ _ _ _ _ _ => "matrix"
  | matrix3d _ => "matrix3d"
  | translate _ _ => "translate"
  | translate3d _ _ _ => "translate3d"
  | translateX _ => "translateX"
  | translateY _ => "translateY"
  | translateZ _ => "translateZ"
  | scale _ _ => "scale"
  | scale3d _ _ _ => "scale3d"
  | scaleX _ => "scaleX"
  | scaleY _ => "scaleY"
  | scaleZ _ => "scaleZ"
  | rotate _ => "rotate"
  | rotate3d _ _ _ _ => "rotate3d"
  | rotateX _ => "rotateX"
  | rotateY _ => "rotateY"
  | rotateZ _ => "rotateZ"
  | skew _ _ => "skew"
  | skewX _ => "skewX"
  | skewY _ => "skewY"
  | perspective _ => "perspective"

open Text in
/-- The arguments of the functional notation.  An absent second argument is left out. -/
def arguments : TransformFunction → List String
  | matrix a b c d tx ty => [a, b, c, d, tx, ty].map render
  | matrix3d entries => entries.toList.map render
  | translate x y => render x :: part y
  | translate3d x y z => [render x, render y, render z]
  | translateX length | translateY length | translateZ length | perspective length =>
    [render length]
  | scale x y => render x :: part y
  | scale3d x y z => [render x, render y, render z]
  | scaleX value | scaleY value | scaleZ value => [render value]
  | rotate3d x y z angle => [render x, render y, render z, render angle]
  | rotate angle | rotateX angle | rotateY angle | rotateZ angle | skewX angle | skewY angle =>
    [render angle]
  | skew x y => render x :: part y

end TransformFunction

instance : Render TransformFunction where
  render function := Text.functional function.name (Text.listed function.arguments)

instance : Encode TransformFunction where
  encode
    | .matrix a b c d tx ty => .tagged "Matrix" <|
      .object [("a", encode a), ("b", encode b), ("c", encode c), ("d", encode d),
        ("tx", encode tx), ("ty", encode ty)]
    | .matrix3d entries => .tagged "Matrix3d" (encode entries.toList)
    | .translate x y => .tagged "Translate" (.object [("x", encode x), ("y", encode y)])
    | .translate3d x y z =>
      .tagged "Translate3d" (.object [("x", encode x), ("y", encode y), ("z", encode z)])
    | .translateX x => .tagged "TranslateX" (encode x)
    | .translateY y => .tagged "TranslateY" (encode y)
    | .translateZ z => .tagged "TranslateZ" (encode z)
    | .scale x y => .tagged "Scale" (.object [("x", encode x), ("y", encode y)])
    | .scale3d x y z =>
      .tagged "Scale3d" (.object [("x", encode x), ("y", encode y), ("z", encode z)])
    | .scaleX x => .tagged "ScaleX" (encode x)
    | .scaleY y => .tagged "ScaleY" (encode y)
    | .scaleZ z => .tagged "ScaleZ" (encode z)
    | .rotate angle => .tagged "Rotate" (encode angle)
    | .rotate3d x y z angle => .tagged "Rotate3d" <|
      .object [("x", encode x), ("y", encode y), ("z", encode z), ("angle", encode angle)]
    | .rotateX angle => .tagged "RotateX" (encode angle)
    | .rotateY angle => .tagged "RotateY" (encode angle)
    | .rotateZ angle => .tagged "RotateZ" (encode angle)
    | .skew x y => .tagged "Skew" (.object [("x", encode x), ("y", encode y)])
    | .skewX angle => .tagged "SkewX" (encode angle)
    | .skewY angle => .tagged "SkewY" (encode angle)
    | .perspective distance => .tagged "Perspective" (encode distance)

end CssValue
