import CssValue.Paint.Color
import CssValue.Quantity.Angle
import CssValue.Quantity.Length

/-! # Filters -/

namespace CssValue

/-- One step of a filter.  Amounts are fractions: one half is fifty percent. -/
inductive FilterFunction where
  | blur (radius : Length)
  | brightness (amount : Binary64)
  | contrast (amount : Binary64)
  | dropShadow (offsetX offsetY blurRadius : Length) (color : Color)
  | grayscale (amount : Binary64)
  | hueRotate (angle : Angle)
  | invert (amount : Binary64)
  | opacity (amount : Binary64)
  | saturate (amount : Binary64)
  | sepia (amount : Binary64)
  | url (reference : String)
deriving BEq, DecidableEq

namespace FilterFunction

def name : FilterFunction → String
  | blur _ => "blur"
  | brightness _ => "brightness"
  | contrast _ => "contrast"
  | dropShadow _ _ _ _ => "drop-shadow"
  | grayscale _ => "grayscale"
  | hueRotate _ => "hue-rotate"
  | invert _ => "invert"
  | opacity _ => "opacity"
  | saturate _ => "saturate"
  | sepia _ => "sepia"
  | url _ => "url"

/-- What stands between the parentheses. -/
def argument : FilterFunction → String
  | blur radius => render radius
  | brightness amount | contrast amount | grayscale amount | invert amount | opacity amount
  | saturate amount | sepia amount => amount.percentageText
  | dropShadow offsetX offsetY blurRadius color =>
    Text.spaced [render offsetX, render offsetY, render blurRadius, render color]
  | hueRotate angle => render angle
  | url reference => reference

end FilterFunction

instance : Render FilterFunction where
  render function := Text.functional function.name function.argument

instance : Encode FilterFunction where
  encode
    | .blur radius => .tagged "Blur" (encode radius)
    | .brightness amount => .tagged "Brightness" (encode amount)
    | .contrast amount => .tagged "Contrast" (encode amount)
    | .dropShadow offsetX offsetY blurRadius color => .tagged "DropShadow" <|
      .object [("offset_x", encode offsetX), ("offset_y", encode offsetY),
        ("blur_radius", encode blurRadius), ("color", encode color)]
    | .grayscale amount => .tagged "Grayscale" (encode amount)
    | .hueRotate angle => .tagged "HueRotate" (encode angle)
    | .invert amount => .tagged "Invert" (encode amount)
    | .opacity amount => .tagged "Opacity" (encode amount)
    | .saturate amount => .tagged "Saturate" (encode amount)
    | .sepia amount => .tagged "Sepia" (encode amount)
    | .url reference => .tagged "Url" (encode reference)

/-- A filter: the steps in the order in which they apply. -/
structure Filter where
  functions : List FilterFunction
deriving BEq, DecidableEq

namespace Filter

def ofFunction (function : FilterFunction) : Filter := ⟨[function]⟩

instance : Add Filter := ⟨fun first second => ⟨first.functions ++ second.functions⟩⟩

end Filter

instance : Render Filter where
  render filter := Text.orNone Text.spaced (filter.functions.map render)

instance : Encode Filter := ⟨fun filter => encode filter.functions⟩

end CssValue
