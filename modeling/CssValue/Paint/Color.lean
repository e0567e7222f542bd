import CssValue.Paint.ColorName
import CssValue.Paint.Hex
import CssValue.Quantity.WideKeyword

/-!
# Colors

A color keeps the notation it was written in.  Its numbers are kept as they were given: none is
refused or moved into a range.
-/

namespace CssValue

/-- A color in one of the notations of CSS. -/
inductive Color where
  | named (name : NamedColor)
  /-- Hexadecimal digits, with or without number signs in front of them. -/
  | hex (text : String)
  | rgb (red green blue : Int)
  | rgba (red green blue : Int) (alpha : Binary64)
  | hsl (hue : Int) (saturation lightness : Binary64)
  | hsla (hue : Int) (saturation lightness alpha : Binary64)
  | hwb (hue : Int) (whiteness blackness : Binary64)
  | lab (lightness a b : Binary64)
  | lch (lightness chroma hue : Binary64)
  | system (color : SystemColor)
  | currentColor
  | transparent
  | wide (keyword : WideKeyword)
deriving BEq, DecidableEq

namespace Color

def percent (value : Binary64) : String := render value ++ "%"

end Color

open Text in
instance : Render Color where
  render
    | .named name => render name
    | .hex text => String.ofList ('#' :: Hex.bare text)
    | .rgb red green blue => functional "rgb" (listed [render red, render green, render blue])
    | .rgba red green blue alpha =>
      functional "rgba" (listed [render red, render green, render blue, render alpha])
    | .hsl hue saturation lightness =>
      functional "hsl" (listed [render hue, Color.percent saturation, Color.percent lightness])
    | .hsla hue saturation lightness alpha =>
      functional "hsla"
        (listed [render hue, Color.percent saturation, Color.percent lightness, render alpha])
    | .hwb hue whiteness blackness =>
      functional "hwb" (spaced [render hue, Color.percent whiteness, Color.percent blackness])
    | .lab lightness a b =>
      functional "lab" (spaced [Color.percent lightness, render a, render b])
    | .lch lightness chroma hue =>
      functional "lch" (spaced [Color.percent lightness, render chroma, render hue])
    | .system color => render color
    | .currentColor => "currentColor"
    | .transparent => "transparent"
    | .wide keyword => render keyword

instance : Encode Color where
  encode
    | .named name => .tagged "Named" (encode name)
    | .hex text => .tagged "Hex" (encode text)
    | .rgb red green blue => .tagged "Rgb" <|
      .object [("red", encode red), ("green", encode green), ("blue", encode blue)]
    | .rgba red green blue alpha => .tagged "Rgba" <|
      .object [("red", encode red), ("green", encode green), ("blue", encode blue),
        ("alpha", encode alpha)]
    | .hsl hue saturation lightness => .tagged "Hsl" <|
      .object [("hue", encode hue), ("saturation", encode saturation),
        ("lightness", encode lightness)]
    | .hsla hue saturation lightness alpha => .tagged "Hsla" <|
      .object [("hue", encode hue), ("saturation", encode saturation),
        ("lightness", encode lightness), ("alpha", encode alpha)]
    | .hwb hue whiteness blackness => .tagged "Hwb" <|
      .object [("hue", encode hue), ("whiteness", encode whiteness),
        ("blackness", encode blackness)]
    | .lab lightness a b => .tagged "Lab" <|
      .object [("lightness", encode lightness), ("a", encode a), ("b", encode b)]
    | .lch lightness chroma hue => .tagged "Lch" <|
      .object [("lightness", encode lightness), ("chroma", encode chroma), ("hue", encode hue)]
    | .system color => .tagged "System" (encode color)
    | .currentColor => .string "CurrentColor"
    | .transparent => .string "Transparent"
    | .wide keyword => .tagged "Global" (encode keyword)

end CssValue
