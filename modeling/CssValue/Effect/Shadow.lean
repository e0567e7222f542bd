import CssValue.Paint.Color
import CssValue.Quantity.Length

/-! # Shadows of boxes and of text -/

namespace CssValue

structure Shadow where
  offsetX : Length
  offsetY : Length
  blurRadius : Length
  spreadRadius : Length
  color : Color
  inset : Bool
deriving BEq, DecidableEq

namespace Shadow

/-- A sharp shadow right behind the box. -/
def ofColor (color : Color) : Shadow := ⟨.zero, .zero, .zero, .zero, color, false⟩

def withOffset (shadow : Shadow) (x y : Length) : Shadow :=
  { shadow with offsetX := x, offsetY := y }

def withBlur (shadow : Shadow) (radius : Length) : Shadow := { shadow with blurRadius := radius }

def withSpread (shadow : Shadow) (radius : Length) : Shadow :=
  { shadow with spreadRadius := radius }

def inside (shadow : Shadow) : Shadow := { shadow with inset := true }

end Shadow

instance : Render Shadow where
  render shadow := Text.spaced <|
    (if shadow.inset then ["inset"] else []) ++
      [render shadow.offsetX, render shadow.offsetY, render shadow.blurRadius,
        render shadow.spreadRadius, render shadow.color]

instance : Encode Shadow where
  encode shadow := .object
    [("offset_x", encode shadow.offsetX), ("offset_y", encode shadow.offsetY),
      ("blur_radius", encode shadow.blurRadius), ("spread_radius", encode shadow.spreadRadius),
      ("color", encode shadow.color), ("inset", encode shadow.inset)]

/-- The shadows of a box, the topmost first. -/
structure BoxShadow where
  shadows : List Shadow
deriving BEq, DecidableEq

namespace BoxShadow

def ofShadow (shadow : Shadow) : BoxShadow := ⟨[shadow]⟩

/-- A soft shadow below the box. -/
def simple (color : Color) : BoxShadow :=
  ofShadow ((Shadow.ofColor color).withOffset .zero (.px 4) |>.withBlur (.px 6))

/-- Three shadows, each twice as deep as the one above it. -/
def layered (light medium dark : Color) : BoxShadow :=
  ⟨[(Shadow.ofColor light).withOffset .zero (.px 2) |>.withBlur (.px 4),
    (Shadow.ofColor medium).withOffset .zero (.px 4) |>.withBlur (.px 8),
    (Shadow.ofColor dark).withOffset .zero (.px 8) |>.withBlur (.px 16)]⟩

/-- A soft shadow inside the box. -/
def inset (color : Color) : BoxShadow :=
  ofShadow <|
    (((Shadow.ofColor color).withOffset .zero (.px 2)).withBlur (.px 4)).withSpread (.px (-1))
      |>.inside

end BoxShadow

instance : Render BoxShadow where
  render boxShadow := Text.orNone Text.listed (boxShadow.shadows.map render)

instance : Encode BoxShadow := ⟨fun boxShadow => encode boxShadow.shadows⟩

structure TextShadow where
  offsetX : Length
  offsetY : Length
  blurRadius : Length
  color : Color
deriving BEq, DecidableEq

instance : Render TextShadow where
  render shadow := Text.spaced
    [render shadow.offsetX, render shadow.offsetY, render shadow.blurRadius, render shadow.color]

instance : Encode TextShadow where
  encode shadow := .object
    [("offset_x", encode shadow.offsetX), ("offset_y", encode shadow.offsetY),
      ("blur_radius", encode shadow.blurRadius), ("color", encode shadow.color)]

/-- The shadows of text, the topmost first. -/
structure TextShadows where
  shadows : List TextShadow
deriving BEq, DecidableEq

def TextShadows.ofShadow (shadow : TextShadow) : TextShadows := ⟨[shadow]⟩

instance : Render TextShadows where
  render textShadows := Text.orNone Text.listed (textShadows.shadows.map render)

instance : Encode TextShadows := ⟨fun textShadows => encode textShadows.shadows⟩

end CssValue
