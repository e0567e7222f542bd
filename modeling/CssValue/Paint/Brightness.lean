import CssValue.Paint.Color

/-!
# Brightness

A fraction in `[-1, 1]` moves a color towards white (positive) or black (negative).  Only notations
whose channels say how bright a color is are changed, and the computed channels are moved into their
range.
-/

namespace CssValue

namespace Brightness

/-- The share `fraction` of the way from `value` to `full`, or to zero if it is negative. -/
def shift (full value fraction : Binary64) : Binary64 :=
  if 0 < fraction then value + (full - value) * fraction else value * (1 + fraction)

/-- A channel made brighter or darker, moved into `[0, 255]` and then without its fraction. -/
def channel (value : Int) (fraction : Binary64) : Int :=
  ((shift 255 (.ofInt value) fraction).clamp 0 255).toInt32

/-- A lightness made brighter or darker, moved into `[0, 100]`. -/
def lightness (value fraction : Binary64) : Binary64 :=
  (shift 100 value fraction).clamp 0 100

/-- The byte of a channel; channels that no byte can hold become the largest byte. -/
def byte (channel : Int) : UInt8 :=
  if 0 ≤ channel ∧ channel ≤ 255 then UInt8.ofNat channel.toNat else 255

/-- Hexadecimal channels made brighter or darker.  The alpha channel stays. -/
def hexChannels (channels : HexChannels) (fraction : Binary64) : HexChannels where
  red := byte (channel channels.red.toNat fraction)
  green := byte (channel channels.green.toNat fraction)
  blue := byte (channel channels.blue.toNat fraction)
  alpha? := channels.alpha?

/-- The fraction is a number in `[-1, 1]`. -/
def inRange (fraction : Binary64) : Bool := decide (-1 ≤ fraction) && decide (fraction ≤ 1)

end Brightness

namespace Color

open Brightness in
/-- The color made brighter or darker.  A fraction out of range, and a hexadecimal color that does
not decode, leave it unchanged with a notice. -/
def adjustBrightness (color : Color) (fraction : Binary64) : Advised Color :=
  if inRange fraction then
    match color with
    | rgb red green blue =>
      .plain (rgb (channel red fraction) (channel green fraction) (channel blue fraction))
    | rgba red green blue alpha =>
      .plain (rgba (channel red fraction) (channel green fraction) (channel blue fraction) alpha)
    | hsl hue saturation value => .plain (hsl hue saturation (lightness value fraction))
    | hsla hue saturation value alpha =>
      .plain (hsla hue saturation (lightness value fraction) alpha)
    | hex text =>
      match HexChannels.decode text with
      | .ok channels => .plain (hex (hexChannels channels fraction).encode)
      | .error _ => .unchanged color .undecodableHex
    | named _ | hwb _ _ _ | lab _ _ _ | lch _ _ _ | system _ | currentColor | transparent
    | wide _ => .plain color
  else .unchanged color .fractionOutOfRange

def lighter (color : Color) (fraction : Binary64) : Advised Color := color.adjustBrightness fraction

def darker (color : Color) (fraction : Binary64) : Advised Color :=
  color.adjustBrightness (-fraction)

/-- The fraction of a brightness change when none is given. -/
def defaultStep : Binary64 := 0.2

def lighten (color : Color) : Advised Color := color.lighter defaultStep

def darken (color : Color) : Advised Color := color.darker defaultStep

end Color
end CssValue
