import CssValue.Keyword

/-! # Timing functions -/

namespace CssValue

/-- The end of an interval at which a stepped function steps. -/
inductive StepPosition where
  | atStart | atEnd
deriving DecidableEq

instance : Keyword StepPosition where
  all := [.atStart, .atEnd]
  token
    | .atStart => "start"
    | .atEnd => "end"

/-- How far a motion has come at each moment. -/
inductive TimingFunction where
  | ease
  | linear
  | easeIn
  | easeOut
  | easeInOut
  | stepStart
  | stepEnd
  | cubicBezier (x1 y1 x2 y2 : Binary64)
  | steps (count : Nat) (position : StepPosition)
deriving BEq, DecidableEq

namespace TimingFunction

/-- A gentle start along a quarter of a sine wave. -/
def easeInSine : TimingFunction := cubicBezier 0.12 0 0.39 0

def easeOutSine : TimingFunction := cubicBezier 0.61 1 0.88 1

def easeInOutSine : TimingFunction := cubicBezier 0.37 0 0.63 1

end TimingFunction

open Text in
instance : Render TimingFunction where
  render
    | .ease => "ease"
    | .linear => "linear"
    | .easeIn => "ease-in"
    | .easeOut => "ease-out"
    | .easeInOut => "ease-in-out"
    | .stepStart => "step-start"
    | .stepEnd => "step-end"
    | .cubicBezier x1 y1 x2 y2 =>
      functional "cubic-bezier" (listed [render x1, render y1, render x2, render y2])
    | .steps count position => functional "steps" (listed [render count, render position])

instance : Encode TimingFunction where
  encode
    | .ease => .string "Ease"
    | .linear => .string "Linear"
    | .easeIn => .string "EaseIn"
    | .easeOut => .string "EaseOut"
    | .easeInOut => .string "EaseInOut"
    | .stepStart => .string "StepStart"
    | .stepEnd => .string "StepEnd"
    | .cubicBezier x1 y1 x2 y2 => .tagged "CubicBezier" <|
      .object [("x1", encode x1), ("y1", encode y1), ("x2", encode x2), ("y2", encode y2)]
    | .steps count position => .tagged "Steps" (.array [encode count, encode position])

end CssValue
