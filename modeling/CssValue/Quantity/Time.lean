import CssValue.Json
import CssValue.Text.Render

/-! # Durations -/

namespace CssValue

/-- A duration, in the unit it was written in. -/
inductive Time where
  | seconds (value : Binary64)
  | milliseconds (value : Binary64)
deriving BEq, DecidableEq

namespace Time

def zero : Time := .seconds 0

def inSeconds : Time → Binary64
  | seconds value => value
  | milliseconds value => value / 1000

/-- The sum of two durations, in their common unit; durations in different units add up to
seconds. -/
def add : Time → Time → Time
  | seconds a, seconds b => seconds (a + b)
  | milliseconds a, milliseconds b => milliseconds (a + b)
  | a, b => seconds (a.inSeconds + b.inSeconds)

instance : Add Time := ⟨add⟩

end Time

instance : Render Time where
  render
    | .seconds value => render value ++ "s"
    | .milliseconds value => render value ++ "ms"

instance : Encode Time where
  encode
    | .seconds value => .tagged "Seconds" (encode value)
    | .milliseconds value => .tagged "Milliseconds" (encode value)

end CssValue
