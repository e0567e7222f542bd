import CssValue.Json
import CssValue.Text.Render

/-! # Angles -/

namespace CssValue

/-- An angle, in the unit it was written in. -/
inductive Angle where
  | degrees (value : Binary64)
  | radians (value : Binary64)
  | gradians (value : Binary64)
  | turns (value : Binary64)
deriving BEq, DecidableEq

instance : Render Angle where
  render
    | .degrees value => render value ++ "deg"
    | .radians value => render value ++ "rad"
    | .gradians value => render value ++ "grad"
    | .turns value => render value ++ "turn"

instance : Encode Angle where
  encode
    | .degrees value => .tagged "Deg" (encode value)
    | .radians value => .tagged "Rad" (encode value)
    | .gradians value => .tagged "Grad" (encode value)
    | .turns value => .tagged "Turn" (encode value)

end CssValue
