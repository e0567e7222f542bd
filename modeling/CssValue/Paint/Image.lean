import CssValue.Paint.Gradient

/-! # Images -/

namespace CssValue

inductive Image where
  | url (url : String)
  | none
  | gradient (gradient : Gradient)
deriving BEq, DecidableEq

instance : Render Image where
  render
    | .url url => Text.functional "url" ("'" ++ url ++ "'")
    | .none => "none"
    | .gradient gradient => render gradient

instance : Encode Image where
  encode
    | .url url => .tagged "Url" (encode url)
    | .none => .string "None"
    | .gradient gradient => .tagged "Gradient" (encode gradient)

end CssValue
