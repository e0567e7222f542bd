import CssValue.Keyword

/-!
# CSS-wide keywords

The keywords that every property accepts in place of a value.
-/

namespace CssValue

inductive WideKeyword where
  | inherit | initial | revert | revertLayer | unset
deriving DecidableEq

instance : Keyword WideKeyword where
  all := [.inherit, .initial, .revert, .revertLayer, .unset]
  token
    | .inherit => "inherit"
    | .initial => "initial"
    | .revert => "revert"
    | .revertLayer => "revert-layer"
    | .unset => "unset"

end CssValue
