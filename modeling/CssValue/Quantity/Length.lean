import CssValue.Quantity.WideKeyword

/-!
# Lengths

A length is any one-dimensional size: a number with a unit, a percentage, a sizing keyword, a
`calc()` expression or a CSS-wide keyword.
-/

namespace CssValue

/-- A unit of length, or of a share of the free space (`fr`). -/
inductive LengthUnit where
  | px | em | rem | vw | vh | vmin | vmax | cm | mm | inch | pt | pc | ex | ch | lh | fr | q | cap
  | ic | rlh
deriving DecidableEq

instance : Keyword LengthUnit where
  all := [.px, .em, .rem, .vw, .vh, .vmin, .vmax, .cm, .mm, .inch, .pt, .pc, .ex, .ch, .lh, .fr,
    .q, .cap, .ic, .rlh]
  token
    | .px => "px"
    | .em => "em"
    | .rem => "rem"
    | .vw => "vw"
    | .vh => "vh"
    | .vmin => "vmin"
    | .vmax => "vmax"
    | .cm => "cm"
    | .mm => "mm"
    | .inch => "in"
    | .pt => "pt"
    | .pc => "pc"
    | .ex => "ex"
    | .ch => "ch"
    | .lh => "lh"
    | .fr => "fr"
    | .q => "q"
    | .cap => "cap"
    | .ic => "ic"
    | .rlh => "rlh"

/-- A keyword for a size that depends on the content. -/
inductive SizeKeyword where
  | auto | maxContent | minContent | fitContent
deriving DecidableEq

instance : Keyword SizeKeyword where
  all := [.auto, .maxContent, .minContent, .fitContent]
  token
    | .auto => "auto"
    | .maxContent => "max-content"
    | .minContent => "min-content"
    | .fitContent => "fit-content"

inductive Length where
  | dimension (value : Binary64) (unit : LengthUnit)
  | percentage (value : Binary64)
  | keyword (keyword : SizeKeyword)
  /-- The text between the parentheses of a `calc()`. -/
  | calculation (expression : String)
  | wide (keyword : WideKeyword)
deriving BEq, DecidableEq

namespace Length

def px (value : Binary64) : Length := dimension value .px

def zero : Length := px 0

def auto : Length := keyword .auto

/-- The length is a number with a unit or a percentage. -/
def isNumeric : Length → Bool
  | dimension _ _ | percentage _ => true
  | keyword _ | calculation _ | wide _ => false

/-- The size of the number in a length, without its sign; zero where there is no number. -/
def magnitude : Length → Binary64
  | dimension value _ | percentage value => value.abs
  | keyword _ | calculation _ | wide _ => 0

end Length

instance : Render Length where
  render
    | .dimension value unit => render value ++ render unit
    | .percentage value => render value ++ "%"
    | .keyword keyword => render keyword
    | .calculation expression => Text.functional "calc" expression
    | .wide keyword => render keyword

instance : Encode Length where
  encode
    | .dimension value unit => .tagged "Dimension" (.array [encode value, encode unit])
    | .percentage value => .tagged "Percentage" (encode value)
    | .keyword keyword => .tagged "Keyword" (encode keyword)
    | .calculation expression => .tagged "Calc" (encode expression)
    | .wide keyword => .tagged "Global" (encode keyword)

instance : Decode Length where
  decode? tree :=
    match tree.alternative? with
    | some ("Dimension", .array [value, unit]) =>
      Length.dimension <$> decode? value <*> decode? unit
    | some ("Percentage", value) => Length.percentage <$> decode? value
    | some ("Keyword", keyword) => Length.keyword <$> decode? keyword
    | some ("Calc", expression) => Length.calculation <$> decode? expression
    | some ("Global", keyword) => Length.wide <$> decode? keyword
    | _ => none

end CssValue
