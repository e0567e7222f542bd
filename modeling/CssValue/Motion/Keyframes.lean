import CssValue.Json
import CssValue.Text.Render

/-!
# Keyframe rules

A rule is written over several lines: one that names it and opens its block, the keyframes, each a
block of indented declarations, and one that closes the block.  The strings here spell the braces of
these blocks by their code points, an opening brace as `\x7b` and a closing one as `\x7d`.
-/

namespace CssValue

/-- The moment of a keyframe. -/
inductive KeyframeSelector where
  | fromStart
  | toEnd
  | percentage (value : Binary64)
deriving BEq, DecidableEq

instance : Render KeyframeSelector where
  render
    | .fromStart => "from"
    | .toEnd => "to"
    | .percentage value => render value ++ "%"

instance : Encode KeyframeSelector where
  encode
    | .fromStart => .string "From"
    | .toEnd => .string "To"
    | .percentage value => .tagged "Percentage" (encode value)

structure KeyframeProperty where
  name : String
  value : String
deriving DecidableEq

instance : Render KeyframeProperty where
  render property := property.name ++ ": " ++ property.value ++ ";"

instance : Encode KeyframeProperty where
  encode property := .object [("name", encode property.name), ("value", encode property.value)]

/-- A named rule of keyframes in their written order. -/
structure Keyframes where
  name : String
  frames : List (KeyframeSelector × List KeyframeProperty)
deriving BEq, DecidableEq

namespace Keyframes

def ofName (name : String) : Keyframes := ⟨name, []⟩

/-- The rule with one more keyframe at its end. -/
def withFrame (keyframes : Keyframes) (selector : KeyframeSelector)
    (properties : List KeyframeProperty) : Keyframes :=
  { keyframes with frames := keyframes.frames ++ [(selector, properties)] }

/-- The lines of one keyframe, its declarations indented. -/
def frameLines (frame : KeyframeSelector × List KeyframeProperty) : List String :=
  ("  " ++ render frame.1 ++ " \x7b") ::
    (frame.2.map fun property => "    " ++ render property) ++ ["  \x7d"]

def lines (keyframes : Keyframes) : List String :=
  ("@keyframes " ++ keyframes.name ++ " \x7b") :: keyframes.frames.flatMap frameLines ++ ["\x7d"]

end Keyframes

instance : Render Keyframes := ⟨fun keyframes => "\n".intercalate keyframes.lines⟩

instance : Encode Keyframes where
  encode keyframes :=
    .object [("name", encode keyframes.name), ("frames", encode keyframes.frames)]

end CssValue
