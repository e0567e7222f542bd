import CssValue.Binary64.Shortest

/-!
# Canonical text

Every value has one canonical text.  Texts are put together in three ways: parts separated by
spaces, parts separated by commas, and the functional notation `name(arguments)`.
-/

namespace CssValue

/-- Types whose values have one canonical text. -/
class Render (α : Type) where
  /-- The canonical text of a value. -/
  render : α → String

export Render (render)

instance : Render Binary64 := ⟨Binary64.text⟩
instance : Render Int := ⟨toString⟩
instance : Render Nat := ⟨toString⟩

namespace Text

/-- The parts, separated by single spaces. -/
def spaced (parts : List String) : String := " ".intercalate parts

/-- The parts, separated by a comma and a space. -/
def listed (parts : List String) : String := ", ".intercalate parts

/-- The functional notation. -/
def functional (name arguments : String) : String := name ++ "(" ++ arguments ++ ")"

/-- A list of parts put together by `join`; an empty list is `none`. -/
def orNone (join : List String → String) (parts : List String) : String :=
  if parts.isEmpty then "none" else join parts

@[simp] theorem spaced_singleton (part : String) : spaced [part] = part := rfl

@[simp] theorem listed_singleton (part : String) : listed [part] = part := rfl

/-- The characters of a functional notation are its name and its arguments in parentheses. -/
@[simp] theorem toList_functional (name arguments : String) :
    (functional name arguments).toList = name.toList ++ '(' :: (arguments.toList ++ [')']) := by
  simp [functional]

/-- The characters of spaced parts are those of the parts with a space between them. -/
@[simp] theorem toList_spaced (parts : List String) :
    (spaced parts).toList = [' '].intercalate (parts.map String.toList) := by
  simp [spaced]

/-- The characters of listed parts are those of the parts with a comma and a space between them. -/
@[simp] theorem toList_listed (parts : List String) :
    (listed parts).toList = [',', ' '].intercalate (parts.map String.toList) := by
  simp [listed]

variable {α : Type} [Render α]

/-- The text of an optional part, if the part is present. -/
def part (value : Option α) : List String := value.toList.map render

/-- The text of one of four optional sides; an absent side is `0`. -/
def side : Option α → String
  | some value => render value
  | none => "0"

/-- Four optional sides in their written order. -/
def fourSides (first second third fourth : Option α) : String :=
  spaced [side first, side second, side third, side fourth]

end Text
end CssValue
