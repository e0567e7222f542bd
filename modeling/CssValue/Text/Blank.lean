/-!
# Blank text

Text that shows nothing: every character of it is white space.  The characters are those of the
Unicode property `White_Space`.
-/

namespace CssValue.Text

/-- The ranges of the property `White_Space`, first and last character each. -/
def whiteSpaceRanges : List (Nat × Nat) :=
  [(0x09, 0x0D), (0x20, 0x20), (0x85, 0x85), (0xA0, 0xA0), (0x1680, 0x1680), (0x2000, 0x200A),
    (0x2028, 0x2029), (0x202F, 0x202F), (0x205F, 0x205F), (0x3000, 0x3000)]

/-- The character has the property `White_Space`. -/
def isWhiteSpace (c : Char) : Bool :=
  whiteSpaceRanges.any fun (first, last) => first ≤ c.toNat && c.toNat ≤ last

/-- The text is empty or white space throughout. -/
def isBlank (text : String) : Bool := text.toList.all isWhiteSpace

/-- The text, or `fallback` in place of a blank one. -/
def orIfBlank (fallback text : String) : String := if isBlank text then fallback else text

/-- A text that is not blank is kept. -/
theorem orIfBlank_of_not_blank {fallback text : String} (visible : isBlank text = false) :
    orIfBlank fallback text = text := by
  simp [orIfBlank, visible]

end CssValue.Text
