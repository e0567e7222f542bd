import CssValue.Json
import CssValue.Text.Render

/-!
# Keywords

An enumeration of keywords is given by the list of its members and the token of each.  The tag of a
keyword in interchange trees follows from its token: the words of the token, capitalised and run
together.
-/

namespace CssValue

/-- Enumerations of keywords. -/
class Keyword (α : Type) where
  /-- The members, in their documented order. -/
  all : List α
  /-- The text of a keyword. -/
  token : α → String

namespace Keyword

/-- The words of a token, capitalised and run together; `start` says whether a word begins. -/
def capitalise (start : Bool) : List Char → List Char
  | [] => []
  | c :: rest =>
    if c = '-' ∨ c = ' ' then capitalise true rest
    else (if start then c.toUpper else c) :: capitalise false rest

variable {α : Type} [Keyword α]

/-- The tag of a keyword, such as `RevertLayer` for `revert-layer`. -/
def tag (keyword : α) : String := String.ofList (capitalise true (token keyword).toList)

/-- The keyword of a tag; letter case matters. -/
def ofTag? (text : String) : Option α := all.find? (tag · == text)

instance (priority := low) : Render α := ⟨token⟩

instance (priority := low) : Encode α := ⟨fun keyword => .string (tag keyword)⟩

instance (priority := low) : Decode α where
  decode? tree :=
    match tree.alternative? with
    | some (name, .null) => ofTag? name
    | _ => none

end Keyword
end CssValue
