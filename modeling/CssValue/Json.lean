import CssValue.Binary64.Decimal

/-!
# Interchange trees

Values are exchanged as JSON trees.  A structure is an object of its fields.  An alternative is its
bare tag when it carries nothing, and otherwise an object whose one key is the tag.  A number that
is not finite has no JSON form and is written as `null`, which no number is read from.
-/

namespace CssValue

/-- A JSON tree.  Whole numbers are kept apart from other numbers, as their writers intend them. -/
inductive Json where
  | null
  | boolean (value : Bool)
  | integer (value : Int)
  | number (value : Binary64)
  | string (value : String)
  | array (items : List Json)
  | object (fields : List (String × Json))

/-- Types whose values have an interchange tree. -/
class Encode (α : Type) where
  /-- The tree of a value. -/
  encode : α → Json

/-- Types whose values can be read from an interchange tree. -/
class Decode (α : Type) where
  /-- The value of a tree, if the tree has the required form. -/
  decode? : Json → Option α

export Encode (encode)
export Decode (decode?)

namespace Json

/-- The tree of an alternative that carries `payload`. -/
def tagged (tag : String) (payload : Json) : Json := .object [(tag, payload)]

/-- The tag and the payload of an alternative.  A tag without a payload is a string, or the key of
a `null`. -/
def alternative? : Json → Option (String × Json)
  | .string tag => some (tag, .null)
  | .object [(tag, payload)] => some (tag, payload)
  | _ => none

end Json

section Encode

variable {α β : Type} [Encode α] [Encode β]

instance : Encode Bool := ⟨.boolean⟩
instance : Encode Int := ⟨.integer⟩
instance : Encode Nat := ⟨fun n => .integer n⟩
instance : Encode String := ⟨.string⟩
instance : Encode Binary64 := ⟨fun x => if x.isFinite then .number x else .null⟩
instance : Encode (List α) := ⟨fun items => .array (items.map encode)⟩
instance : Encode (α × β) := ⟨fun (first, second) => .array [encode first, encode second]⟩

instance : Encode (Option α) where
  encode
    | some value => encode value
    | none => .null

end Encode

/-- A whole number is read as the nearest number. -/
instance : Decode Binary64 where
  decode?
    | .integer value => some (.ofInt value)
    | .number value => some value
    | _ => none

instance : Decode String where
  decode?
    | .string value => some value
    | _ => none

end CssValue
