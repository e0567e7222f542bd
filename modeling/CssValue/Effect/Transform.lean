import CssValue.Effect.TransformFunction

/-!
# Transforms

A transform is nothing, one function, or a compound of transforms, which may nest.  What counts is
the list of its functions in order.  `Transform.functions` reads that list off for the text of a
transform.  `Transform.flattenInto` takes a transform apart and puts its functions, each a transform
of its own, behind those collected before; `+` collects the functions of both terms in this way.
-/

namespace CssValue

inductive Transform where
  | none
  | function (function : TransformFunction)
  | compound (members : List Transform)

namespace Transform

mutual

/-- The functions of a transform in order. -/
def functions : Transform → List TransformFunction
  | none => []
  | function f => [f]
  | compound members => functionsOfAll members

def functionsOfAll : List Transform → List TransformFunction
  | [] => []
  | member :: rest => functions member ++ functionsOfAll rest

end

mutual

/-- The transforms collected so far, followed by the functions of one more transform. -/
def flattenInto (collected : List Transform) : Transform → List Transform
  | none => collected
  | compound members => flattenAllInto collected members
  | function f => collected ++ [function f]

def flattenAllInto (collected : List Transform) : List Transform → List Transform
  | [] => collected
  | member :: rest => flattenAllInto (flattenInto collected member) rest

end

/-- The functions of a transform in order, each a transform of its own. -/
def intoFunctions (transform : Transform) : List Transform := flattenInto [] transform

instance : Add Transform where
  add first second := compound (second.flattenInto first.intoFunctions)

/-- A sum is the compound of the functions of its terms, flattened and in order. -/
theorem add_eq (first second : Transform) :
    first + second = compound (second.flattenInto first.intoFunctions) := rfl

@[simp] theorem functions_none : none.functions = [] := rfl

@[simp] theorem functions_function (f : TransformFunction) : (function f).functions = [f] := rfl

/-- The functions of a compound are those of its members, in order. -/
@[simp] theorem functions_compound (members : List Transform) :
    (compound members).functions = members.flatMap functions := by
  change functionsOfAll members = _
  induction members with
  | nil => rfl
  | cons member rest listed => simp [functionsOfAll, listed]

mutual

/-- The two transforms are built alike, from functions that are equal as values. -/
def beq : Transform → Transform → Bool
  | none, none => true
  | function f, function g => f == g
  | compound members, compound others => beqAll members others
  | _, _ => false

def beqAll : List Transform → List Transform → Bool
  | [], [] => true
  | member :: rest, other :: others => beq member other && beqAll rest others
  | _, _ => false

end

instance : BEq Transform := ⟨beq⟩

mutual

def toJson : Transform → Json
  | none => .string "None"
  | function f => encode f
  | compound members => .tagged "Compound" (.array (toJsonAll members))

def toJsonAll : List Transform → List Json
  | [] => []
  | member :: rest => toJson member :: toJsonAll rest

end

instance : Encode Transform := ⟨toJson⟩

instance : Render Transform where
  render
    | none => "none"
    | function f => render f
    | compound members => Text.orNone Text.spaced ((functionsOfAll members).map render)

end Transform
end CssValue
