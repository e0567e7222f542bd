import CssValue.Proofs.Effect.TransformChain
import CssValue.Proofs.Quantity.Call
import CssValue.Proofs.Text.Parts

/-!
# Transforms told by their text

Each transform function is a call of its own name, with lengths, angles and numbers as arguments.
When the parentheses in its calculations are balanced, the text of the call gives the function back,
and the spaces between the functions of a transform are the only ones outside of parentheses.  The
text of a transform therefore gives the chain of its functions.
-/

namespace CssValue

namespace TransformFunction

/-- The arguments as values. -/
def values : TransformFunction → List Argument
  | matrix a b c d tx ty => [a, b, c, d, tx, ty].map .number
  | matrix3d entries => entries.toList.map .number
  | translate x y => .length x :: y.toList.map .length
  | translate3d x y z => [.length x, .length y, .length z]
  | translateX value | translateY value | translateZ value | perspective value => [.length value]
  | scale x y => .number x :: y.toList.map .number
  | scale3d x y z => [.number x, .number y, .number z]
  | scaleX value | scaleY value | scaleZ value => [.number value]
  | rotate3d x y z angle => [.number x, .number y, .number z, .angle angle]
  | rotate angle | rotateX angle | rotateY angle | rotateZ angle | skewX angle | skewY angle =>
    [.angle angle]
  | skew x y => .angle x :: y.toList.map .angle

def call (function : TransformFunction) : Call := ⟨function.name, ", ", function.values⟩

/-- The parentheses in the calculations among the arguments are balanced. -/
def Tame (function : TransformFunction) : Prop := ∀ argument ∈ function.values, argument.Tame

theorem arguments_eq (function : TransformFunction) :
    function.arguments = function.values.map render := by
  cases function with
  | matrix3d entries =>
      change entries.toList.map render = (entries.toList.map Argument.number).map render
      rw [List.map_map]
      rfl
  | translate x y | scale x y | skew x y => cases y <;> rfl
  | _ => rfl

/-- A function is written as the call of its name. -/
theorem render_eq_text (function : TransformFunction) : render function = function.call.text := by
  change Text.functional function.name (Text.listed function.arguments) = _
  rw [arguments_eq]
  rfl

theorem values_ne_nil (function : TransformFunction) : function.values ≠ [] := by
  cases function with
  | matrix3d entries =>
      have sixteen : (entries.toList.map Argument.number).length = 16 := by
        rw [List.length_map, Vector.length_toList]
      intro empty
      change entries.toList.map Argument.number = [] at empty
      rw [empty] at sixteen
      cases sixteen
  | _ => exact List.cons_ne_nil _ _

theorem readable_call {function : TransformFunction} (tame : function.Tame) :
    function.call.Readable where
  named := by cases function <;> simp only [call, name] <;> decide
  separated := Or.inr rfl
  present := function.values_ne_nil
  tame := tame

/-- The number that an argument is. -/
def entry? : Argument → Option Binary64
  | .number entry => some entry
  | .integer _ | .length _ | .angle _ => none

/-- The matrix of sixteen numbers. -/
def ofEntries? (arguments : List Argument) : Option TransformFunction :=
  match arguments.mapM entry? with
  | some entries =>
    if sixteen : entries.length = 16 then some (matrix3d ⟨entries.toArray, sixteen⟩) else none
  | none => none

/-- The function with a name and arguments. -/
def ofCall? (name : String) (arguments : List Argument) : Option TransformFunction :=
  match name, arguments with
  | "matrix", [.number a, .number b, .number c, .number d, .number tx, .number ty] =>
    some (matrix a b c d tx ty)
  | "matrix3d", entries => ofEntries? entries
  | "translate", [.length x] => some (translate x none)
  | "translate", [.length x, .length y] => some (translate x y)
  | "translate3d", [.length x, .length y, .length z] => some (translate3d x y z)
  | "translateX", [.length x] => some (translateX x)
  | "translateY", [.length y] => some (translateY y)
  | "translateZ", [.length z] => some (translateZ z)
  | "scale", [.number x] => some (scale x none)
  | "scale", [.number x, .number y] => some (scale x y)
  | "scale3d", [.number x, .number y, .number z] => some (scale3d x y z)
  | "scaleX", [.number x] => some (scaleX x)
  | "scaleY", [.number y] => some (scaleY y)
  | "scaleZ", [.number z] => some (scaleZ z)
  | "rotate", [.angle angle] => some (rotate angle)
  | "rotate3d", [.number x, .number y, .number z, .angle angle] => some (rotate3d x y z angle)
  | "rotateX", [.angle angle] => some (rotateX angle)
  | "rotateY", [.angle angle] => some (rotateY angle)
  | "rotateZ", [.angle angle] => some (rotateZ angle)
  | "skew", [.angle x] => some (skew x none)
  | "skew", [.angle x, .angle y] => some (skew x y)
  | "skewX", [.angle angle] => some (skewX angle)
  | "skewY", [.angle angle] => some (skewY angle)
  | "perspective", [.length distance] => some (perspective distance)
  | _, _ => none

/-- Numbers are read back from arguments that are numbers. -/
theorem mapM_entry?_number (entries : List Binary64) :
    (entries.map Argument.number).mapM entry? = some entries := by
  induction entries with
  | nil => rfl
  | cons entry rest ih =>
      rw [List.map_cons, List.mapM_cons, ih]
      rfl

/-- A matrix of sixteen numbers is read back from its arguments. -/
theorem ofEntries?_number (entries : Vector Binary64 16) :
    ofEntries? (entries.toList.map .number) = some (matrix3d entries) := by
  have sixteen : entries.toList.length = 16 := Vector.length_toList
  simp only [ofEntries?, mapM_entry?_number, dif_pos sixteen, Option.some_inj]
  rfl

/-- A function is read back from its name and its arguments. -/
theorem ofCall?_call (function : TransformFunction) :
    ofCall? function.name function.values = some function := by
  cases function with
  | matrix3d entries => exact ofEntries?_number entries
  | translate x y | scale x y | skew x y => cases y <;> rfl
  | _ => rfl

/-- Tame functions that are written alike are the same. -/
theorem eq_of_render_eq {first second : TransformFunction} (firstTame : first.Tame)
    (secondTame : second.Tame) (same : render first = render second) : first = second := by
  rw [render_eq_text, render_eq_text] at same
  have calls := Call.eq_of_text_eq (readable_call firstTame) (readable_call secondTame)
    (fun _ => rfl) same
  rw [call, call, Call.mk.injEq] at calls
  rw [← Option.some_inj, ← ofCall?_call first, ← ofCall?_call second, calls.1, calls.2.2]

end TransformFunction

namespace Transform

variable {first second transform : Transform}

/-- The parentheses in the calculations of a transform are balanced. -/
def Tame (transform : Transform) : Prop := ∀ function ∈ transform.functions, function.Tame

/-- Outside of parentheses the functions of a transform are separated by spaces. -/
theorem splitOutside_render (tame : transform.Tame) (some : transform.functions ≠ []) :
    Text.splitOutside " " (render transform) = transform.functions.map render := by
  rw [render_eq_functions]
  apply Text.splitOutside_orNone (rfl : " ".toList = [' ']) some
  intro function member
  rw [TransformFunction.render_eq_text]
  exact (TransformFunction.readable_call (tame function member)).sealed_text (Or.inl rfl)

/-- Only a transform without functions is written `none`. -/
theorem render_eq_none_iff : render transform = "none" ↔ transform.functions = [] := by
  rw [render_eq_functions]
  apply Text.orNone_render_eq_none_iff (by decide : '(' ∉ "none".toList)
  intro function _
  rw [TransformFunction.render_eq_text]
  exact Text.parenthesis_mem_functional _ _

/-- Lists of tame functions are told by the texts of their functions. -/
theorem functions_eq_of_map_render_eq {list others : List TransformFunction}
    (listTame : ∀ function ∈ list, function.Tame) (othersTame : ∀ other ∈ others, other.Tame)
    (same : list.map render = others.map render) : list = others := by
  induction list generalizing others with
  | nil => exact (List.map_eq_nil_iff.mp same.symm).symm
  | cons function rest ih =>
      cases others with
      | nil => cases same
      | cons other later =>
          obtain ⟨heads, tails⟩ := List.cons.inj same
          obtain ⟨functionTame, restTame⟩ := List.forall_mem_cons.mp listTame
          obtain ⟨otherTame, laterTame⟩ := List.forall_mem_cons.mp othersTame
          rw [TransformFunction.eq_of_render_eq functionTame otherTame heads,
            ih restTame laterTame tails]

/-- Tame transforms that are written alike have the same functions. -/
theorem functions_eq_of_render_eq (firstTame : first.Tame) (secondTame : second.Tame)
    (same : render first = render second) : first.functions = second.functions := by
  by_cases empty : first.functions = []
  · have none := render_eq_none_iff.mpr empty
    rw [same, render_eq_none_iff] at none
    rw [empty, none]
  · have some : second.functions ≠ [] := by
      rwa [Ne, ← render_eq_none_iff, ← same, render_eq_none_iff]
    refine functions_eq_of_map_render_eq firstTame secondTame ?_
    rw [← splitOutside_render firstTame empty, ← splitOutside_render secondTame some, same]

/-- **The text of a transform tells its functions.** Of transforms in which the parentheses of all
calculations are balanced, just those are written alike that are taken apart into the same functions
in the same order, each with the same arguments.  The texts of the functions are what stands between
the spaces outside of parentheses. -/
theorem text_tells_functions (firstTame : first.Tame) (secondTame : second.Tame) :
    (render first = render second ↔ first.intoFunctions = second.intoFunctions) ∧
      (first.intoFunctions ≠ [] →
        Text.splitOutside " " (render first) = first.intoFunctions.map render) := by
  have singles : Function.Injective function := fun _ _ => function.inj
  refine ⟨?_, ?_⟩
  · rw [intoFunctions_eq_functions, intoFunctions_eq_functions,
      (List.map_injective_iff.mpr singles).eq_iff]
    exact ⟨functions_eq_of_render_eq firstTame secondTame, render_congr⟩
  · rw [intoFunctions_eq_functions, List.map_map, Ne, List.map_eq_nil_iff]
    exact splitOutside_render firstTame

/-- Two nestings of a translation by a calculation and a turn. -/
theorem text_tells_functions_nested :
    let shift := function (.translate (.calculation "min(1px, 2em) * 3") (some .auto))
    let turn := function (.rotateX (.turns .nan))
    let nested := compound [none, compound [shift, compound []], turn]
    let flat := compound [shift, turn]
    (nested.Tame ∧ flat.Tame ∧ render nested = render flat) ∧
      nested.intoFunctions = flat.intoFunctions ∧ nested.intoFunctions ≠ [] ∧
      Text.splitOutside " " (render nested) =
        ["translate(calc(min(1px, 2em) * 3), auto)", "rotateX(NaNturn)"] := by
  intro shift turn nested flat
  have shiftTame : (TransformFunction.translate (.calculation "min(1px, 2em) * 3")
      (some .auto)).Tame := by
    refine List.forall_mem_cons.mpr ⟨?_, List.forall_mem_cons.mpr ⟨trivial, List.forall_mem_nil _⟩⟩
    exact (by decide : Text.Balanced "min(1px, 2em) * 3".toList)
  have turnTame : (TransformFunction.rotateX (.turns .nan)).Tame :=
    List.forall_mem_cons.mpr ⟨trivial, List.forall_mem_nil _⟩
  have tame : flat.Tame :=
    List.forall_mem_cons.mpr ⟨shiftTame, List.forall_mem_cons.mpr ⟨turnTame, List.forall_mem_nil _⟩⟩
  have nestedTame : nested.Tame := tame
  have written : render nested = render flat := rfl
  have present : nested.intoFunctions ≠ [] := List.cons_ne_nil _ _
  obtain ⟨chains, splits⟩ := text_tells_functions nestedTame tame
  exact ⟨⟨nestedTame, tame, written⟩, chains.mp written, present, splits present⟩

end Transform
end CssValue
