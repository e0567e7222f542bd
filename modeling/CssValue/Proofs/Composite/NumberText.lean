import CssValue.Grid.Track
import CssValue.Motion.Animation
import CssValue.Motion.Keyframes
import CssValue.Paint.Color
import CssValue.Proofs.Binary64.Notation
import CssValue.Proofs.Effect.TransformChain
import CssValue.Proofs.Quantity.Calculation
import CssValue.Proofs.Text.Numerals

/-!
# The numbers in the text of a value

The finite numbers of a value are read off its interchange tree.  The text of a length, an angle, a
time, a color, a transform or a timing function writes these numbers in full, in their order and
apart from the rest of the text.  So do the calculations that operators on lengths leave behind, for
the numbers of their operands.  A number in such a text keeps its fraction just when it is of
moderate size.
-/

namespace CssValue

open Text (EachWrites IsGap WritesNumbers writesNumbers_functional writesNumbers_listed
  writesNumbers_spaced writesNumbers_text)

/-! ### The numbers of a tree -/

namespace Json

mutual

/-- The numbers in a tree, in their order.  Whole numbers are not among them. -/
def numbers : Json → List Binary64
  | number x => [x]
  | array items => numbersOfAll items
  | object fields => numbersOfFields fields
  | null | boolean _ | integer _ | string _ => []

def numbersOfAll : List Json → List Binary64
  | [] => []
  | item :: rest => numbers item ++ numbersOfAll rest

def numbersOfFields : List (String × Json) → List Binary64
  | [] => []
  | (_, value) :: rest => numbers value ++ numbersOfFields rest

end

theorem numbers_tagged (tag : String) (payload : Json) :
    (tagged tag payload).numbers = payload.numbers := List.append_nil _

/-- The numbers of an array are those of its items, in order. -/
theorem numbersOfAll_eq (items : List Json) :
    numbersOfAll items = (items.map numbers).flatten := by
  induction items with
  | nil => rfl
  | cons item rest ih => rw [numbersOfAll, ih, List.map_cons, List.flatten_cons]

end Json

/-- Types whose values are written with the finite numbers in them. -/
class RendersNumbers (α : Type) [Render α] [Encode α] : Prop where
  writes : ∀ value : α, WritesNumbers (render value).toList (encode value).numbers

namespace RendersNumbers

/-! ### Numbers and words -/

instance : RendersNumbers Binary64 where
  writes x := by
    cases x with
    | finite negative magnitude => exact writesNumbers_text rfl
    | nan | infinity => exact .plain _

instance : RendersNumbers Int := ⟨fun _ => .plain _⟩

/-- A number with a unit is written in full. -/
theorem writes_measure (x : Binary64) {unit : String} (behind : IsGap unit.toList) :
    WritesNumbers (render x ++ unit).toList (encode x).numbers := by
  rw [String.toList_append]
  exact (writes x).append behind

section Parts

variable {α : Type} [Render α] [Encode α] [RendersNumbers α] {text : List Char} {payload : Json}
  {tag name : String} {parts : List String} {lists : List (List Binary64)}

theorem writes_tagged (tag : String) (writes : WritesNumbers text payload.numbers) :
    WritesNumbers text (Json.tagged tag payload).numbers := by
  rwa [Json.numbers_tagged]

/-- A call with commas writes the numbers of an alternative if its arguments do. -/
theorem writes_listed (each : EachWrites parts lists) (same : lists.flatten = payload.numbers) :
    WritesNumbers (Text.functional name (Text.listed parts)).toList
      (Json.tagged tag payload).numbers :=
  writes_tagged tag (same ▸ writesNumbers_functional name (writesNumbers_listed each))

/-- A call with spaces writes the numbers of an alternative if its arguments do. -/
theorem writes_spaced (each : EachWrites parts lists) (same : lists.flatten = payload.numbers) :
    WritesNumbers (Text.functional name (Text.spaced parts)).toList
      (Json.tagged tag payload).numbers :=
  writes_tagged tag (same ▸ writesNumbers_functional name (writesNumbers_spaced each))

/-- Each of several values writes its own numbers. -/
theorem writes_map (values : List α) :
    EachWrites (values.map render) (values.map fun value => (encode value).numbers) := by
  rw [EachWrites, List.forall₂_map_left_iff, List.forall₂_map_right_iff, List.forall₂_same]
  exact fun value _ => writes value

/-- An optional second part is in the text if it is in the tree. -/
theorem writes_part (first : α) (second : Option α) :
    ∃ lists, EachWrites (render first :: Text.part second) lists ∧
      lists.flatten = (Json.object [("x", encode first), ("y", encode second)]).numbers := by
  cases second with
  | none => exact ⟨_, .cons (writes first) .nil, rfl⟩
  | some second => exact ⟨_, .cons (writes first) (.cons (writes second) .nil), rfl⟩

end Parts

/-! ### Quantities -/

theorem isGap_unit (unit : LengthUnit) : IsGap (render unit).toList := by cases unit <;> decide

instance : RendersNumbers Length where
  writes length := by
    cases length with
    | dimension value unit =>
        have numbers : (encode value).numbers = (Json.array [encode value, encode unit]).numbers :=
          (List.append_nil _).symm
        exact writes_tagged _ (numbers ▸ writes_measure value (isGap_unit unit))
    | percentage value => exact writes_tagged _ (writes_measure value (by decide))
    | keyword | calculation | wide => exact .plain _

instance : RendersNumbers Angle where
  writes angle := by cases angle <;> exact writes_tagged _ (writes_measure _ (by decide))

instance : RendersNumbers Time where
  writes time := by cases time <;> exact writes_tagged _ (writes_measure _ (by decide))

instance : RendersNumbers GridTrack where
  writes track := by
    cases track with
    | fraction share => exact writes_tagged _ (writes_measure share (by decide))
    | minmax least most => exact writes_listed (writes_map [least, most]) rfl
    | auto => exact .plain _
    | length length => exact writes_tagged _ (writes length)
    | fitContent limit => exact writes_tagged _ (writesNumbers_functional _ (writes limit))

/-! ### Motion -/

instance : RendersNumbers IterationCount where
  writes iterations := by
    cases iterations with
    | finite count => exact writes_tagged _ (writes count)
    | infinite => exact .plain _

instance : RendersNumbers KeyframeSelector where
  writes selector := by
    cases selector with
    | percentage value => exact writes_tagged _ (writes_measure value (by decide))
    | fromStart | toEnd => exact .plain _

instance : RendersNumbers TimingFunction where
  writes timing := by
    cases timing with
    | cubicBezier x1 y1 x2 y2 => exact writes_listed (writes_map [x1, y1, x2, y2]) rfl
    | _ => exact .plain _

/-! ### Colors -/

theorem writes_percent (x : Binary64) :
    WritesNumbers (Color.percent x).toList (encode x).numbers := writes_measure x (by decide)

instance : RendersNumbers Color where
  writes color := by
    cases color with
    | rgba red green blue alpha =>
        exact writes_listed (.cons (writes red) (.cons (writes green) (.cons (writes blue)
          (.cons (writes alpha) .nil)))) rfl
    | hsl hue saturation lightness =>
        exact writes_listed (.cons (writes hue) (.cons (writes_percent saturation)
          (.cons (writes_percent lightness) .nil))) rfl
    | hsla hue saturation lightness alpha =>
        exact writes_listed (.cons (writes hue) (.cons (writes_percent saturation)
          (.cons (writes_percent lightness) (.cons (writes alpha) .nil)))) rfl
    | hwb hue whiteness blackness =>
        exact writes_spaced (.cons (writes hue) (.cons (writes_percent whiteness)
          (.cons (writes_percent blackness) .nil))) rfl
    | lab lightness a b =>
        exact writes_spaced (.cons (writes_percent lightness) (writes_map [a, b])) rfl
    | lch lightness chroma hue =>
        exact writes_spaced (.cons (writes_percent lightness) (writes_map [chroma, hue])) rfl
    | named | hex | rgb | system | currentColor | transparent | wide => exact .plain _

/-! ### Transforms -/

instance : RendersNumbers TransformFunction where
  writes function := by
    cases function with
    | matrix a b c d tx ty => exact writes_listed (writes_map [a, b, c, d, tx, ty]) rfl
    | matrix3d entries =>
        refine writes_listed (writes_map entries.toList) ?_
        change _ = Json.numbersOfAll (entries.toList.map encode)
        rw [Json.numbersOfAll_eq, List.map_map]
        rfl
    | translate3d x y z => exact writes_listed (writes_map [x, y, z]) rfl
    | scale3d x y z => exact writes_listed (writes_map [x, y, z]) rfl
    | rotate3d x y z angle =>
        exact writes_listed (.cons (writes x) (.cons (writes y) (.cons (writes z)
          (.cons (writes angle) .nil)))) rfl
    | translate x y | scale x y | skew x y =>
        obtain ⟨lists, each, same⟩ := writes_part x y
        exact writes_listed each same
    | _ => exact writes_tagged _ (writesNumbers_functional _ (writes _))

end RendersNumbers

namespace Transform

mutual

/-- The numbers of a transform are those of its functions. -/
theorem numbers_toJson : ∀ transform : Transform,
    (toJson transform).numbers =
      (transform.functions.map fun function => (encode function).numbers).flatten
  | none => rfl
  | function f => (List.append_nil _).symm
  | compound members => by
      rw [toJson, Json.numbers_tagged]
      exact numbers_toJsonAll members

theorem numbers_toJsonAll : ∀ members : List Transform,
    Json.numbersOfAll (toJsonAll members) =
      ((functionsOfAll members).map fun function => (encode function).numbers).flatten
  | [] => rfl
  | member :: rest => by
      rw [toJsonAll, Json.numbersOfAll, numbers_toJson member, numbers_toJsonAll rest,
        functionsOfAll, List.map_append, List.flatten_append]

end

instance : RendersNumbers Transform where
  writes transform := by
    change WritesNumbers _ (toJson transform).numbers
    rw [numbers_toJson, render_eq_functions]
    cases transform.functions with
    | nil => exact .plain _
    | cons first rest => exact writesNumbers_spaced (RendersNumbers.writes_map (first :: rest))

end Transform

/-! ### Calculations -/

namespace Length

open RendersNumbers (writes)

/-- A calculation writes the numbers of its operands. -/
theorem writes_symbolic {left : Length} {leftNumbers rightNumbers : List Binary64} {right : String}
    (operator : Char) (leftWrites : WritesNumbers (render left).toList leftNumbers)
    (rightWrites : WritesNumbers right.toList rightNumbers) :
    WritesNumbers (render (symbolic left operator right)).toList (leftNumbers ++ rightNumbers) := by
  have operands := writesNumbers_functional "calc" (writesNumbers_spaced
    (.cons leftWrites (.cons (.plain operator.toString.toList) (.cons rightWrites .nil))))
  rwa [List.flatten_cons, List.flatten_cons, List.nil_append, List.flatten_cons, List.flatten_nil,
    List.append_nil] at operands

/-- A quotient that is not a number is the length itself. -/
theorem value_divide_of_not_isNumeric {length : Length} {divisor : Binary64}
    {quotient : Advised Length} (accepted : length.divide divisor = .ok quotient)
    (symbolic : quotient.value.isNumeric = false) : quotient.value = length := by
  unfold divide at accepted
  split at accepted
  · cases accepted
  · split at accepted
    · cases accepted
    · cases length with
      | dimension | percentage =>
          cases accepted
          cases symbolic
      | keyword | calculation | wide =>
          cases accepted
          rfl

namespace Expression

/-- The numbers of the value, if the value is a number with a unit or a percentage. -/
def ownNumbers? (expression : Expression) : Option (List Binary64) :=
  match expression.evaluate with
  | .ok value => if value.isNumeric then some (encode value).numbers else none
  | .error _ => none

/-- The numbers that the value of an expression is written with: those of the value itself, or else
those that its operands are written with. -/
def numbers : Expression → List Binary64
  | given length => (encode length).numbers
  | whole@(lengths _ left right) => whole.ownNumbers?.getD (left.numbers ++ right.numbers)
  | whole@(scaled length factor) =>
    whole.ownNumbers?.getD (length.numbers ++ (encode factor).numbers)
  | whole@(divided length _) => whole.ownNumbers?.getD length.numbers

variable {expression : Expression} {value : Length}

/-- A value that is a number writes its own; any other one writes those of the operands. -/
theorem writes_ownNumbers {operands : List Binary64} (evaluated : expression.evaluate = .ok value)
    (symbolic : value.isNumeric = false → WritesNumbers (render value).toList operands) :
    WritesNumbers (render value).toList (expression.ownNumbers?.getD operands) := by
  have own : expression.ownNumbers? =
      if value.isNumeric then some (encode value).numbers else none := by
    rw [ownNumbers?, evaluated]
  cases numeric : value.isNumeric with
  | true =>
      rw [own, numeric, if_pos rfl]
      exact writes value
  | false =>
      rw [own, numeric, if_neg Bool.false_ne_true]
      exact symbolic numeric

/-- An operator that gives no number leaves a text with the numbers of its operands. -/
theorem writes_result (application : Application) {leftNumbers rightNumbers : List Binary64}
    (symbolic : application.result.isNumeric = false)
    (leftWrites : WritesNumbers (render application.left).toList leftNumbers)
    (rightWrites : WritesNumbers application.rightText.toList rightNumbers) :
    WritesNumbers (render application.result).toList (leftNumbers ++ rightNumbers) := by
  rcases application.result_cases with written | numeric
  · rw [written]
    exact writes_symbolic application.operator.sign leftWrites rightWrites
  · rw [symbolic] at numeric
    exact (Bool.false_ne_true numeric).elim

/-- The value of an expression is written with the numbers of the expression. -/
theorem writes_numbers (evaluated : expression.evaluate = .ok value) :
    WritesNumbers (render value).toList expression.numbers := by
  induction expression generalizing value with
  | given length =>
      cases evaluated
      exact writes length
  | lengths operator left right leftWrites rightWrites =>
      refine writes_ownNumbers evaluated fun symbolic => ?_
      obtain ⟨a, leftValue, evaluated⟩ := bind_eq_ok.mp evaluated
      obtain ⟨b, rightValue, evaluated⟩ := bind_eq_ok.mp evaluated
      cases evaluated
      exact writes_result (.lengths operator a b) symbolic (leftWrites leftValue)
        (rightWrites rightValue)
  | scaled length factor lengthWrites =>
      refine writes_ownNumbers evaluated fun symbolic => ?_
      obtain ⟨a, lengthValue, evaluated⟩ := bind_eq_ok.mp evaluated
      cases evaluated
      exact writes_result (.scaled a factor) symbolic (lengthWrites lengthValue) (writes factor)
  | divided length divisor lengthWrites =>
      refine writes_ownNumbers evaluated fun symbolic => ?_
      obtain ⟨a, lengthValue, evaluated⟩ := bind_eq_ok.mp evaluated
      obtain ⟨quotient, accepted, evaluated⟩ := bind_eq_ok.mp evaluated
      cases evaluated
      rw [value_divide_of_not_isNumeric accepted symbolic]
      exact lengthWrites lengthValue

end Expression
end Length

/-! ### Numbers with a fraction -/

/-- **A number keeps its fraction at a moderate size.** The text of a finite number is a minus sign
or none, digits, a point and more digits just when the number is a zero or is from `0.0001` up to
`10 ^ 16` in size; every other finite number is in scientific notation.  Lengths, angles, times,
colors, transforms, timing functions, counts of iterations, selectors of keyframes and grid tracks
write the finite numbers in them in these texts, each apart from what stands around it, and a length
that is computed writes those of its operands. -/
theorem fraction_kept_at_moderate_size {x : Binary64} (finite : x.isFinite) :
    ((KeepsFraction x.text ↔ x.IsModerate) ∧ (IsScientific x.text ↔ ¬ x.IsModerate)) ∧
      (RendersNumbers Length ∧ RendersNumbers Angle ∧ RendersNumbers Time ∧ RendersNumbers Color ∧
        RendersNumbers TransformFunction ∧ RendersNumbers Transform ∧
        RendersNumbers TimingFunction ∧ RendersNumbers IterationCount ∧
        RendersNumbers KeyframeSelector ∧ RendersNumbers GridTrack) ∧
      ∀ (expression : Length.Expression) (value : Length), expression.evaluate = .ok value →
        WritesNumbers (render value).toList expression.numbers := by
  refine ⟨Binary64.notation_of_isFinite finite, ?_, fun expression value => ?_⟩
  · exact ⟨inferInstance, inferInstance, inferInstance, inferInstance, inferInstance,
      inferInstance, inferInstance, inferInstance, inferInstance, inferInstance⟩
  · exact Length.Expression.writes_numbers

/-- The numbers at the two ends of the moderate sizes, and a calculation that has another one nested
inside. -/
theorem fraction_kept_at_moderate_size_limits :
    let least : Binary64 := -0.0001
    let greatest : Binary64 := 9999999999999998
    let limit : Binary64 := 1e16
    let inner : Length.Expression := .lengths .plus (.given .auto) (.scaled (.given (.px 1)) limit)
    let nested : Length.Expression := .lengths .minus inner (.given (.percentage 0.5))
    let value : Length := .calculation "calc(auto + 1e16px) - 0.5%"
    (least.isFinite ∧ KeepsFraction least.text) ∧
      (greatest.isFinite ∧ KeepsFraction greatest.text) ∧
      (limit.isFinite ∧ IsScientific limit.text) ∧
      nested.evaluate = .ok value ∧ WritesNumbers (render value).toList [limit, 0.5] := by
  intro least greatest limit inner nested value
  have leastFinite : least.isFinite := by decide +kernel
  have greatestFinite : greatest.isFinite := by decide +kernel
  have limitFinite : limit.isFinite := by decide +kernel
  have evaluated : nested.evaluate = .ok value := by decide +kernel
  have numbers : nested.numbers = [limit, 0.5] := by decide +kernel
  obtain ⟨leastNotation, _⟩ := fraction_kept_at_moderate_size leastFinite
  obtain ⟨greatestNotation, _⟩ := fraction_kept_at_moderate_size greatestFinite
  obtain ⟨limitNotation, _, calculations⟩ := fraction_kept_at_moderate_size limitFinite
  refine ⟨⟨leastFinite, ?_⟩, ⟨greatestFinite, ?_⟩, ⟨limitFinite, ?_⟩, evaluated, ?_⟩
  · exact leastNotation.1.mpr (by decide +kernel)
  · exact greatestNotation.1.mpr (by decide +kernel)
  · exact limitNotation.2.mpr (by decide +kernel)
  · rw [← numbers]
    exact calculations nested value evaluated

/-- The whole number `10 ^ 16` is written without a fraction, and `0.00001` with an exponent. -/
theorem extreme_numbers_lose_fraction :
    (1e16 : Binary64).isFinite ∧ ¬ KeepsFraction (1e16 : Binary64).text ∧
      render (Length.px 1e16) = "1e16px" ∧
      (1e-5 : Binary64).isFinite ∧ ¬ KeepsFraction (1e-5 : Binary64).text ∧
      render (Length.px 1e-5) = "1e-5px" := by
  have largeFinite : (1e16 : Binary64).isFinite := by decide +kernel
  have smallFinite : (1e-5 : Binary64).isFinite := by decide +kernel
  refine ⟨largeFinite, ?_, by decide +kernel, smallFinite, ?_, by decide +kernel⟩
  · exact mt (Binary64.notation_of_isFinite largeFinite).1.mp (by decide +kernel)
  · exact mt (Binary64.notation_of_isFinite smallFinite).1.mp (by decide +kernel)

end CssValue
