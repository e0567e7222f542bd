import CssValue.Proofs.Quantity.LengthText
import CssValue.Quantity.LengthArithmetic

/-!
# Calculations read back

An operator on lengths that cannot be combined as numbers writes its operands into a `calc()`.  A
length is tame when the parentheses in the text of a calculation are balanced; operators on tame
lengths give tame lengths.  The text of a tame length has no space outside its parentheses, so the
operator and the texts of its operands are read off from the text of a calculation, down to any
level.
-/

namespace CssValue

/-- A computation in two steps succeeds just when both steps do. -/
theorem bind_eq_ok {ε α β : Type} {first : Except ε α} {next : α → Except ε β} {value : β} :
    (first >>= next) = .ok value ↔ ∃ between, first = .ok between ∧ next between = .ok value := by
  cases first with
  | error cause =>
      constructor
      · intro failed
        cases failed
      · rintro ⟨between, failed, -⟩
        cases failed
  | ok between =>
      constructor
      · intro run
        exact ⟨between, rfl, run⟩
      · rintro ⟨_, same, run⟩
        cases same
        exact run

namespace Length

/-! ### Operators -/

/-- An operator on two lengths. -/
inductive Operator where
  | plus | minus | times
deriving DecidableEq

namespace Operator

def sign : Operator → Char
  | plus => '+'
  | minus => '-'
  | times => '*'

def apply : Operator → Length → Length → Length
  | plus, left, right => left + right
  | minus, left, right => left - right
  | times, left, right => left * right

/-- The operators have different signs. -/
theorem sign_injective {first second : Operator}
    (same : first.sign.toString = second.sign.toString) : first = second := by
  revert same
  cases first <;> cases second <;> decide

theorem sealed_sign (operator : Operator) : Text.Sealed ' ' operator.sign.toString.toList := by
  cases operator <;> decide

end Operator

/-- An operator with its operands, other than a division. -/
inductive Application where
  | lengths (operator : Operator) (left right : Length)
  | scaled (length : Length) (factor : Binary64)

namespace Application

def result : Application → Length
  | lengths operator left right => operator.apply left right
  | scaled length factor => length * factor

def left : Application → Length
  | lengths _ left _ | scaled left _ => left

def operator : Application → Operator
  | lengths operator _ _ => operator
  | scaled _ _ => .times

/-- The text of the operand on the right. -/
def rightText : Application → String
  | lengths _ _ right => render right
  | scaled _ factor => render factor

/-- The operands that are lengths are tame. -/
def Tame : Application → Prop
  | lengths _ left right => left.Tame ∧ right.Tame
  | scaled length _ => length.Tame

/-- The operands are numbers on which the operator is carried out: numbers of one unit, and
percentages, are added and subtracted, percentages are multiplied, and any of them is scaled. -/
inductive OnNumbers : Application → Prop
  | units {operator : Operator} (additive : operator ≠ .times) (a b : Binary64)
      (unit : LengthUnit) : OnNumbers (lengths operator (dimension a unit) (dimension b unit))
  | percentages (operator : Operator) (a b : Binary64) :
      OnNumbers (lengths operator (percentage a) (percentage b))
  | scaled {length : Length} (numeric : length.isNumeric) (factor : Binary64) :
      OnNumbers (scaled length factor)

/-- The operator is not carried out on numbers but written into a `calc()`. -/
def Symbolic (application : Application) : Prop :=
  ∃ expression, application.result = calculation expression

/-- The same operator on operands that are written alike; a product by a number is not the same as
a product by a length. -/
def Alike : Application → Application → Prop
  | lengths operator left right, lengths operator' left' right' =>
    operator = operator' ∧ render left = render left' ∧ render right = render right'
  | scaled length factor, scaled length' factor' =>
    render length = render length' ∧ render factor = render factor'
  | lengths _ _ _, scaled _ _ | scaled _ _, lengths _ _ _ => False

/-- The `calc()` that the operator writes when it is not carried out on numbers. -/
def written (application : Application) : Length :=
  symbolic application.left application.operator.sign application.rightText

end Application

theorem tame_of_isNumeric {length : Length} (numeric : length.isNumeric) : length.Tame := by
  cases length with
  | dimension | percentage | keyword | wide => trivial
  | calculation expression => exact (Bool.false_ne_true numeric).elim

/-- Operands that are neither numbers of one unit nor percentages are combined in a `calc()`. -/
theorem combine_eq_symbolic {left right : Length} (operator : Char)
    (operation : Binary64 → Binary64 → Binary64)
    (units : ∀ a b unit, left = dimension a unit → right ≠ dimension b unit)
    (percentages : ∀ a b, left = percentage a → right ≠ percentage b) :
    combine operator operation left right = symbolic left operator (render right) := by
  unfold combine
  split
  case h_1 a leftUnit b rightUnit =>
    have mixed : leftUnit ≠ rightUnit := fun same => units a b leftUnit rfl (same ▸ rfl)
    rw [if_neg mixed]
  case h_2 a b => exact (percentages a b rfl rfl).elim
  case h_3 => rfl

/-- A product of lengths that are not both percentages is a `calc()`. -/
theorem mul_eq_symbolic {left right : Length}
    (percentages : ∀ a b, left = percentage a → right ≠ percentage b) :
    mul left right = symbolic left '*' (render right) := by
  unfold mul
  split
  case h_1 a b => exact (percentages a b rfl rfl).elim
  case h_2 => rfl

namespace Application

variable {application : Application}

/-- An operator is carried out only behind a number. -/
theorem OnNumbers.isNumeric_left (numbers : application.OnNumbers) :
    application.left.isNumeric := by
  cases numbers with
  | units | percentages => rfl
  | scaled numeric factor => exact numeric

/-- An operator that is carried out gives a number. -/
theorem isNumeric_result (numbers : application.OnNumbers) : application.result.isNumeric := by
  cases numbers with
  | @units operator additive a b unit =>
      have combined (sign : Char) (operation : Binary64 → Binary64 → Binary64) :
          combine sign operation (dimension a unit) (dimension b unit) =
            dimension (operation a b) unit := if_pos rfl
      cases operator with
      | plus => exact congrArg isNumeric (combined '+' (· + ·))
      | minus => exact congrArg isNumeric (combined '-' (· - ·))
      | times => exact (additive rfl).elim
  | percentages operator a b => cases operator <;> rfl
  | @scaled length numeric factor =>
      cases length with
      | dimension | percentage => rfl
      | keyword | calculation | wide => exact (Bool.false_ne_true numeric).elim

/-- An operator that is not carried out writes its operands around its sign. -/
theorem result_eq_written (symbols : ¬ application.OnNumbers) :
    application.result = application.written := by
  cases application with
  | lengths operator left right =>
      have percentages : ∀ a b, left = percentage a → right ≠ percentage b := by
        rintro a b rfl rfl
        exact symbols (.percentages operator a b)
      have units (additive : operator ≠ .times) :
          ∀ a b unit, left = dimension a unit → right ≠ dimension b unit := by
        rintro a b unit rfl rfl
        exact symbols (.units additive a b unit)
      cases operator with
      | plus => exact combine_eq_symbolic '+' _ (units (by decide)) percentages
      | minus => exact combine_eq_symbolic '-' _ (units (by decide)) percentages
      | times => exact mul_eq_symbolic percentages
  | scaled length factor =>
      cases length with
      | dimension | percentage => exact (symbols (.scaled rfl factor)).elim
      | keyword | calculation | wide => rfl

/-- An operator writes its operands around its sign, or gives a number. -/
theorem result_cases (application : Application) :
    application.result = application.written ∨ application.result.isNumeric := by
  by_cases numbers : application.OnNumbers
  · exact Or.inr (isNumeric_result numbers)
  · exact Or.inl (result_eq_written numbers)

/-- A `calc()` is written for just those operands on which the operator is not carried out. -/
theorem symbolic_iff_not_onNumbers : application.Symbolic ↔ ¬ application.OnNumbers := by
  constructor
  · rintro ⟨expression, given⟩ numbers
    have numeric := isNumeric_result numbers
    rw [given] at numeric
    exact Bool.false_ne_true numeric
  · exact fun symbols => ⟨_, result_eq_written symbols⟩

/-- The `calc()` of an operator holds its operands around its sign. -/
theorem Symbolic.result_eq (symbolic : application.Symbolic) :
    application.result = application.written :=
  result_eq_written (symbolic_iff_not_onNumbers.mp symbolic)

end Application

/-! ### Operators on tame lengths -/

namespace Application

variable {application : Application}

/-- The operands of an operator are sealed against the spaces around its sign. -/
theorem sealed_operands (tame : application.Tame) :
    Text.Sealed ' ' (render application.left).toList ∧
      Text.Sealed ' ' application.rightText.toList := by
  cases application with
  | lengths operator left right =>
      exact ⟨sealed_render (Or.inl rfl) tame.1, sealed_render (Or.inl rfl) tame.2⟩
  | scaled length factor => exact ⟨sealed_render (Or.inl rfl) tame, factor.sealed_text (Or.inl rfl)⟩

/-- The three parts of what an operator writes are sealed against spaces. -/
theorem sealed_parts (tame : application.Tame) :
    ∀ part ∈ [render application.left, application.operator.sign.toString, application.rightText],
      Text.Sealed ' ' part.toList := by
  obtain ⟨left, right⟩ := sealed_operands tame
  intro part member
  rcases List.mem_cons.mp member with rfl | member
  · exact left
  · rcases List.mem_cons.mp member with rfl | member
    · exact application.operator.sealed_sign
    · rw [List.mem_singleton.mp member]
      exact right

/-- An operator on tame lengths gives a tame length. -/
theorem tame_result (application : Application) (tame : application.Tame) :
    application.result.Tame := by
  rcases application.result_cases with written | numeric
  · rw [written]
    change Text.Balanced (Text.spaced _).toList
    rw [Text.toList_spaced]
    apply Text.Balanced.intercalate (by decide)
    intro piece member
    obtain ⟨part, listed, rfl⟩ := List.mem_map.mp member
    exact (sealed_parts tame part listed).balanced
  · exact tame_of_isNumeric numeric

end Application

/-- The quotient of a tame length is tame. -/
theorem tame_divide {length : Length} {divisor : Binary64} {quotient : Advised Length}
    (tame : length.Tame) (accepted : length.divide divisor = .ok quotient) :
    quotient.value.Tame := by
  unfold divide at accepted
  split at accepted
  · cases accepted
  · split at accepted
    · cases accepted
    · cases length <;> cases accepted <;> exact tame

/-- Lengths joined by operators. -/
inductive Expression where
  | given (length : Length)
  | lengths (operator : Operator) (left right : Expression)
  | scaled (length : Expression) (factor : Binary64)
  | divided (length : Expression) (divisor : Binary64)

namespace Expression

/-- The value of an expression, from the operands up, unless a divisor is refused. -/
def evaluate : Expression → Except ValueError Length
  | given length => .ok length
  | lengths operator left right => do
    return operator.apply (← left.evaluate) (← right.evaluate)
  | scaled length factor => do return (← length.evaluate) * factor
  | divided length divisor => do return (← (← length.evaluate).divide divisor).value

/-- The lengths in the expression are tame. -/
def Tame : Expression → Prop
  | given length => length.Tame
  | lengths _ left right => left.Tame ∧ right.Tame
  | scaled length _ | divided length _ => length.Tame

/-- The value of an expression of tame lengths is tame. -/
theorem tame_of_evaluate {expression : Expression} {value : Length} (tame : expression.Tame)
    (evaluated : expression.evaluate = .ok value) : value.Tame := by
  induction expression generalizing value with
  | given length =>
      cases evaluated
      exact tame
  | lengths operator left right leftTame rightTame =>
      obtain ⟨a, leftValue, evaluated⟩ := bind_eq_ok.mp evaluated
      obtain ⟨b, rightValue, evaluated⟩ := bind_eq_ok.mp evaluated
      cases evaluated
      exact Application.tame_result (.lengths operator a b)
        ⟨leftTame tame.1 leftValue, rightTame tame.2 rightValue⟩
  | scaled length factor lengthTame =>
      obtain ⟨a, lengthValue, evaluated⟩ := bind_eq_ok.mp evaluated
      cases evaluated
      exact Application.tame_result (.scaled a factor) (lengthTame tame lengthValue)
  | divided length divisor lengthTame =>
      obtain ⟨a, lengthValue, evaluated⟩ := bind_eq_ok.mp evaluated
      obtain ⟨quotient, accepted, evaluated⟩ := bind_eq_ok.mp evaluated
      cases evaluated
      exact tame_divide (lengthTame tame lengthValue) accepted

end Expression

/-! ### Reading back -/

/-- The text between the parentheses of a written `calc()`. -/
def expression? (text : String) : Option String :=
  match text.toList with
  | 'c' :: 'a' :: 'l' :: 'c' :: '(' :: rest =>
    if rest.getLast? = some ')' then some (String.ofList rest.dropLast) else none
  | _ => none

/-- The operands of a written calculation and the sign between them. -/
def operands? (text : String) : Option (String × String × String) :=
  match (expression? text).map (Text.splitOutside " ") with
  | some [left, operator, right] => some (left, operator, right)
  | _ => none

/-- What a text tells about its calculation: nothing, or a sign and what the operands tell. -/
inductive Outline where
  | plain (text : String)
  | applied (left : Outline) (operator : String) (right : Outline)

/-- The outline of a text, down to a number of levels. -/
def Outline.read : Nat → String → Outline
  | 0, text => plain text
  | levels + 1, text =>
    match operands? text with
    | some (left, operator, right) => applied (read levels left) operator (read levels right)
    | none => plain text

theorem expression?_render (expression : String) :
    expression? (render (calculation expression)) = some expression := by
  have written : (render (calculation expression)).toList =
      'c' :: 'a' :: 'l' :: 'c' :: '(' :: (expression.toList ++ [')']) :=
    Text.toList_functional "calc" expression
  unfold expression?
  rw [written]
  change (if (expression.toList ++ [')']).getLast? = some ')' then
    some (String.ofList (expression.toList ++ [')']).dropLast) else none) = some expression
  rw [if_pos List.getLast?_concat, List.dropLast_concat, String.ofList_toList]

/-- The operands of an operator and its sign are read back from what it writes. -/
theorem operands?_result {application : Application} (tame : application.Tame)
    (symbolic : application.Symbolic) :
    operands? (render application.result) =
      some (render application.left, application.operator.sign.toString,
        application.rightText) := by
  have split := Text.splitOutside_intercalate (rfl : " ".toList = [' ']) (List.cons_ne_nil _ _)
    (Application.sealed_parts tame)
  unfold operands?
  rw [symbolic.result_eq, Application.written, Length.symbolic, expression?_render,
    Option.map_some, Text.spaced, split]

/-- Operators with the same sign and operands that are written alike are alike. -/
theorem Application.alike_of_operands {first second : Application}
    (left : render first.left = render second.left)
    (sign : first.operator.sign.toString = second.operator.sign.toString)
    (right : first.rightText = second.rightText) : first.Alike second := by
  -- The sign of both products is `*`, but no number is written as a length is.
  cases first with
  | lengths operator a b =>
      cases second with
      | lengths => exact ⟨Operator.sign_injective sign, left, right⟩
      | scaled _ factor => exact (render_ne_number b factor right).elim
  | scaled a factor =>
      cases second with
      | lengths _ _ other => exact (render_ne_number other factor right.symm).elim
      | scaled => exact ⟨left, right⟩

/-- **A calculation tells how it was built.** Operators on tame lengths, and expressions of them,
give tame lengths.  An operator writes a `calc()` for just those operands on which it is not carried
out as numbers.  When two of these operators, divisions apart, write the same text, they are the
same operator on operands that are written alike, and a product by a number is told from a product
by a length.  Down to any level the outline of a calculation is the sign of the operator between the
outlines of its operands. -/
theorem calculation_reads_back :
    (∀ application : Application, application.Tame → application.result.Tame) ∧
      (∀ (length : Length) (divisor : Binary64) (quotient : Advised Length), length.Tame →
        length.divide divisor = .ok quotient → quotient.value.Tame) ∧
      (∀ (expression : Expression) (value : Length), expression.Tame →
        expression.evaluate = .ok value → value.Tame) ∧
      (∀ application : Application, application.Symbolic ↔ ¬ application.OnNumbers) ∧
      (∀ first second : Application, first.Tame → second.Tame →
        first.Symbolic → second.Symbolic →
        render first.result = render second.result → first.Alike second) ∧
      (∀ (levels : Nat) (application : Application), application.Tame → application.Symbolic →
        Outline.read (levels + 1) (render application.result) =
          .applied (Outline.read levels (render application.left))
            application.operator.sign.toString
            (Outline.read levels application.rightText)) := by
  refine ⟨Application.tame_result, fun length divisor quotient => tame_divide,
    fun expression value => Expression.tame_of_evaluate,
    fun application => Application.symbolic_iff_not_onNumbers, ?_, ?_⟩
  · intro first second firstTame secondTame firstWritten secondWritten same
    have operands := operands?_result firstTame firstWritten
    rw [same, operands?_result secondTame secondWritten] at operands
    simp only [Option.some.injEq, Prod.mk.injEq] at operands
    obtain ⟨left, sign, right⟩ := operands
    exact Application.alike_of_operands left.symm sign.symm right.symm
  · intro levels application tame written
    rw [Outline.read, operands?_result tame written]

/-- The difference `(calc(min(1px, 2em)) + auto) - max-content` is written in two nested `calc()`
and read back over two levels. -/
theorem calculation_reads_back_two_levels :
    let given := calculation "min(1px, 2em)"
    let total := Application.lengths .plus given auto
    let whole := Application.lengths .minus total.result (keyword .maxContent)
    (Expression.evaluate (.divided (.given given) 2) = .ok given ∧ given.Tame) ∧
      (total.Symbolic ∧ whole.Symbolic) ∧ total.Alike total ∧
      render whole.result = "calc(calc(calc(min(1px, 2em)) + auto) - max-content)" ∧
      Outline.read 2 (render whole.result) =
        .applied (.applied (.plain "calc(min(1px, 2em))") "+" (.plain "auto")) "-"
          (.plain "max-content") := by
  intro given total whole
  obtain ⟨operators, divisions, expressions, written, alike, reads⟩ := calculation_reads_back
  have tame : given.Tame := (by decide : Text.Balanced "min(1px, 2em)".toList)
  have half : given.divide 2 = .ok (.unchanged given .undividedLength) := by
    unfold divide
    rw [if_neg (by decide +kernel), if_neg (by decide +kernel)]
  have halved : given.Tame := divisions _ _ _ tame half
  have evaluated : Expression.evaluate (.divided (.given given) 2) = .ok given :=
    bind_eq_ok.mpr ⟨given, rfl, bind_eq_ok.mpr ⟨_, half, rfl⟩⟩
  have kept : given.Tame := expressions (.divided (.given given) 2) given tame evaluated
  have totalWritten : total.Symbolic := (written total).mpr fun numbers =>
    Bool.false_ne_true numbers.isNumeric_left
  have wholeWritten : whole.Symbolic := (written whole).mpr fun numbers =>
    Bool.false_ne_true numbers.isNumeric_left
  refine ⟨⟨evaluated, kept⟩, ⟨totalWritten, wholeWritten⟩, ?_, by decide +kernel, ?_⟩
  · exact alike total total ⟨tame, trivial⟩ ⟨halved, trivial⟩ totalWritten totalWritten rfl
  · have inner := reads 0 total ⟨tame, trivial⟩ totalWritten
    have outer := reads 1 whole ⟨operators total ⟨tame, trivial⟩, trivial⟩ wholeWritten
    have last : Outline.read 1 "max-content" = .plain "max-content" := rfl
    exact outer.trans (congr (congrArg (Outline.applied · "-") inner) last)

end Length
end CssValue
