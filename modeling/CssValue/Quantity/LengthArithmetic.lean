import CssValue.Diagnostics.Advice
import CssValue.Quantity.Length

/-!
# Arithmetic on lengths

Lengths of one unit, and percentages, are added and subtracted as numbers.  All other operands give
a `calc()` whose expression is the two operands, as they are written, around the operator.
-/

namespace CssValue.Length

/-- The `calc()` of an operator between two written operands. -/
def symbolic (left : Length) (operator : Char) (right : String) : Length :=
  calculation (Text.spaced [render left, operator.toString, right])

/-- Combine two lengths as numbers if their units agree, and in a `calc()` otherwise. -/
def combine (operator : Char) (operation : Binary64 → Binary64 → Binary64)
    (left right : Length) : Length :=
  match left, right with
  | dimension a leftUnit, dimension b rightUnit =>
    if leftUnit = rightUnit then dimension (operation a b) leftUnit
    else symbolic left operator (render right)
  | percentage a, percentage b => percentage (operation a b)
  | _, _ => symbolic left operator (render right)

instance : Add Length := ⟨combine '+' (· + ·)⟩
instance : Sub Length := ⟨combine '-' (· - ·)⟩

def scale (length : Length) (factor : Binary64) : Length :=
  match length with
  | dimension value unit => dimension (value * factor) unit
  | percentage value => percentage (value * factor)
  | keyword _ | calculation _ | wide _ => symbolic length '*' (render factor)

instance : HMul Length Binary64 Length := ⟨scale⟩

/-- A length times a length, which is a number only for two percentages. -/
def mul (left right : Length) : Length :=
  match left, right with
  | percentage a, percentage b => percentage (a * b)
  | _, _ => symbolic left '*' (render right)

instance : Mul Length := ⟨mul⟩

/-- A length divided by a number that is neither zero nor `nan`.  A length without a number is left
unchanged, with a notice. -/
def divide (length : Length) (divisor : Binary64) : Except ValueError (Advised Length) :=
  if divisor = .nan then .error .notANumber
  else if divisor == 0 then .error .divisionByZero
  else .ok <|
    match length with
    | dimension value unit => .plain (dimension (value / divisor) unit)
    | percentage value => .plain (percentage (value / divisor))
    | keyword _ | calculation _ | wide _ => .unchanged length .undividedLength

/-- Divide the length that a variable holds.  The variable holds `zero` until the quotient is
stored, so `zero` is what a refused division leaves there. -/
def divideHeld (divisor : Binary64) : EStateM ValueError Length (Option Notice) := fun held =>
  match held.divide divisor with
  | .ok quotient => .ok quotient.notice? quotient.value
  | .error cause => .error cause zero

end CssValue.Length
