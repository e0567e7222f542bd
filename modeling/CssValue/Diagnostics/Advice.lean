import CssValue.Diagnostics.Warning

/-!
# Refusals and notices

Two things can go wrong with an operation on values.  A refused operation has no result, and its
error says why.  An operation that does not apply leaves the value as it was, with a notice.
-/

namespace CssValue

/-- Why an operation was refused. -/
inductive ValueError where
  | divisionByZero
  | notANumber
  | invalidHex (value : String)
deriving DecidableEq

def ValueError.message : ValueError → String
  | divisionByZero => "division of a length by zero"
  | notANumber => "division of a length by NaN"
  | invalidHex value => "'" ++ value ++ "' is not a 3, 6 or 8 digit hex color"

/-- Why an operation left a value unchanged. -/
inductive Notice where
  | fractionOutOfRange
  | undecodableHex
  | undividedLength
deriving DecidableEq

namespace Notice

def message : Notice → String
  | fractionOutOfRange => "brightness fraction outside [-1, 1]; color left unchanged"
  | undecodableHex => "invalid hex color; color left unchanged"
  | undividedLength => "cannot divide a keyword or calc() length; value left unchanged"

/-- The warning that carries a notice. -/
def warning (notice : Notice) : Warning := ⟨"CSS", notice.message⟩

end Notice

/-- A result, with a notice if it is a value left unchanged. -/
structure Advised (α : Type) where
  value : α
  notice? : Option Notice
deriving DecidableEq

namespace Advised

variable {α : Type}

def plain (value : α) : Advised α := ⟨value, none⟩

/-- A value left unchanged for the reason given. -/
def unchanged (value : α) (notice : Notice) : Advised α := ⟨value, some notice⟩

/-- The log after the notice, if there is one, was reported. -/
def log (advised : Advised α) (before : WarningLog) : WarningLog :=
  match advised.notice? with
  | some notice => before.report notice.warning
  | none => before

end Advised
end CssValue
