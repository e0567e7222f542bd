/-!
# Warnings

A warning is printed once.  The log remembers a warning by its component and message run together
as `[component] message`, so a warning is held back when an earlier one has the same such text.
-/

namespace CssValue

/-- A message from a component of the program. -/
structure Warning where
  component : String
  message : String
deriving DecidableEq

namespace Warning

/-- The text by which the log remembers a warning. -/
def key (warning : Warning) : String := "[" ++ warning.component ++ "] " ++ warning.message

/-- What is printed for a warning, in yellow on a terminal. -/
def line (warning : Warning) : String :=
  "\x1b[33m[Tessera " ++ warning.component ++ "] ⚠ " ++ warning.message ++ "\x1b[39m"

end Warning

/-- The keys of the warnings reported since the log was last cleared, the latest first, and all that
was printed, in order. -/
structure WarningLog where
  reported : List String
  printed : List String
deriving DecidableEq

namespace WarningLog

def empty : WarningLog := ⟨[], []⟩

/-- A warning with this key was reported. -/
def hasReported (log : WarningLog) (warning : Warning) : Bool := log.reported.contains warning.key

/-- Report a warning and print it, unless its key was reported before. -/
def report (log : WarningLog) (warning : Warning) : WarningLog :=
  if log.hasReported warning then log
  else ⟨warning.key :: log.reported, log.printed ++ [warning.line]⟩

/-- A log remembers a warning just when it has the key of the warning. -/
theorem hasReported_eq_true_iff (log : WarningLog) (warning : Warning) :
    log.hasReported warning = true ↔ warning.key ∈ log.reported := by
  simp [hasReported]

/-- A reported warning is remembered, and so is every warning that was remembered before. -/
theorem hasReported_report (log : WarningLog) (warning other : Warning) :
    (log.report warning).hasReported other =
      (other.key == warning.key || log.hasReported other) := by
  unfold report
  split
  case isTrue remembered =>
    rw [hasReported_eq_true_iff] at remembered
    by_cases same : other.key = warning.key
    · simp [hasReported, same, remembered]
    · simp [same]
  case isFalse => rfl

/-- Forget the reported warnings, so that they are printed again.  Printed text stays printed. -/
def clear (log : WarningLog) : WarningLog := { log with reported := [] }

/-- A cleared log remembers nothing. -/
theorem hasReported_clear (log : WarningLog) (warning : Warning) :
    log.clear.hasReported warning = false := rfl

end WarningLog
end CssValue
