import CssValue.Proofs.Paint.BrightnessRun
import CssValue.Proofs.Quantity.Calculation
import Mathlib.Data.List.Nodup
import Mathlib.Data.List.Perm.Subperm

/-!
# Notices over a run of operations

Arithmetic on lengths gives no notice, and neither does a refused division.  A division of a length
without a number, a brightness change by a fraction out of range and a brightness change of a
hexadecimal color that does not decode give one notice each, whatever the operands are.  The log of
a run therefore holds the warnings of those notices that some operation gave, and three entries at
most.
-/

namespace CssValue

/-! ### Operations -/

/-- A way to make a color brighter or darker. -/
inductive BrightnessChange where
  | adjust (fraction : Binary64)
  | lighter (fraction : Binary64)
  | darker (fraction : Binary64)
  | lighten
  | darken

namespace BrightnessChange

def apply : BrightnessChange → Color → Advised Color
  | adjust fraction, color => color.adjustBrightness fraction
  | lighter fraction, color => color.lighter fraction
  | darker fraction, color => color.darker fraction
  | lighten, color => color.lighten
  | darken, color => color.darken

/-- The fraction by which the color is moved, towards white if it is positive. -/
def fraction : BrightnessChange → Binary64
  | adjust fraction | lighter fraction => fraction
  | darker fraction => -fraction
  | lighten => Color.defaultStep
  | darken => -Color.defaultStep

theorem apply_eq (change : BrightnessChange) (color : Color) :
    change.apply color = color.adjustBrightness change.fraction := by
  cases change <;> rfl

end BrightnessChange

/-- A result of another kind with the same notice. -/
def Advised.map {α β : Type} (wrap : α → β) (advised : Advised α) : Advised β :=
  ⟨wrap advised.value, advised.notice?⟩

/-- An operation on lengths or on a color. -/
inductive Operation where
  | arithmetic (application : Length.Application)
  | divide (length : Length) (divisor : Binary64)
  /-- The division of a length in place. -/
  | divideHeld (held : Length) (divisor : Binary64)
  | brighten (color : Color) (change : BrightnessChange)

namespace Operation

/-- What an operation gives: a value, with a notice if it was left unchanged, or a refusal. -/
def outcome : Operation → Except ValueError (Advised (Length ⊕ Color))
  | arithmetic application => .ok (.plain (.inl application.result))
  | divide length divisor => (length.divide divisor).map (Advised.map .inl)
  | divideHeld held divisor =>
    match (Length.divideHeld divisor).run held with
    | .ok notice? quotient => .ok ⟨.inl quotient, notice?⟩
    | .error cause _ => .error cause
  | brighten color change => .ok ((change.apply color).map .inr)

/-- The notice that an operation gives.  A refused one gives none. -/
def notice? (operation : Operation) : Option Notice :=
  match operation.outcome with
  | .ok advised => advised.notice?
  | .error _ => none

end Operation

namespace WarningLog

/-- The log after an operation, whose notice is reported. -/
def perform (log : WarningLog) (operation : Operation) : WarningLog :=
  match operation.outcome with
  | .ok advised => advised.log log
  | .error _ => log

/-- The log after a sequence of operations. -/
def performAll (log : WarningLog) (operations : List Operation) : WarningLog :=
  operations.foldl perform log

end WarningLog

/-! ### The notice of one operation -/

namespace Operation

variable {length : Length} {divisor : Binary64} {color : Color} {change : BrightnessChange}
  {notice : Notice}

theorem notice?_arithmetic (application : Length.Application) :
    (arithmetic application).notice? = none := rfl

/-- A division gives a notice when the divisor is accepted and there is no number to divide. -/
theorem notice?_divide_eq_some_iff :
    (divide length divisor).notice? = some notice ↔
      notice = .undividedLength ∧ divisor ≠ .nan ∧ ¬ divisor == 0 ∧ length.isNumeric = false := by
  by_cases invalid : divisor = .nan
  · simp [notice?, outcome, Length.divide, Except.map, invalid]
  · by_cases zero : (divisor == 0) = true
    · simp [notice?, outcome, Length.divide, Except.map, invalid, zero]
    · cases length <;>
        simp [notice?, outcome, Length.divide, Except.map, Advised.map, Advised.plain,
          Advised.unchanged, Length.isNumeric, invalid, zero, eq_comm]

/-- In place or not, a division gives the same notice. -/
theorem notice?_divideHeld (held : Length) (divisor : Binary64) :
    (divideHeld held divisor).notice? = (divide held divisor).notice? := by
  simp only [notice?, outcome, EStateM.run, Length.divideHeld]
  cases held.divide divisor <;> rfl

/-- A brightness change gives a notice when its fraction is out of range, and otherwise when it
meets a hexadecimal color that does not decode. -/
theorem notice?_brighten_eq_some_iff :
    (brighten color change).notice? = some notice ↔
      (notice = .fractionOutOfRange ∧ ¬ (-1 ≤ change.fraction ∧ change.fraction ≤ 1)) ∨
        (notice = .undecodableHex ∧ (-1 ≤ change.fraction ∧ change.fraction ≤ 1) ∧
          ∃ text error, color = .hex text ∧ HexChannels.decode text = .error error) := by
  have given : (brighten color change).notice? =
      (color.adjustBrightness change.fraction).notice? := by
    rw [← change.apply_eq]
    rfl
  rw [given, ← Brightness.inRange_iff]
  by_cases inside : Brightness.inRange change.fraction = true
  · cases color with
    | hex text =>
        cases decoded : HexChannels.decode text with
        | ok channels =>
            rw [Color.adjustBrightness_decodable inside decoded]
            simp [Advised.plain, inside, decoded]
        | error cause =>
            rw [Color.adjustBrightness_undecodable inside decoded]
            simp [Advised.unchanged, inside, decoded, eq_comm]
    | _ => simp [Color.adjustBrightness, Advised.plain, inside]
  · rw [Color.adjustBrightness_outside inside]
    simp [Advised.unchanged, inside, eq_comm]

variable {operation : Operation}

/-- Just the changes by a fraction outside of the range say so. -/
theorem notice?_eq_fractionOutOfRange_iff :
    operation.notice? = some .fractionOutOfRange ↔
      ∃ color change, operation = brighten color change ∧
        ¬ (-1 ≤ change.fraction ∧ change.fraction ≤ 1) := by
  cases operation with
  | arithmetic application => simp [notice?_arithmetic]
  | divide length divisor => simp [notice?_divide_eq_some_iff]
  | divideHeld held divisor => simp [notice?_divideHeld, notice?_divide_eq_some_iff]
  | brighten color change => simp [notice?_brighten_eq_some_iff]

/-- Just the changes within the range of a hexadecimal color that does not decode say so. -/
theorem notice?_eq_undecodableHex_iff :
    operation.notice? = some .undecodableHex ↔
      ∃ text change error, operation = brighten (.hex text) change ∧
        (-1 ≤ change.fraction ∧ change.fraction ≤ 1) ∧ HexChannels.decode text = .error error := by
  cases operation with
  | arithmetic application => simp [notice?_arithmetic]
  | divide length divisor => simp [notice?_divide_eq_some_iff]
  | divideHeld held divisor => simp [notice?_divideHeld, notice?_divide_eq_some_iff]
  | brighten color change =>
      rw [notice?_brighten_eq_some_iff]
      constructor
      · rintro (⟨other, _⟩ | ⟨_, inside, text, error, rfl, invalid⟩)
        · cases other
        · exact ⟨text, change, error, rfl, inside, invalid⟩
      · rintro ⟨text, _, error, same, inside, invalid⟩
        cases same
        exact Or.inr ⟨rfl, inside, text, error, rfl, invalid⟩

/-- Just the accepted divisions of a length without a number say that it is left undivided. -/
theorem notice?_eq_undividedLength_iff :
    operation.notice? = some .undividedLength ↔
      ∃ length divisor,
        (operation = divide length divisor ∨ operation = divideHeld length divisor) ∧
        divisor ≠ .nan ∧ ¬ divisor == 0 ∧ length.isNumeric = false := by
  cases operation with
  | arithmetic application => simp [notice?_arithmetic]
  | divide length divisor => simp [notice?_divide_eq_some_iff]
  | divideHeld held divisor => simp [notice?_divideHeld, notice?_divide_eq_some_iff]
  | brighten color change => simp [notice?_brighten_eq_some_iff]

end Operation

/-! ### The log of a run -/

/-- The log tells the warnings of different notices apart. -/
theorem Notice.eq_of_key_eq {first second : Notice}
    (same : first.warning.key = second.warning.key) : first = second := by
  revert same
  cases first <;> cases second <;> decide

namespace WarningLog

/-- An operation reports its notice, if it has one, and does nothing else to the log. -/
theorem perform_eq (log : WarningLog) (operation : Operation) :
    log.perform operation =
      match operation.notice? with
      | some notice => log.report notice.warning
      | none => log := by
  unfold perform Operation.notice?
  cases operation.outcome with
  | ok advised => rfl
  | error cause => rfl

/-- After an operation the log remembers its notice and what it remembered before. -/
theorem hasReported_perform (log : WarningLog) (operation : Operation) (notice : Notice) :
    (log.perform operation).hasReported notice.warning = true ↔
      operation.notice? = some notice ∨ log.hasReported notice.warning = true := by
  rw [perform_eq]
  cases operation.notice? with
  | none => simp
  | some given =>
      have told : notice.warning.key = given.warning.key ↔ given = notice :=
        ⟨fun same => (Notice.eq_of_key_eq same).symm, fun same => by rw [same]⟩
      simp only [hasReported_report, Bool.or_eq_true, beq_iff_eq, told, Option.some.injEq]

/-- After a run a notice counts as reported if some operation gave it, or if it did before. -/
theorem hasReported_performAll (log : WarningLog) (operations : List Operation) (notice : Notice) :
    (log.performAll operations).hasReported notice.warning = true ↔
      (∃ operation ∈ operations, operation.notice? = some notice) ∨
        log.hasReported notice.warning = true := by
  induction operations generalizing log with
  | nil => simp [performAll]
  | cons next rest ih =>
      have first : log.performAll (next :: rest) = (log.perform next).performAll rest := rfl
      rw [first, ih, hasReported_perform]
      rw [List.exists_mem_cons_iff]
      exact or_left_comm.trans or_assoc.symm

/-- The log holds the key of no warning twice, and the keys of notices only. -/
structure HoldsNotices (log : WarningLog) : Prop where
  distinct : log.reported.Nodup
  notices : ∀ key ∈ log.reported, ∃ notice : Notice, key = notice.warning.key

theorem HoldsNotices.clear (log : WarningLog) : log.clear.HoldsNotices where
  distinct := List.nodup_nil
  notices := by
    intro key member
    exact (List.not_mem_nil member).elim

/-- Reporting a notice keeps the log to notices, each remembered once. -/
theorem HoldsNotices.report {log : WarningLog} (holds : log.HoldsNotices) (notice : Notice) :
    (log.report notice.warning).HoldsNotices := by
  unfold WarningLog.report
  by_cases remembered : log.hasReported notice.warning = true
  · rw [if_pos remembered]
    exact holds
  · rw [if_neg remembered]
    rw [hasReported_eq_true_iff] at remembered
    refine ⟨List.nodup_cons.mpr ⟨remembered, holds.distinct⟩, ?_⟩
    intro key member
    rcases List.mem_cons.mp member with rfl | earlier
    · exact ⟨notice, rfl⟩
    · exact holds.notices key earlier

/-- An operation keeps the log to notices. -/
theorem HoldsNotices.perform {log : WarningLog} (holds : log.HoldsNotices)
    (operation : Operation) : (log.perform operation).HoldsNotices := by
  rw [perform_eq]
  cases operation.notice? with
  | none => exact holds
  | some notice => exact holds.report notice

theorem HoldsNotices.performAll {log : WarningLog} (holds : log.HoldsNotices)
    (operations : List Operation) : (log.performAll operations).HoldsNotices := by
  induction operations generalizing log with
  | nil => exact holds
  | cons next rest ih => exact ih (holds.perform next)

/-- There are three notices. -/
theorem HoldsNotices.length_le {log : WarningLog} (holds : log.HoldsNotices) :
    log.reported.length ≤ 3 := by
  let keys := [Notice.fractionOutOfRange, .undecodableHex, .undividedLength].map (·.warning.key)
  have known : log.reported ⊆ keys := by
    intro key member
    obtain ⟨notice, rfl⟩ := holds.notices key member
    have listed : notice ∈ [Notice.fractionOutOfRange, .undecodableHex, .undividedLength] := by
      cases notice <;> decide
    exact List.mem_map_of_mem listed
  exact (List.subperm_of_subset holds.distinct known).length_le

/-- **A run reports three warnings at most.** After any operations on lengths and colors the log
holds, of the three warnings, the first if some brightness change was by a fraction that is out of
range or no number, the second if one by a fraction in range met a hexadecimal color that does not
decode, and the third if a length without a number was divided by a number other than zero.  It
holds no other warning and none twice. -/
theorem reports_notices_of_run (start : WarningLog) (operations : List Operation) :
    let log := start.clear.performAll operations
    (log.hasReported ⟨"CSS", "brightness fraction outside [-1, 1]; color left unchanged"⟩ = true ↔
        ∃ color change, .brighten color change ∈ operations ∧
          ¬ (-1 ≤ change.fraction ∧ change.fraction ≤ 1)) ∧
      (log.hasReported ⟨"CSS", "invalid hex color; color left unchanged"⟩ = true ↔
        ∃ text change error, .brighten (.hex text) change ∈ operations ∧
          (-1 ≤ change.fraction ∧ change.fraction ≤ 1) ∧
          HexChannels.decode text = .error error) ∧
      (log.hasReported ⟨"CSS",
          "cannot divide a keyword or calc() length; value left unchanged"⟩ = true ↔
        ∃ length divisor,
          (.divide length divisor ∈ operations ∨ .divideHeld length divisor ∈ operations) ∧
          divisor ≠ .nan ∧ ¬ divisor == 0 ∧ length.isNumeric = false) ∧
      (∀ key ∈ log.reported, ∃ notice : Notice, key = notice.warning.key) ∧
      log.reported.Nodup ∧ log.reported.length ≤ 3 := by
  intro log
  have holds : log.HoldsNotices := (HoldsNotices.clear start).performAll operations
  have reported : ∀ notice : Notice, log.hasReported notice.warning = true ↔
      ∃ operation ∈ operations, operation.notice? = some notice := by
    intro notice
    have fresh : ¬ start.clear.hasReported notice.warning = true := Bool.false_ne_true
    rw [hasReported_performAll]
    exact or_iff_left fresh
  refine ⟨(reported .fractionOutOfRange).trans ?_, (reported .undecodableHex).trans ?_,
    (reported .undividedLength).trans ?_, holds.notices, holds.distinct, holds.length_le⟩
  · simp only [Operation.notice?_eq_fractionOutOfRange_iff]
    constructor
    · rintro ⟨_, member, color, change, rfl, outside⟩
      exact ⟨color, change, member, outside⟩
    · rintro ⟨color, change, member, outside⟩
      exact ⟨_, member, color, change, rfl, outside⟩
  · simp only [Operation.notice?_eq_undecodableHex_iff]
    constructor
    · rintro ⟨_, member, text, change, error, rfl, conditions⟩
      exact ⟨text, change, error, member, conditions⟩
    · rintro ⟨text, change, error, member, conditions⟩
      exact ⟨_, member, text, change, error, rfl, conditions⟩
  · simp only [Operation.notice?_eq_undividedLength_iff]
    constructor
    · rintro ⟨_, member, length, divisor, rfl | rfl, conditions⟩
      · exact ⟨length, divisor, Or.inl member, conditions⟩
      · exact ⟨length, divisor, Or.inr member, conditions⟩
    · rintro ⟨length, divisor, member | member, conditions⟩
      · exact ⟨_, member, length, divisor, Or.inl rfl, conditions⟩
      · exact ⟨_, member, length, divisor, Or.inr rfl, conditions⟩

end WarningLog
end CssValue
