import CssValue.Proofs.Binary64.Exceptional
import CssValue.Proofs.Quantity.ExpressionUnit

/-!
# Division of lengths

A division is refused for zero and for `nan` only, whatever the length.  So the number of a quotient
is never `nan`, but it can be infinite, and is so just when the exact quotient reaches the overflow
threshold.  In place, a refused division does not leave the variable as it was: the variable holds
`0px` from then on, and a zero after all further divisions.
-/

namespace CssValue.Length

open Binary64

section Quotient

variable {length : Length} {divisor : Binary64}

theorem divide_nan (length : Length) : length.divide .nan = .error .notANumber := rfl

theorem divide_zero (length : Length) (none : divisor == 0) :
    length.divide divisor = .error .divisionByZero := by
  have number : divisor ≠ nan := by
    rintro rfl
    obtain ⟨_, unranked, _⟩ := beq_iff_rank.mp none
    cases unranked
  unfold divide
  rw [if_neg number, if_pos none]

/-- A divisor is refused, as `nan` or as a zero, or it is accepted. -/
theorem divisor_cases (divisor : Binary64) :
    (divisor = nan ∨ divisor == 0) ∨ (divisor ≠ nan ∧ ¬ divisor == 0) := by
  by_cases refused : divisor = nan ∨ divisor == 0
  · exact Or.inl refused
  · exact Or.inr (not_or.mp refused)

/-- A division is accepted just when the divisor is a number other than zero. -/
theorem divide_accepted_iff :
    (∃ quotient, length.divide divisor = .ok quotient) ↔ divisor ≠ nan ∧ ¬ divisor == 0 := by
  constructor
  · rintro ⟨quotient, accepted⟩
    rcases divisor_cases divisor with (rfl | none) | valid
    · cases (divide_nan length).symm.trans accepted
    · cases (divide_zero length none).symm.trans accepted
    · exact valid
  · rintro ⟨number, nonzero⟩
    obtain ⟨quotient, accepted, _⟩ := divide_accepted length number (eq_false_of_ne_true nonzero)
    exact ⟨quotient, accepted⟩

/-- **A quotient is finite below the overflow threshold.** The divisors that a division accepts are
all numbers other than zero.  Of a length with a finite number the quotient keeps the unit; its
number is never `nan`, and is finite just when the exact quotient is below the overflow threshold,
as it is by every divisor that is not below one in size. -/
theorem quotient_finite_below_threshold {value : Binary64} (given : length.number? = some value)
    (finite : value.isFinite) (divisor : Binary64) :
    ((∃ quotient, length.divide divisor = .ok quotient) ↔ divisor ≠ nan ∧ ¬ divisor == 0) ∧
      ∀ quotient, length.divide divisor = .ok quotient →
        ∃ number, quotient.value.number? = some number ∧
          quotient.value.basis? = length.basis? ∧ number ≠ nan ∧
          (number.isFinite ↔ value.QuotientFits divisor) ∧
          (1 ≤ divisor.abs → number.isFinite) := by
  refine ⟨divide_accepted_iff, fun quotient accepted => ?_⟩
  obtain ⟨number, nonzero⟩ := divide_accepted_iff.mp ⟨quotient, accepted⟩
  obtain ⟨_, result, basis, divided, _⟩ :=
    divide_accepted length number (eq_false_of_ne_true nonzero)
  obtain rfl := Except.ok.inj (result.symm.trans accepted)
  obtain ⟨_, counts⟩ := exists_counts finite
  refine ⟨value / divisor, ?_, basis, ?_, isFinite_div_iff finite, fun large => ?_⟩
  · rw [divided, given, Option.map_some]
  · simp [div_eq_nan_iff, counts.ne_nan, counts.ne_infinity, number, nonzero]
  · exact (isFinite_div_iff finite).mpr (quotientFits_of_one_le_abs finite large)

/-- The greatest finite number by a divisor just above one in size. -/
theorem quotient_finite_below_threshold_greatest :
    let greatest : Binary64 := 1.7976931348623157e308
    let divisor : Binary64 := -1.0000000000000002
    (percentage greatest).number? = some greatest ∧ greatest.isFinite ∧
      (divisor ≠ nan ∧ ¬ divisor == 0) ∧ 1 ≤ divisor.abs ∧
      ∃ quotient number, (percentage greatest).divide divisor = .ok quotient ∧
        quotient.value.number? = some number ∧ number.isFinite := by
  intro greatest divisor
  have given : (percentage greatest).number? = some greatest := rfl
  have finite : greatest.isFinite := by decide +kernel
  have valid : divisor ≠ nan ∧ ¬ divisor == 0 := by decide +kernel
  have large : 1 ≤ divisor.abs := by decide +kernel
  obtain ⟨accepts, quotients⟩ := quotient_finite_below_threshold given finite divisor
  obtain ⟨quotient, accepted⟩ := accepts.mpr valid
  obtain ⟨number, found, _, _, _, stays⟩ := quotients quotient accepted
  exact ⟨given, finite, valid, large, quotient, number, accepted, found, stays large⟩

/-- One pixel by the least positive number, which is accepted, is infinitely long. -/
theorem quotient_by_least_number_is_infinite :
    (1 : Binary64).isFinite ∧ (px 1).divide 5e-324 = .ok (.plain (px (infinity false))) ∧
      ¬ (infinity false).isFinite := by
  decide +kernel

end Quotient

/-! ### Division in place -/

/-- What the variable holds after a division in place, completed or refused. -/
def heldAfter (held : Length) (divisor : Binary64) : Length :=
  match (divideHeld divisor).run held with
  | .ok _ quotient => quotient
  | .error _ left => left

/-- What the variable holds after divisions in place one after the other, where a refusal does not
end the sequence. -/
def heldAfterAll (held : Length) (divisors : List Binary64) : Length :=
  divisors.foldl heldAfter held

section Held

variable {held : Length} {divisor : Binary64}

/-- A division in place takes the length out of the variable and puts zero there, divides, and then
stores the quotient. -/
theorem divideHeld_eq (divisor : Binary64) :
    divideHeld divisor = (do
      let taken ← getModify fun _ => zero
      let quotient ← MonadExcept.ofExcept (taken.divide divisor)
      set quotient.value
      return quotient.notice?) := by
  funext held
  unfold divideHeld
  change _ = EStateM.bind (MonadExcept.ofExcept (held.divide divisor))
    (fun quotient => do set quotient.value; return quotient.notice?) zero
  cases held.divide divisor <;> rfl

/-- A division in place gives the notice of the division; a refused one leaves `0px` behind. -/
theorem run_divideHeld (held : Length) (divisor : Binary64) :
    (divideHeld divisor).run held =
      match held.divide divisor with
      | .ok quotient => .ok quotient.notice? quotient.value
      | .error cause => .error cause zero := rfl

/-- A refused division leaves zero pixels. -/
theorem heldAfter_refused (refused : divisor = nan ∨ divisor == 0) :
    held.heldAfter divisor = px (.zero false) := by
  have positive : zero = px (.zero false) := by decide +kernel
  rw [heldAfter, run_divideHeld]
  rcases refused with rfl | none
  · rw [divide_nan]
    exact positive
  · rw [divide_zero held none]
    exact positive

/-- A division of zero pixels, completed or refused, leaves zero pixels. -/
theorem heldAfter_zero (negative : Bool) (divisor : Binary64) :
    ∃ sign, (px (.zero negative)).heldAfter divisor = px (.zero sign) := by
  rcases divisor_cases divisor with refused | ⟨number, nonzero⟩
  · exact ⟨false, heldAfter_refused refused⟩
  · obtain ⟨sign, quotient⟩ := zero_div negative number nonzero
    have divided : (px (.zero negative)).divide divisor = .ok (.plain (px (.zero sign))) := by
      unfold divide
      rw [if_neg number, if_neg nonzero, ← quotient]
      rfl
    refine ⟨sign, ?_⟩
    rw [heldAfter, run_divideHeld, divided]
    rfl

/-- Zero pixels stay zero pixels through any divisions. -/
theorem heldAfterAll_zero (negative : Bool) (divisors : List Binary64) :
    ∃ sign, (px (.zero negative)).heldAfterAll divisors = px (.zero sign) := by
  induction divisors generalizing negative with
  | nil => exact ⟨negative, rfl⟩
  | cons divisor rest ih =>
      obtain ⟨sign, first⟩ := heldAfter_zero negative divisor
      rw [heldAfterAll, List.foldl_cons, first]
      exact ih sign

/-- Once a division was refused, the variable holds zero pixels. -/
theorem heldAfterAll_refused {divisors : List Binary64}
    (refused : ∃ divisor ∈ divisors, divisor = nan ∨ divisor == 0) (held : Length) :
    ∃ sign, held.heldAfterAll divisors = px (.zero sign) := by
  induction divisors generalizing held with
  | nil =>
      obtain ⟨_, absent, _⟩ := refused
      cases absent
  | cons divisor rest ih =>
      rw [heldAfterAll, List.foldl_cons]
      rcases (List.exists_mem_cons_iff _ _ _).mp refused with first | later
      · rw [heldAfter_refused first]
        exact heldAfterAll_zero false rest
      · exact ih later (held.heldAfter divisor)

/-- **A refused division in place clears the variable.** Whatever length a variable holds, a
division in place by a number other than zero stores the quotient there, and one by `nan` or by zero
is refused and leaves `0px`.  What the variable held is gone then: after any further divisions,
refused or not, it holds zero pixels. -/
theorem divideHeld_stores_or_clears (held : Length) (divisor : Binary64) :
    (divisor ≠ nan ∧ ¬ divisor == 0 →
        ∃ quotient, held.divide divisor = .ok quotient ∧
          (divideHeld divisor).run held = .ok quotient.notice? quotient.value) ∧
      (divisor = nan →
        held.divide divisor = .error .notANumber ∧
          (divideHeld divisor).run held = .error .notANumber zero) ∧
      (divisor == 0 →
        held.divide divisor = .error .divisionByZero ∧
          (divideHeld divisor).run held = .error .divisionByZero zero) ∧
      ∀ divisors, (∃ refused ∈ divisors, refused = nan ∨ refused == 0) →
        ∃ sign, held.heldAfterAll divisors = px (.zero sign) := by
  refine ⟨?_, ?_, ?_, fun divisors refused => heldAfterAll_refused refused held⟩
  · intro valid
    obtain ⟨quotient, accepted⟩ := divide_accepted_iff.mpr valid
    refine ⟨quotient, accepted, ?_⟩
    rw [run_divideHeld, accepted]
  · rintro rfl
    refine ⟨divide_nan held, ?_⟩
    rw [run_divideHeld, divide_nan]
  · intro none
    refine ⟨divide_zero held none, ?_⟩
    rw [run_divideHeld, divide_zero held none]

/-- A keyword divided by a number, then by a negative zero, and then by a number again. -/
theorem divideHeld_stores_or_clears_auto :
    ((2 : Binary64) ≠ nan ∧ ¬ (2 : Binary64) == 0) ∧
      (divideHeld 2).run auto = .ok (some .undividedLength) auto ∧
      (-0 : Binary64) == 0 ∧
      (divideHeld (-0)).run auto = .error .divisionByZero zero ∧
      (divideHeld nan).run auto = .error .notANumber zero ∧
      ∃ sign, auto.heldAfterAll [2, -0, 2] = px (.zero sign) := by
  have valid : (2 : Binary64) ≠ nan ∧ ¬ (2 : Binary64) == 0 := by decide +kernel
  have none : (-0 : Binary64) == 0 := by decide +kernel
  obtain ⟨stores, _, _, _⟩ := divideHeld_stores_or_clears auto 2
  obtain ⟨_, _, clears, sequences⟩ := divideHeld_stores_or_clears auto (-0)
  obtain ⟨_, undefined, _, _⟩ := divideHeld_stores_or_clears auto nan
  obtain ⟨quotient, accepted, stored⟩ := stores valid
  obtain rfl : quotient = .unchanged auto .undividedLength :=
    Except.ok.inj (accepted.symm.trans (by decide +kernel))
  have member : (-0 : Binary64) ∈ [2, -0, 2] := List.mem_cons_of_mem _ List.mem_cons_self
  exact ⟨valid, stored, none, (clears none).2, (undefined rfl).2,
    sequences _ ⟨-0, member, Or.inr none⟩⟩

/-- Ten pixels are gone after a refused division, and so is a keyword. -/
theorem refused_division_loses_length :
    (divideHeld 0).run (px 10) = .error .divisionByZero (px 0) ∧ px 0 ≠ px 10 ∧
      (divideHeld nan).run auto = .error .notANumber (px 0) ∧ px 0 ≠ auto := by
  refine ⟨?_, by decide +kernel, rfl, by decide +kernel⟩
  rw [run_divideHeld, divide_zero (px 10) (by decide +kernel)]
  rfl

end Held

end CssValue.Length
