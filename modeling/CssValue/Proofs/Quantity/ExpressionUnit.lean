import CssValue.Proofs.Quantity.Calculation

/-!
# Units of expressions

The number of a length counts one unit, or hundredths.  Every operator keeps this basis or gives up
the number for a `calc()`, and no operator turns one basis into another.  So the value of an
expression has a number only if all of its lengths have one, on the same basis; a length without a
number survives under divisions alone, and everything else is a `calc()`.
-/

namespace CssValue.Length

/-- What the number of a length counts. -/
inductive Basis where
  | unit (unit : LengthUnit)
  | hundredths
deriving DecidableEq

/-- The basis of the number in a length, if there is a number. -/
def basis? : Length → Option Basis
  | dimension _ unit => some (.unit unit)
  | percentage _ => some .hundredths
  | keyword _ | calculation _ | wide _ => none

/-- The number in a length, if there is one. -/
def number? : Length → Option Binary64
  | dimension value _ | percentage value => some value
  | keyword _ | calculation _ | wide _ => none

section Basis

variable {length : Length}

/-- A length counts a unit just when it is a number with this unit. -/
theorem basis?_eq_unit_iff {unit : LengthUnit} :
    length.basis? = some (.unit unit) ↔ ∃ number, length = dimension number unit := by
  cases length <;> simp [basis?]

/-- A length counts hundredths just when it is a percentage. -/
theorem basis?_eq_hundredths_iff :
    length.basis? = some .hundredths ↔ ∃ number, length = percentage number := by
  cases length <;> simp [basis?]

theorem basis?_eq_none_iff : length.basis? = none ↔ length.isNumeric = false := by
  cases length <;> simp [basis?, isNumeric]

/-- A length with no basis but that of another has no number if the other has none. -/
theorem isNumeric_eq_false_of_basis? {other : Length}
    (same : ∀ basis, length.basis? = some basis → other.basis? = some basis)
    (unmeasured : other.isNumeric = false) : length.isNumeric = false := by
  rw [← basis?_eq_none_iff] at unmeasured ⊢
  cases measured : length.basis? with
  | none => rfl
  | some basis =>
      have absent := same basis measured
      rw [unmeasured] at absent
      cases absent

end Basis

/-! ### Operators -/

theorem basis?_symbolic (left : Length) (operator : Char) (right : String) :
    (symbolic left operator right).basis? = none := rfl

/-- A sum or a difference has a basis just when its operands share it. -/
theorem basis?_combine (operator : Char) (operation : Binary64 → Binary64 → Binary64)
    (left right : Length) (basis : Basis) :
    (combine operator operation left right).basis? = some basis ↔
      left.basis? = some basis ∧ right.basis? = some basis := by
  unfold combine
  split
  case h_1 a leftUnit b rightUnit =>
    by_cases same : leftUnit = rightUnit
    · simp only [same, ↓reduceIte, basis?, and_self]
    · rw [if_neg same, basis?_symbolic]
      simp only [basis?, reduceCtorEq, Option.some.injEq, false_iff]
      rintro ⟨rfl, units⟩
      exact same (Basis.unit.inj units).symm
  case h_2 a b => simp only [basis?, and_self]
  case h_3 mixedUnits mixedPercentages =>
    rw [basis?_symbolic]
    simp only [reduceCtorEq, false_iff]
    rintro ⟨leftBasis, rightBasis⟩
    cases basis with
    | unit unit =>
        obtain ⟨a, rfl⟩ := basis?_eq_unit_iff.mp leftBasis
        obtain ⟨b, rfl⟩ := basis?_eq_unit_iff.mp rightBasis
        exact mixedUnits a unit b unit rfl rfl
    | hundredths =>
        obtain ⟨a, rfl⟩ := basis?_eq_hundredths_iff.mp leftBasis
        obtain ⟨b, rfl⟩ := basis?_eq_hundredths_iff.mp rightBasis
        exact mixedPercentages a b rfl rfl

/-- A product of two lengths has a basis only if both are percentages. -/
theorem basis?_mul (left right : Length) (basis : Basis) :
    (mul left right).basis? = some basis ↔
      basis = .hundredths ∧ left.basis? = some basis ∧ right.basis? = some basis := by
  unfold mul
  split
  case h_1 a b =>
    simp only [basis?, Option.some.injEq]
    constructor
    · intro same
      exact ⟨same.symm, same, same⟩
    · rintro ⟨_, same, _⟩
      exact same
  case h_2 mixed =>
    rw [basis?_symbolic]
    simp only [reduceCtorEq, false_iff]
    rintro ⟨rfl, leftBasis, rightBasis⟩
    obtain ⟨a, rfl⟩ := basis?_eq_hundredths_iff.mp leftBasis
    obtain ⟨b, rfl⟩ := basis?_eq_hundredths_iff.mp rightBasis
    exact mixed a b rfl rfl

/-- An operator gives a number just when its operands share a basis, which for a product is that of
percentages. -/
theorem basis?_apply (operator : Operator) (left right : Length) (basis : Basis) :
    (operator.apply left right).basis? = some basis ↔
      (operator = .times → basis = .hundredths) ∧
        left.basis? = some basis ∧ right.basis? = some basis := by
  cases operator with
  | plus =>
      simp only [reduceCtorEq, false_implies, true_and]
      exact basis?_combine '+' (· + ·) left right basis
  | minus =>
      simp only [reduceCtorEq, false_implies, true_and]
      exact basis?_combine '-' (· - ·) left right basis
  | times =>
      simp only [true_implies]
      exact basis?_mul left right basis

/-- A product by a number keeps the basis, or the lack of one. -/
theorem basis?_scale (length : Length) (factor : Binary64) :
    (scale length factor).basis? = length.basis? := by
  cases length <;> rfl

/-- An operator other than a division gives a number or a `calc()`. -/
theorem Application.calculation_of_basis?_eq_none (application : Application)
    (unmeasured : application.result.basis? = none) :
    ∃ expression, application.result = calculation expression := by
  rcases application.result_cases with written | numeric
  · exact ⟨_, written⟩
  · rw [basis?_eq_none_iff.mp unmeasured] at numeric
    exact (Bool.false_ne_true numeric).elim

/-- A division by a number other than zero has a result, with the number divided and on the same
basis; a length without a number is its own quotient. -/
theorem divide_accepted (length : Length) {divisor : Binary64} (number : divisor ≠ .nan)
    (nonzero : (divisor == 0) = false) :
    ∃ quotient, length.divide divisor = .ok quotient ∧ quotient.value.basis? = length.basis? ∧
      quotient.value.number? = length.number?.map (· / divisor) ∧
      (length.basis? = none → quotient.value = length) := by
  unfold divide
  rw [if_neg number, nonzero, if_neg Bool.false_ne_true]
  refine ⟨_, rfl, ?_⟩
  cases length with
  | dimension | percentage => exact ⟨rfl, rfl, fun absent => (Option.some_ne_none _ absent).elim⟩
  | keyword | calculation | wide => exact ⟨rfl, rfl, fun _ => rfl⟩

/-! ### Expressions -/

namespace Expression

/-- The divisors in the expression are numbers other than zero. -/
def Accepted : Expression → Prop
  | given _ => True
  | lengths _ left right => left.Accepted ∧ right.Accepted
  | scaled length _ => length.Accepted
  | divided length divisor => length.Accepted ∧ divisor ≠ .nan ∧ (divisor == 0) = false

/-- The lengths that the expression joins. -/
def leaves : Expression → List Length
  | given length => [length]
  | lengths _ left right => left.leaves ++ right.leaves
  | scaled length _ | divided length _ => length.leaves

/-- A length is multiplied by a length somewhere in the expression. -/
def MultipliesLengths : Expression → Prop
  | given _ => False
  | lengths operator left right =>
    operator = .times ∨ left.MultipliesLengths ∨ right.MultipliesLengths
  | scaled length _ | divided length _ => length.MultipliesLengths

/-- The one length of an expression that does nothing but divide it. -/
def dividedLeaf? : Expression → Option Length
  | given length => some length
  | divided length _ => length.dividedLeaf?
  | lengths _ _ _ | scaled _ _ => none

/-- The parts of an expression that are expressions, itself among them. -/
def parts : Expression → List Expression
  | whole@(given _) => [whole]
  | whole@(lengths _ left right) => whole :: (left.parts ++ right.parts)
  | whole@(scaled length _) | whole@(divided length _) => whole :: length.parts

/-- All lengths of the expression are numbers in the unit, and none is multiplied by another. -/
def InUnit (unit : LengthUnit) (expression : Expression) : Prop :=
  (∀ leaf ∈ expression.leaves, ∃ number, leaf = dimension number unit) ∧
    ¬ expression.MultipliesLengths

/-- All lengths of the expression are percentages. -/
def InHundredths (expression : Expression) : Prop :=
  ∀ leaf ∈ expression.leaves, ∃ number, leaf = percentage number

/-- All lengths of the expression have a number on the basis, and they are multiplied by one another
only if they are percentages. -/
def OnBasis (basis : Basis) (expression : Expression) : Prop :=
  (∀ leaf ∈ expression.leaves, leaf.basis? = some basis) ∧
    (expression.MultipliesLengths → basis = .hundredths)

/-- An expression on the basis of a unit has lengths in this unit only. -/
theorem onBasis_unit_iff {expression : Expression} {unit : LengthUnit} :
    expression.OnBasis (.unit unit) ↔ expression.InUnit unit := by
  simp only [OnBasis, InUnit, basis?_eq_unit_iff, reduceCtorEq, imp_false]

/-- An expression on the basis of hundredths has percentages only. -/
theorem onBasis_hundredths_iff {expression : Expression} :
    expression.OnBasis .hundredths ↔ expression.InHundredths := by
  simp only [OnBasis, InHundredths, basis?_eq_hundredths_iff, implies_true, and_true]

/-- An operator on two expressions is on a basis just when both are, and a product only on that of
percentages. -/
theorem onBasis_lengths_iff {operator : Operator} {left right : Expression} {basis : Basis} :
    (lengths operator left right).OnBasis basis ↔
      (operator = .times → basis = .hundredths) ∧ left.OnBasis basis ∧ right.OnBasis basis := by
  simp only [OnBasis, leaves, MultipliesLengths, List.mem_append, or_imp, forall_and]
  constructor
  · rintro ⟨⟨leftLeaves, rightLeaves⟩, times, leftTimes, rightTimes⟩
    exact ⟨times, ⟨leftLeaves, leftTimes⟩, rightLeaves, rightTimes⟩
  · rintro ⟨times, ⟨leftLeaves, leftTimes⟩, rightLeaves, rightTimes⟩
    exact ⟨⟨leftLeaves, rightLeaves⟩, times, leftTimes, rightTimes⟩

/-- What an expression hands down to its operands holds of all of its parts. -/
theorem forall_mem_parts {Holds : Expression → Prop}
    (operands : ∀ operator left right, Holds (lengths operator left right) →
      Holds left ∧ Holds right)
    (scaledLength : ∀ length factor, Holds (scaled length factor) → Holds length)
    (dividedLength : ∀ length divisor, Holds (divided length divisor) → Holds length)
    {expression : Expression} (holds : Holds expression) :
    ∀ inner ∈ expression.parts, Holds inner := by
  induction expression with
  | given length =>
      intro inner member
      rw [List.mem_singleton.mp member]
      exact holds
  | lengths operator left right leftParts rightParts =>
      obtain ⟨leftHolds, rightHolds⟩ := operands operator left right holds
      intro inner member
      rcases List.mem_cons.mp member with rfl | deeper
      · exact holds
      · rcases List.mem_append.mp deeper with inLeft | inRight
        · exact leftParts leftHolds inner inLeft
        · exact rightParts rightHolds inner inRight
  | scaled length factor lengthParts =>
      intro inner member
      rcases List.mem_cons.mp member with rfl | deeper
      · exact holds
      · exact lengthParts (scaledLength length factor holds) inner deeper
  | divided length divisor lengthParts =>
      intro inner member
      rcases List.mem_cons.mp member with rfl | deeper
      · exact holds
      · exact lengthParts (dividedLength length divisor holds) inner deeper

theorem OnBasis.parts {expression : Expression} {basis : Basis}
    (measured : expression.OnBasis basis) : ∀ inner ∈ expression.parts, inner.OnBasis basis :=
  forall_mem_parts (fun _ _ _ whole => (onBasis_lengths_iff.mp whole).2) (fun _ _ whole => whole)
    (fun _ _ whole => whole) measured

theorem Accepted.parts {expression : Expression} (accepted : expression.Accepted) :
    ∀ inner ∈ expression.parts, inner.Accepted :=
  forall_mem_parts (fun _ _ _ whole => whole) (fun _ _ whole => whole) (fun _ _ whole => whole.1)
    accepted

/-- What the value of an expression is. -/
structure Classifies (expression : Expression) (value : Length) : Prop where
  basis : ∀ basis, value.basis? = some basis ↔ expression.OnBasis basis
  leaf : ∀ leaf, expression.dividedLeaf? = some leaf →
    value.basis? = leaf.basis? ∧ (leaf.basis? = none → value = leaf)
  symbolic : expression.dividedLeaf? = none → value.basis? = none →
    ∃ text, value = calculation text

/-- An expression with accepted divisors has a value, which the expression classifies. -/
theorem evaluate_classifies (expression : Expression) (accepted : expression.Accepted) :
    ∃ value, expression.evaluate = .ok value ∧ expression.Classifies value := by
  induction expression with
  | given length =>
      refine ⟨length, rfl, ?_, ?_, ?_⟩
      · intro basis
        simp only [OnBasis, leaves, MultipliesLengths, List.mem_singleton, forall_eq, false_implies,
          and_true]
      · intro leaf same
        obtain rfl := Option.some.inj same
        exact ⟨rfl, fun _ => rfl⟩
      · intro absent
        cases absent
  | lengths operator left right leftValue rightValue =>
      obtain ⟨a, leftEvaluated, leftClass⟩ := leftValue accepted.1
      obtain ⟨b, rightEvaluated, rightClass⟩ := rightValue accepted.2
      refine ⟨operator.apply a b, ?_, ?_, ?_, ?_⟩
      · exact bind_eq_ok.mpr ⟨a, leftEvaluated, bind_eq_ok.mpr ⟨b, rightEvaluated, rfl⟩⟩
      · intro basis
        rw [basis?_apply, leftClass.basis, rightClass.basis, onBasis_lengths_iff]
      · intro leaf absent
        cases absent
      · intro _ unmeasured
        exact Application.calculation_of_basis?_eq_none (.lengths operator a b) unmeasured
  | scaled length factor lengthValue =>
      obtain ⟨a, evaluated, lengthClass⟩ := lengthValue accepted
      refine ⟨a * factor, bind_eq_ok.mpr ⟨a, evaluated, rfl⟩, ?_, ?_, ?_⟩
      · intro basis
        exact (basis?_scale a factor ▸ lengthClass.basis basis)
      · intro leaf absent
        cases absent
      · intro _ unmeasured
        exact Application.calculation_of_basis?_eq_none (.scaled a factor) unmeasured
  | divided length divisor lengthValue =>
      obtain ⟨a, evaluated, lengthClass⟩ := lengthValue accepted.1
      obtain ⟨quotient, divided, basis, _, kept⟩ := divide_accepted a accepted.2.1 accepted.2.2
      -- A division keeps the basis of a number, and all of a length without one.
      refine ⟨quotient.value,
        bind_eq_ok.mpr ⟨a, evaluated, bind_eq_ok.mpr ⟨quotient, divided, rfl⟩⟩, ?_, ?_, ?_⟩
      · intro wanted
        rw [basis]
        exact lengthClass.basis wanted
      · intro leaf only
        obtain ⟨sameBasis, keptLeaf⟩ := lengthClass.leaf leaf only
        refine ⟨basis.trans sameBasis, fun unmeasured => ?_⟩
        rw [kept (sameBasis.trans unmeasured), keptLeaf unmeasured]
      · intro notLeaf unmeasured
        rw [basis] at unmeasured
        obtain ⟨text, written⟩ := lengthClass.symbolic notLeaf unmeasured
        exact ⟨text, (kept unmeasured).trans written⟩

/-- A value is a `calc()` if its expression is on no basis and no lone length without a number. -/
theorem Classifies.calculation {expression : Expression} {value : Length}
    (shape : expression.Classifies value) (noUnit : ∀ unit, ¬ expression.InUnit unit)
    (noHundredths : ¬ expression.InHundredths)
    (noLeaf : ∀ leaf, expression.dividedLeaf? = some leaf → leaf.isNumeric = true) :
    ∃ text, value = .calculation text := by
  have unmeasured : value.basis? = none := by
    cases measured : value.basis? with
    | none => rfl
    | some basis =>
        have onBasis := (shape.basis basis).mp measured
        cases basis with
        | unit unit => exact (noUnit unit (onBasis_unit_iff.mp onBasis)).elim
        | hundredths => exact (noHundredths (onBasis_hundredths_iff.mp onBasis)).elim
  cases only : expression.dividedLeaf? with
  | none => exact shape.symbolic only unmeasured
  | some leaf =>
      rw [(shape.leaf leaf only).1, basis?_eq_none_iff, noLeaf leaf only] at unmeasured
      cases unmeasured

/-- **The lengths of an expression decide the shape of its value.** When no divisor is zero or `nan`
there is a value.  It is a number in a unit just when all lengths are in that unit and no two
lengths are multiplied, and a percentage just when all lengths are percentages.  A keyword, a
`calc()` or a CSS-wide keyword under divisions alone is the value itself; in every other case the
value is a `calc()`.  Once a part of the expression has no number, the whole has none, and if the
whole has a number then every part has one on the same basis. -/
theorem leaves_decide_shape (expression : Expression) (accepted : expression.Accepted) :
    ∃ value, expression.evaluate = .ok value ∧
      (∀ unit, (∃ number, value = dimension number unit) ↔ expression.InUnit unit) ∧
      ((∃ number, value = percentage number) ↔ expression.InHundredths) ∧
      (∀ leaf, expression.dividedLeaf? = some leaf → leaf.isNumeric = false → value = leaf) ∧
      ((∀ unit, ¬ expression.InUnit unit) → ¬ expression.InHundredths →
        (∀ leaf, expression.dividedLeaf? = some leaf → leaf.isNumeric = true) →
        ∃ text, value = calculation text) ∧
      ∀ inner ∈ expression.parts, ∃ part, inner.evaluate = .ok part ∧
        (part.isNumeric = false → value.isNumeric = false) ∧
        ∀ basis, value.basis? = some basis → part.basis? = some basis := by
  obtain ⟨value, evaluated, shape⟩ := evaluate_classifies expression accepted
  refine ⟨value, evaluated, ?_, ?_, ?_, ?_, ?_⟩
  · intro unit
    rw [← basis?_eq_unit_iff, shape.basis, onBasis_unit_iff]
  · rw [← basis?_eq_hundredths_iff, shape.basis, onBasis_hundredths_iff]
  · intro leaf only unmeasured
    exact (shape.leaf leaf only).2 (basis?_eq_none_iff.mpr unmeasured)
  · exact shape.calculation
  · intro inner member
    obtain ⟨part, innerEvaluated, innerShape⟩ :=
      inner.evaluate_classifies (accepted.parts inner member)
    have sameBasis : ∀ basis, value.basis? = some basis → part.basis? = some basis :=
      fun basis measured =>
        (innerShape.basis basis).mpr (((shape.basis basis).mp measured).parts inner member)
    exact ⟨part, innerEvaluated, isNumeric_eq_false_of_basis? sameBasis, sameBasis⟩

/-- `(1px + 2px * 3) / 2` is a number of pixels, and `auto / 2` is `auto` but makes a `calc()` of
the sum that it is a term of. -/
theorem leaves_decide_shape_nested :
    let pixels := divided (lengths .plus (given (px 1)) (scaled (given (px 2)) 3)) 2
    let leaf := divided (given auto) 2
    let sum := lengths .plus pixels leaf
    (pixels.Accepted ∧ ∃ number, pixels.evaluate = .ok (dimension number .px)) ∧
      (leaf.Accepted ∧ leaf.evaluate = .ok auto) ∧
      (sum.Accepted ∧ ∃ text, sum.evaluate = .ok (calculation text)) := by
  intro pixels leaf sum
  have divisor : (2 : Binary64) ≠ .nan ∧ ((2 : Binary64) == 0) = false := by decide +kernel
  have pixelsAccepted : pixels.Accepted := ⟨⟨trivial, trivial⟩, divisor⟩
  have leafAccepted : leaf.Accepted := ⟨trivial, divisor⟩
  obtain ⟨value, evaluated, inUnit, _⟩ := leaves_decide_shape pixels pixelsAccepted
  obtain ⟨kept, leafEvaluated, _, _, only, _⟩ := leaves_decide_shape leaf leafAccepted
  obtain ⟨total, sumEvaluated, _, _, _, others, _⟩ :=
    leaves_decide_shape sum ⟨pixelsAccepted, leafAccepted⟩
  have allPixels : pixels.InUnit .px := by
    refine ⟨?_, by simp [pixels, MultipliesLengths]⟩
    intro given member
    simp only [pixels, leaves, List.cons_append, List.nil_append, List.mem_cons, List.not_mem_nil,
      or_false] at member
    rcases member with rfl | rfl <;> exact ⟨_, rfl⟩
  have autoLeaf : auto ∈ sum.leaves := by simp [sum, leaf, leaves]
  refine ⟨⟨pixelsAccepted, ?_⟩, ⟨leafAccepted, ?_⟩, ⟨pixelsAccepted, leafAccepted⟩, ?_⟩
  · obtain ⟨number, rfl⟩ := (inUnit .px).mpr allPixels
    exact ⟨number, evaluated⟩
  · rw [leafEvaluated, only auto rfl rfl]
  · obtain ⟨text, rfl⟩ := others
      (fun unit all => by obtain ⟨number, same⟩ := all.1 auto autoLeaf; cases same)
      (fun all => by obtain ⟨number, same⟩ := all auto autoLeaf; cases same)
      (fun absent none => by cases none)
    exact ⟨text, sumEvaluated⟩

end Expression
end CssValue.Length
