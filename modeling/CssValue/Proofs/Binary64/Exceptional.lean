import CssValue.Proofs.Binary64.Monotone
import CssValue.Proofs.Binary64.Reading

/-!
# Results that are no finite numbers

An operation on numbers gives `nan` only where the exact result is undetermined: an infinity less
itself, an infinity times zero, and the quotient of two infinities or of two zeros.  A quotient of
finite numbers is infinite just when the exact quotient reaches the overflow threshold, halfway
between the greatest finite number and the power of two at which the finite numbers end.
-/

namespace CssValue

/-- A quotient that falls short of the middle behind a whole number is not rounded beyond it. -/
theorem nearestEven_le_of_lt_half {numerator denominator bound : Nat}
    (below : 2 * numerator < (2 * bound + 1) * denominator) :
    nearestEven numerator denominator ≤ bound := by
  have positive : 0 < denominator := Nat.pos_of_mul_pos_left (Nat.zero_lt_of_lt below)
  have floor : numerator / denominator ≤ bound :=
    Nat.le_of_lt_succ ((Nat.div_lt_iff_lt_mul positive).mpr (by grind))
  rcases Nat.lt_or_eq_of_le floor with less | same
  · exact Nat.le_trans (nearestEven_le _ _) less
  · have whole := Nat.div_add_mod numerator denominator
    have short : 2 * (numerator % denominator) < denominator := by
      rw [same] at whole
      grind
    simp only [nearestEven, if_pos short]
    exact floor

namespace Binary64

/-- The least positive number counts one quantum. -/
theorem counts_quantum : Counts (ofQuotient false 1 1) 1 :=
  counts_of_rank (by decide +kernel) (by decide +kernel)

/-! ### Results that are undetermined -/

/-- A quotient is rounded to a number or an infinity, never to `nan`. -/
theorem ofQuotient_ne_nan (negative : Bool) (numerator denominator : Nat) :
    ofQuotient negative numerator denominator ≠ nan := by
  unfold ofQuotient
  cases Magnitude.ofQuotient? numerator denominator <;> exact fun same => nomatch same

/-- A finite number equals zero just when it counts no quantum. -/
theorem finite_beq_zero_iff {negative : Bool} {magnitude : Magnitude} :
    finite negative magnitude == 0 ↔ magnitude.quanta = 0 := by
  constructor
  · intro none
    obtain ⟨rank, ranked, zeroRanked⟩ := beq_iff_rank.mp none
    obtain rfl := Option.some.inj (counts_zero.rank?_eq.symm.trans zeroRanked)
    have quanta := natAbs_signedQuanta negative magnitude
    rw [Option.some.inj ranked] at quanta
    exact quanta.symm
  · intro none
    have zeros : magnitude = .zero := Magnitude.ext none
    rw [zeros]
    exact zero_beq negative

theorem infinity_beq_zero (negative : Bool) : (infinity negative == 0) = false := by
  cases negative <;> decide +kernel

variable {x y : Binary64} {left right : Int}

theorem exists_counts (finite : x.isFinite) : ∃ quanta, Counts x quanta := by
  cases x with
  | finite negative magnitude => exact ⟨_, negative, magnitude, rfl, rfl⟩
  | _ => cases finite

theorem Counts.ne_nan (counts : Counts x left) : x ≠ nan := by
  obtain ⟨negative, magnitude, rfl, _⟩ := counts
  exact fun same => nomatch same

theorem Counts.ne_infinity {negative : Bool} (counts : Counts x left) : x ≠ infinity negative := by
  obtain ⟨sign, magnitude, rfl, _⟩ := counts
  exact fun same => nomatch same

/-- A number that counts quanta equals zero just when it counts none. -/
theorem Counts.beq_zero_iff (counts : Counts x left) : x == 0 ↔ left = 0 := by
  rw [beq_iff_rank, counts.rank?_eq, counts_zero.rank?_eq]
  simp [eq_comm]

/-- Everything but `nan` has its place in the order. -/
theorem exists_rank_of_ne_nan (number : x ≠ nan) : ∃ rank, x.rank? = some rank := by
  cases ranked : x.rank? with
  | none => exact (number (rank?_eq_none_iff.mp ranked)).elim
  | some rank => exact ⟨rank, rfl⟩

/-- A sum is `nan` just when a term is, or when the terms are opposite infinities. -/
theorem add_eq_nan_iff :
    x + y = nan ↔
      x = nan ∨ y = nan ∨ ∃ negative, x = infinity negative ∧ y = infinity (!negative) := by
  change add x y = nan ↔ _
  cases x with
  | nan => simp [add]
  | infinity s =>
      cases y with
      | infinity t => cases s <;> cases t <;> simp [add]
      | _ => simp [add]
  | finite s a =>
      cases y with
      | finite t b =>
          simp only [add]
          split <;> simp [zero, ofQuotient_ne_nan]
      | _ => simp [add]

/-- A product is `nan` just when a factor is, or when an infinity is multiplied by a zero. -/
theorem mul_eq_nan_iff :
    x * y = nan ↔
      x = nan ∨ y = nan ∨ ((∃ negative, x = infinity negative) ∧ y == 0) ∨
        (x == 0 ∧ ∃ negative, y = infinity negative) := by
  change mul x y = nan ↔ _
  cases x with
  | nan => simp [mul]
  | infinity s => cases y <;> simp [mul, infinity_beq_zero, finite_beq_zero_iff]
  | finite s a => cases y <;> simp [mul, finite_beq_zero_iff, ofQuotient_ne_nan]

/-- A quotient is `nan` just when an operand is, or of two infinities, or of two zeros. -/
theorem div_eq_nan_iff :
    x / y = nan ↔
      x = nan ∨ y = nan ∨ (∃ negative sign, x = infinity negative ∧ y = infinity sign) ∨
        (x == 0 ∧ y == 0) := by
  change div x y = nan ↔ _
  cases x with
  | nan => simp [div]
  | infinity s => cases y <;> simp [div, infinity_beq_zero]
  | finite s a =>
      cases y with
      | finite t b =>
          simp only [div, finite_beq_zero_iff]
          split
          case isTrue none => split <;> simp_all
          case isFalse => simp_all [ofQuotient_ne_nan]
      | _ => simp [div, zero, infinity_beq_zero]

/-- A finite term does not make a sum `nan`. -/
theorem Counts.add_eq_nan_iff (counts : Counts x left) : x + y = nan ↔ y = nan := by
  simp [Binary64.add_eq_nan_iff, counts.ne_nan, counts.ne_infinity]

/-- A finite factor other than zero does not make a product `nan`. -/
theorem Counts.mul_eq_nan_iff (counts : Counts y right) (nonzero : right ≠ 0) :
    x * y = nan ↔ x = nan := by
  simp [Binary64.mul_eq_nan_iff, counts.ne_nan, counts.ne_infinity, counts.beq_zero_iff, nonzero]

/-- The product of two finite numbers is not `nan`, although it may be an infinity. -/
theorem Counts.mul_ne_nan (first : Counts x left) (second : Counts y right) : x * y ≠ nan := by
  simp [Binary64.mul_eq_nan_iff, first.ne_nan, first.ne_infinity, second.ne_nan,
    second.ne_infinity]

/-- An infinity taken from a finite number leaves the opposite infinity. -/
theorem Counts.sub_infinity {negative : Bool} (counts : Counts x left) :
    x - infinity negative = infinity (!negative) := by
  obtain ⟨sign, magnitude, rfl, _⟩ := counts
  rfl

theorem infinity_add_opposite (negative : Bool) :
    infinity negative + infinity (!negative) = nan :=
  add_eq_nan_iff.mpr (Or.inr (Or.inr ⟨negative, rfl, rfl⟩))

/-- The only finite number whose product with an infinity is `nan` is zero. -/
theorem infinity_mul_eq_nan_iff {negative : Bool} (counts : Counts x left) :
    infinity negative * x = nan ↔ left = 0 := by
  simp [mul_eq_nan_iff, counts.ne_nan, counts.ne_infinity, counts.beq_zero_iff]

/-- A positive factor keeps an infinity. -/
theorem infinity_mul_of_pos {negative : Bool} (counts : Counts x left) (positive : 0 < left) :
    infinity negative * x = infinity negative := by
  obtain ⟨sign, magnitude, rfl, rfl⟩ := counts
  cases sign with
  | true =>
      simp only [signedQuanta, ↓reduceIte] at positive
      omega
  | false =>
      have nonzero : magnitude.quanta ≠ 0 := by
        intro none
        simp [signedQuanta, none] at positive
      change mul _ _ = _
      rw [mul, if_neg nonzero, Bool.bne_false]

/-! ### Quotients that overflow -/

/-- The least value that is rounded beyond the finite numbers.  The greatest finite number has
fifty-three bits, all set, and this is half of its last bit more. -/
def overflowThreshold : Nat := (1 <<< 54 - 1) <<< 970

theorem lt_one_shiftLeft_of_log2_lt {quanta scale : Nat} (small : quanta.log2 < scale) :
    quanta < 1 <<< scale := by
  rw [Nat.one_shiftLeft]
  exact Nat.lt_of_lt_of_le Nat.lt_log2_self (Nat.pow_le_pow_right Nat.two_pos small)

/-- At the threshold a quotient is rounded up to the limit of the finite numbers. -/
theorem nearestQuanta_overflowThreshold :
    nearestQuanta (overflowThreshold * quantaOfOne) 1 = quantaLimit := by
  decide +kernel

/-- The threshold lies on the last binade. -/
theorem log2_overflowThreshold : (overflowThreshold * quantaOfOne).log2 = 2097 := by
  decide +kernel

/-- A quotient of quanta below the threshold is rounded to a finite number. -/
theorem nearestQuanta_lt_limit {numerator denominator : Nat} (positive : 0 < denominator)
    (below : numerator < overflowThreshold * quantaOfOne * denominator) :
    nearestQuanta numerator denominator < quantaLimit := by
  have floor : numerator / denominator < overflowThreshold * quantaOfOne :=
    (Nat.div_lt_iff_lt_mul positive).mpr below
  by_cases top : (numerator / denominator).log2 = 2097
  · -- The neighbours of the quotient are as far apart as those of the greatest finite number.
    have step : spacing (numerator / denominator) = 1 <<< 2045 := by rw [spacing, top]
    have half : 2 * (overflowThreshold * quantaOfOne) =
        (2 * (1 <<< 53 - 1) + 1) * 1 <<< 2045 := by
      decide +kernel
    have rounded : nearestEven numerator (denominator * 1 <<< 2045) ≤ 1 <<< 53 - 1 := by
      refine nearestEven_le_of_lt_half ?_
      rw [Nat.mul_comm denominator, ← Nat.mul_assoc, ← half, Nat.mul_assoc]
      exact Nat.mul_lt_mul_of_pos_left below Nat.two_pos
    have greatest : (1 <<< 53 - 1) * 1 <<< 2045 < quantaLimit := by decide +kernel
    simp only [nearestQuanta, step]
    exact Nat.lt_of_le_of_lt (Nat.mul_le_mul_right _ rounded) greatest
  · have logs := log2_mono (Nat.le_of_lt floor)
    have small : (numerator / denominator).log2 < 2097 := by
      rw [log2_overflowThreshold] at logs
      omega
    have rounded : nearestQuanta numerator denominator ≤ 1 <<< 2097 :=
      nearestQuanta_le_of_dvd positive (spacing_dvd_one_shiftLeft (by omega))
        (Nat.le_of_lt ((Nat.div_lt_iff_lt_mul positive).mp (lt_one_shiftLeft_of_log2_lt small)))
    exact Nat.lt_of_le_of_lt rounded (by decide +kernel)

/-- A quotient of quanta is rounded beyond the finite numbers just when it reaches the threshold. -/
theorem nearestQuanta_lt_limit_iff {numerator denominator : Nat} (positive : 0 < denominator) :
    nearestQuanta numerator denominator < quantaLimit ↔
      numerator < overflowThreshold * quantaOfOne * denominator := by
  refine ⟨fun inside => ?_, nearestQuanta_lt_limit positive⟩
  refine Nat.lt_of_not_le fun reached => Nat.not_le_of_lt inside ?_
  rw [← nearestQuanta_overflowThreshold, ← nearestQuanta_mul_mul _ _ positive, Nat.one_mul]
  exact nearestQuanta_mono denominator reached

/-- The exact quotient of two numbers, without its sign, is below the overflow threshold.  Quotients
of infinities, and quotients by a zero or by `nan`, are not. -/
def QuotientFits : Binary64 → Binary64 → Prop
  | finite _ x, finite _ y => x.quanta < overflowThreshold * y.quanta
  | finite _ _, infinity _ => True
  | _, _ => False

theorem isFinite_ofQuotient {negative : Bool} {numerator denominator : Nat} :
    (ofQuotient negative numerator denominator).isFinite ↔
      nearestQuanta numerator denominator < quantaLimit := by
  unfold ofQuotient Magnitude.ofQuotient?
  by_cases inside : nearestQuanta numerator denominator < quantaLimit
  · rw [dif_pos inside]
    exact iff_of_true rfl inside
  · rw [dif_neg inside]
    exact iff_of_false Bool.false_ne_true inside

/-- A quotient of a finite number is finite just when the exact quotient is below the threshold. -/
theorem isFinite_div_iff (finite : x.isFinite) : (x / y).isFinite ↔ QuotientFits x y := by
  obtain ⟨quanta, s, a, rfl, _⟩ := exists_counts finite
  change (div _ y).isFinite ↔ _
  cases y with
  | nan => exact iff_of_false Bool.false_ne_true id
  | infinity t => exact iff_of_true rfl trivial
  | finite t b =>
      simp only [div, QuotientFits]
      by_cases none : b.quanta = 0
      · rw [if_pos none, none, Nat.mul_zero]
        refine iff_of_false ?_ (Nat.not_lt_zero _)
        split <;> exact Bool.false_ne_true
      · have positive : 0 < b.quanta := Nat.pos_of_ne_zero none
        rw [if_neg none, isFinite_ofQuotient, nearestQuanta_lt_limit_iff positive,
          Nat.mul_right_comm, Nat.mul_lt_mul_right quantaOfOne_pos]

/-- Every finite number is below the threshold. -/
theorem quanta_lt_overflowThreshold (magnitude : Magnitude) :
    magnitude.quanta < overflowThreshold * quantaOfOne := by
  have unrounded := nearestQuanta_exact Nat.one_pos magnitude.spacing_dvd
  rw [Nat.mul_one] at unrounded
  have inside : nearestQuanta magnitude.quanta 1 < quantaLimit := by
    rw [unrounded]
    exact magnitude.quanta_lt
  rwa [nearestQuanta_lt_limit_iff Nat.one_pos, Nat.mul_one] at inside

/-- A divisor that is not below one in size gives no quotient beyond the finite numbers. -/
theorem quotientFits_of_one_le_abs (finite : x.isFinite) (large : 1 ≤ y.abs) :
    QuotientFits x y := by
  obtain ⟨_, s, a, rfl, _⟩ := exists_counts finite
  cases y with
  | nan =>
      obtain ⟨_, _, _, unranked, _⟩ := exists_rank_of_le large
      cases unranked
  | infinity t => exact trivial
  | finite t b =>
      have one : Counts 1 (1 * quantaOfOne) := counts_ofInt (n := 1) (by decide)
      have size : Counts (.finite false b) b.quanta := ⟨false, b, rfl, rfl⟩
      have whole := (one.le_iff size).mp large
      rw [Int.one_mul, Int.ofNat_le] at whole
      exact Nat.lt_of_lt_of_le (quanta_lt_overflowThreshold a) (Nat.mul_le_mul_left _ whole)

theorem zero_div (negative : Bool) (number : y ≠ nan) (nonzero : ¬ y == 0) :
    ∃ sign, zero negative / y = zero sign := by
  change ∃ sign, div _ y = zero sign
  cases y with
  | nan => exact (number rfl).elim
  | infinity t => exact ⟨_, rfl⟩
  | finite t b =>
      have divisor : b.quanta ≠ 0 := mt finite_beq_zero_iff.mpr nonzero
      have exact := ofQuotient_exact (negative != t) .zero (Nat.pos_of_ne_zero divisor)
      refine ⟨negative != t, ?_⟩
      rw [zero, div, if_neg divisor, zero, ← exact]
      simp only [Magnitude.zero, Nat.zero_mul]

end Binary64
end CssValue
