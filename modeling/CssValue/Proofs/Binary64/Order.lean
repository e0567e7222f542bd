import CssValue.Binary64.Basic

/-!
# Numerical order and exact values

Rounding leaves a number of the format as it is, so whole numbers of up to fifty-three bits are
exact.  The comparisons, the move into an interval and the cut to a whole number are described by
the rank of a number, its place in the numerical order.
-/

namespace CssValue

/-- A quotient without remainder needs no rounding. -/
theorem nearestEven_mul (whole : Nat) {denominator : Nat} (positive : 0 < denominator) :
    nearestEven (whole * denominator) denominator = whole := by
  simp only [nearestEven, Nat.mul_div_cancel _ positive, Nat.mul_mod_left, Nat.mul_zero, positive,
    ↓reduceIte]

namespace Binary64

/-- A quotient that lies on its grid is not rounded. -/
theorem nearestQuanta_exact {quanta denominator : Nat} (positive : 0 < denominator)
    (onGrid : spacing quanta ∣ quanta) :
    nearestQuanta (quanta * denominator) denominator = quanta := by
  have step : spacing (quanta * denominator / denominator) = spacing quanta := by
    rw [Nat.mul_div_cancel _ positive]
  have stepPositive : 0 < spacing quanta := by
    rw [spacing, Nat.one_shiftLeft]
    exact Nat.two_pow_pos _
  obtain ⟨count, steps⟩ := onGrid
  have counted : quanta * denominator = count * (denominator * spacing quanta) := by
    rw [Nat.mul_comm denominator, ← Nat.mul_assoc, Nat.mul_comm count, ← steps]
  simp only [nearestQuanta, step]
  rw [counted, nearestEven_mul _ (Nat.mul_pos positive stepPositive), Nat.mul_comm, ← steps]

/-- A quotient that is a magnitude of the format is rounded to that magnitude. -/
theorem ofQuotient_exact (negative : Bool) (magnitude : Magnitude) {denominator : Nat}
    (positive : 0 < denominator) :
    ofQuotient negative (magnitude.quanta * denominator) denominator =
      finite negative magnitude := by
  have rounded :
      Magnitude.ofQuotient? (magnitude.quanta * denominator) denominator = some magnitude := by
    have unrounded := nearestQuanta_exact positive magnitude.spacing_dvd
    have inRange : nearestQuanta (magnitude.quanta * denominator) denominator < quantaLimit := by
      rw [unrounded]
      exact magnitude.quanta_lt
    rw [Magnitude.ofQuotient?, dif_pos inRange, Option.some_inj]
    exact Magnitude.ext unrounded
  unfold ofQuotient
  rw [rounded]

/-- Whole numbers of up to fifty-three bits lie inside the finite range. -/
theorem mul_quantaOfOne_lt {whole : Nat} (bounded : whole ≤ 1 <<< 53) :
    whole * quantaOfOne < quantaLimit := by
  have largest : 1 <<< 53 * quantaOfOne < quantaLimit := by decide +kernel
  exact Nat.lt_of_le_of_lt (Nat.mul_le_mul_right quantaOfOne bounded) largest

/-- The magnitude of a whole number of up to fifty-three bits. -/
def wholeMagnitude (whole : Nat) (bounded : whole ≤ 1 <<< 53) : Magnitude where
  quanta := whole * quantaOfOne
  quanta_lt := mul_quantaOfOne_lt bounded
  spacing_dvd := by
    rw [quantaOfOne, Nat.one_shiftLeft, ← Nat.shiftLeft_eq]
    exact spacing_dvd_shiftLeft bounded

/-- A whole number up to `2 ^ 53` in size is a number of its own. -/
theorem ofInt_eq_finite {n : Int} (bounded : n.natAbs ≤ 1 <<< 53) :
    ofInt n = finite (n < 0) (wholeMagnitude n.natAbs bounded) := by
  have unrounded :=
    ofQuotient_exact (decide (n < 0)) (wholeMagnitude n.natAbs bounded) Nat.one_pos
  rwa [Nat.mul_one] at unrounded

/-- The rank of a whole number of up to fifty-three bits is its number of quanta. -/
theorem rank?_ofInt {n : Int} (bounded : n.natAbs ≤ 1 <<< 53) :
    (ofInt n).rank? = some (n * quantaOfOne) := by
  rw [ofInt_eq_finite bounded]
  simp only [rank?, signedQuanta, wholeMagnitude, decide_eq_true_eq, Int.natCast_mul]
  split
  case isTrue negative =>
    rw [← Int.neg_mul, Int.ofNat_natAbs_of_nonpos (Int.le_of_lt negative), Int.neg_neg]
  case isFalse positive => rw [Int.natAbs_of_nonneg (Int.not_lt.mp positive)]

theorem rank?_eq_none_iff {x : Binary64} : x.rank? = none ↔ x = nan := by
  cases x <;> simp [rank?]

variable {x y : Binary64} {left right : Int}

/-- Numbers are strictly ordered as their ranks are. -/
theorem lt_iff_rank (first : x.rank? = some left) (second : y.rank? = some right) :
    x < y ↔ left < right := by
  change compareBy _ x y = true ↔ _
  rw [compareBy, first, second, decide_eq_true_eq]

/-- A number without rank is neither below nor above another. -/
theorem not_lt_of_rank_none (unordered : x.rank? = none) : ¬ x < y ∧ ¬ y < x := by
  constructor
  · change ¬ compareBy _ x y = true
    rw [compareBy, unordered]
    exact Bool.false_ne_true
  · change ¬ compareBy _ y x = true
    cases ranked : y.rank? <;> rw [compareBy, unordered, ranked] <;> exact Bool.false_ne_true

theorem clamp_nan (low high : Binary64) : clamp nan low high = nan := by
  have below := (not_lt_of_rank_none (y := low) (rfl : nan.rank? = none)).1
  have above := (not_lt_of_rank_none (y := high) (rfl : nan.rank? = none)).2
  rw [clamp, if_neg below, if_neg above]

/-- Moving a number into an interval moves its rank into the interval of the ranks. -/
theorem rank?_clamp {rank low high : Int} {lowest highest : Binary64}
    (ranked : x.rank? = some rank) (lowRanked : lowest.rank? = some low)
    (highRanked : highest.rank? = some high) (ordered : low ≤ high) :
    (x.clamp lowest highest).rank? = some (max low (min high rank)) := by
  rw [clamp]
  by_cases below : x < lowest
  · have less := (lt_iff_rank ranked lowRanked).mp below
    rw [if_pos below, lowRanked]
    congr 1
    omega
  · have notLess := mt (lt_iff_rank ranked lowRanked).mpr below
    rw [if_neg below]
    by_cases above : highest < x
    · have greater := (lt_iff_rank highRanked ranked).mp above
      rw [if_pos above, highRanked]
      congr 1
      omega
    · have notGreater := mt (lt_iff_rank highRanked ranked).mpr above
      rw [if_neg above, ranked]
      congr 1
      omega

/-- A number between zero and the largest whole number of thirty-two bits loses its fraction. -/
theorem toInt32_eq_ediv {rank : Int} (ranked : x.rank? = some rank) (nonnegative : 0 ≤ rank)
    (bounded : rank ≤ 2147483647 * quantaOfOne) : x.toInt32 = rank / quantaOfOne := by
  have one : (0 : Int) < quantaOfOne := Int.natCast_pos.mpr quantaOfOne_pos
  have whole : 0 ≤ rank / quantaOfOne := Int.ediv_nonneg nonnegative (Int.le_of_lt one)
  have small : rank / quantaOfOne ≤ 2147483647 :=
    (Int.ediv_le_iff_le_mul one).mpr (by omega)
  cases x with
  | nan => exact (Option.some_ne_none rank ranked.symm).elim
  | infinity negative =>
      -- The rank of an infinity is the limit of the finite range, beyond all thirty-two bits.
      have beyond := mul_quantaOfOne_lt (show 2147483647 ≤ 1 <<< 53 by decide)
      cases negative <;> simp only [rank?, Option.some.injEq] at ranked <;> grind
  | finite negative magnitude =>
      simp only [rank?, Option.some.injEq] at ranked
      cases negative with
      | false =>
          rw [← ranked] at whole small ⊢
          simp only [signedQuanta, Bool.false_eq_true, ↓reduceIte] at whole small ⊢
          simp only [toInt32, truncateInto, Bool.false_eq_true, ↓reduceIte]
          omega
      | true =>
          have zero : magnitude.quanta = 0 := by
            simp only [signedQuanta, ↓reduceIte] at ranked
            omega
          rw [← ranked]
          simp only [toInt32, truncateInto, signedQuanta, zero, ↓reduceIte, Int.natCast_zero,
            Int.neg_zero, Int.zero_ediv]
          omega

/-! ### Numerical equality -/

/-- Numbers are equal just when they have the same rank. -/
theorem beq_iff_rank : x == y ↔ ∃ rank, x.rank? = some rank ∧ y.rank? = some rank := by
  change compareBy _ x y = true ↔ _
  unfold compareBy
  constructor
  · intro same
    split at same
    case h_1 left right first second =>
      have ranks : left = right := eq_of_beq same
      exact ⟨right, first.trans (congrArg some ranks), second⟩
    case h_2 => cases same
  · rintro ⟨rank, first, second⟩
    rw [first, second]
    exact beq_self_eq_true rank

theorem signedQuanta_lt (negative : Bool) (magnitude : Magnitude) :
    (signedQuanta negative magnitude).natAbs < quantaLimit := by
  have bounded := magnitude.quanta_lt
  unfold signedQuanta
  split <;> omega

/-- An infinity does not have the rank of a finite number. -/
theorem rank?_infinity_ne (negative sign : Bool) (magnitude : Magnitude) :
    (infinity negative).rank? ≠ (finite sign magnitude).rank? := by
  have bounded := signedQuanta_lt sign magnitude
  simp only [rank?, ne_eq, Option.some.injEq]
  split <;> omega

/-- Numbers that are numerically equal are the same or are zeros. -/
theorem eq_or_zeros_of_beq (same : x == y) :
    x = y ∨ ∃ negative sign, x = zero negative ∧ y = zero sign := by
  obtain ⟨rank, left, right⟩ := beq_iff_rank.mp same
  cases x with
  | nan => cases left
  | infinity negative =>
      cases y with
      | nan => cases right
      | infinity sign =>
          have positive := quantaLimit_pos
          simp only [rank?, Option.some.injEq] at left right
          left
          congr 1
          cases negative <;> cases sign <;> grind
      | finite sign magnitude => exact (rank?_infinity_ne _ _ _ (left.trans right.symm)).elim
  | finite negative magnitude =>
      cases y with
      | nan => cases right
      | infinity sign => exact (rank?_infinity_ne _ _ _ (right.trans left.symm)).elim
      | finite sign other =>
          simp only [rank?, Option.some.injEq] at left right
          have quanta : magnitude.quanta = other.quanta := by
            unfold signedQuanta at left right
            grind
          obtain rfl := Magnitude.ext quanta
          -- The signs of one magnitude show in its rank, unless there is nothing to sign.
          by_cases zeros : magnitude.quanta = 0
          · have none : magnitude = .zero := Magnitude.ext zeros
            exact Or.inr ⟨negative, sign, by rw [none]; rfl, by rw [none]; rfl⟩
          · left
            congr 1
            unfold signedQuanta at left right
            grind

theorem zero_beq (negative : Bool) : zero negative == 0 := by
  cases negative <;> decide +kernel

end Binary64
end CssValue
