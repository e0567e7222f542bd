import CssValue.Proofs.Binary64.Order

/-!
# Monotone rounding

Rounding to nearest keeps the order of quotients: two quotients with neighbours equally far apart
are rounded on one grid, and otherwise a power of two on both grids lies between them.  Sums and
products of finite numbers are therefore monotone in the exact sum or product, and are bounded by
every number of the format that bounds it.
-/

namespace CssValue

/-- Rounding to nearest does not go below the whole part of a quotient. -/
theorem div_le_nearestEven (numerator denominator : Nat) :
    numerator / denominator ≤ nearestEven numerator denominator := by
  simp only [nearestEven]
  split
  · exact Nat.le_refl _
  · split
    · exact Nat.le_succ _
    · exact Nat.le_add_right _ _

/-- Rounding to nearest keeps the order of the numerators. -/
theorem nearestEven_mono {numerator other : Nat} (denominator : Nat) (le : numerator ≤ other) :
    nearestEven numerator denominator ≤ nearestEven other denominator := by
  rcases Nat.lt_or_eq_of_le (Nat.div_le_div_right (c := denominator) le) with below | same
  · exact Nat.le_trans (nearestEven_le _ _) (Nat.le_trans below (div_le_nearestEven _ _))
  · have remainders : numerator % denominator ≤ other % denominator := by
      have first := Nat.div_add_mod numerator denominator
      have second := Nat.div_add_mod other denominator
      rw [same] at first
      omega
    simp only [nearestEven, same]
    grind

/-- A rounded quotient falls short of the quotient by one half at most. -/
theorem le_nearestEven_add_half (numerator : Nat) {denominator : Nat} (positive : 0 < denominator) :
    2 * numerator ≤ (2 * nearestEven numerator denominator + 1) * denominator := by
  have whole := Nat.div_add_mod numerator denominator
  have part := Nat.mod_lt numerator positive
  simp only [nearestEven]
  generalize numerator / denominator = quotient at whole
  generalize numerator % denominator = remainder at whole part
  split
  · grind
  · split
    · grind
    · grind

namespace Binary64

theorem spacing_pos (quanta : Nat) : 0 < spacing quanta := by
  rw [spacing, Nat.one_shiftLeft]
  exact Nat.two_pow_pos _

section Grid

variable {numerator denominator bound : Nat}

/-- A bound on the grid of a quotient bounds the rounded quotient from above. -/
theorem nearestQuanta_le_of_dvd (positive : 0 < denominator)
    (onGrid : spacing (numerator / denominator) ∣ bound) (below : numerator ≤ bound * denominator) :
    nearestQuanta numerator denominator ≤ bound := by
  obtain ⟨count, rfl⟩ := onGrid
  simp only [nearestQuanta]
  generalize steps : spacing (numerator / denominator) = step at below
  have stepPositive : 0 < step := steps ▸ spacing_pos _
  have rounded : nearestEven numerator (denominator * step) ≤ count := by
    rw [← nearestEven_mul count (Nat.mul_pos positive stepPositive)]
    refine nearestEven_mono _ (Nat.le_trans below (Nat.le_of_eq ?_))
    ac_rfl
  rw [Nat.mul_comm step]
  exact Nat.mul_le_mul_right step rounded

/-- A bound on the grid of a quotient bounds the rounded quotient from below. -/
theorem le_nearestQuanta_of_dvd (positive : 0 < denominator)
    (onGrid : spacing (numerator / denominator) ∣ bound) (above : bound * denominator ≤ numerator) :
    bound ≤ nearestQuanta numerator denominator := by
  obtain ⟨count, rfl⟩ := onGrid
  simp only [nearestQuanta]
  generalize steps : spacing (numerator / denominator) = step at above
  have stepPositive : 0 < step := steps ▸ spacing_pos _
  have rounded : count ≤ nearestEven numerator (denominator * step) := by
    rw [← nearestEven_mul count (Nat.mul_pos positive stepPositive)]
    refine nearestEven_mono _ (Nat.le_trans (Nat.le_of_eq ?_) above)
    ac_rfl
  rw [Nat.mul_comm step]
  exact Nat.mul_le_mul_right step rounded

end Grid

theorem log2_mono {small large : Nat} (le : small ≤ large) : small.log2 ≤ large.log2 := by
  by_cases zero : small = 0
  · rw [zero, Nat.log2_zero]
    exact Nat.zero_le _
  · exact (Nat.le_log2 (by omega)).mpr (Nat.le_trans (Nat.log2_self_le zero) le)

/-- A power of two that is no finer than the grid lies on the grid. -/
theorem spacing_dvd_one_shiftLeft {quanta scale : Nat} (fits : quanta.log2 - 52 ≤ scale) :
    spacing quanta ∣ 1 <<< scale := by
  rw [spacing, Nat.one_shiftLeft, Nat.one_shiftLeft]
  exact Nat.pow_dvd_pow 2 fits

/-- Rounding keeps the order of quotients. -/
theorem nearestQuanta_mono {numerator other : Nat} (denominator : Nat) (le : numerator ≤ other) :
    nearestQuanta numerator denominator ≤ nearestQuanta other denominator := by
  have logs := log2_mono (Nat.div_le_div_right (c := denominator) le)
  by_cases same : spacing (numerator / denominator) = spacing (other / denominator)
  · simp only [nearestQuanta, same]
    exact Nat.mul_le_mul_right _ (nearestEven_mono _ le)
  · -- The larger quotient has the larger exponent, so its power of two separates the two.
    have apart : (numerator / denominator).log2 - 52 ≠ (other / denominator).log2 - 52 :=
      fun equal => same (congrArg (1 <<< ·) equal)
    have exponents : (numerator / denominator).log2 + 1 ≤ (other / denominator).log2 := by omega
    have nonzero : other / denominator ≠ 0 := by
      intro zero
      rw [zero, Nat.log2_zero] at exponents
      omega
    have positive : 0 < denominator := by
      rcases Nat.eq_zero_or_pos denominator with rfl | positive
      · exact (nonzero (Nat.div_zero other)).elim
      · exact positive
    have below : numerator / denominator < 1 <<< (other / denominator).log2 := by
      rw [Nat.one_shiftLeft]
      exact Nat.lt_of_lt_of_le Nat.lt_log2_self (Nat.pow_le_pow_right (by decide) exponents)
    have above : 1 <<< (other / denominator).log2 ≤ other / denominator := by
      rw [Nat.one_shiftLeft]
      exact Nat.log2_self_le nonzero
    have upper : nearestQuanta numerator denominator ≤ 1 <<< (other / denominator).log2 :=
      nearestQuanta_le_of_dvd positive (spacing_dvd_one_shiftLeft (by omega))
        (Nat.le_of_lt ((Nat.div_lt_iff_lt_mul positive).mp below))
    have lower : 1 <<< (other / denominator).log2 ≤ nearestQuanta other denominator :=
      le_nearestQuanta_of_dvd positive (spacing_dvd_one_shiftLeft (by omega))
        ((Nat.le_div_iff_mul_le positive).mp above)
    exact Nat.le_trans upper lower

theorem spacing_mono {small large : Nat} (le : small ≤ large) : spacing small ≤ spacing large := by
  have logs := log2_mono le
  rw [spacing, spacing, Nat.one_shiftLeft, Nat.one_shiftLeft]
  exact Nat.pow_le_pow_right (by decide) (by omega)

/-- Rounded quanta fall short by half of their spacing at most. -/
theorem le_nearestQuanta_add_half (quanta : Nat) :
    2 * quanta ≤ 2 * nearestQuanta quanta 1 + spacing quanta := by
  have half := le_nearestEven_add_half quanta (spacing_pos quanta)
  rw [nearestQuanta, Nat.div_one, Nat.one_mul]
  grind

/-! ### Signed rounding -/

/-- The rank of the number nearest to a signed quotient of quanta.  Quotients beyond the finite
numbers have the rank of an infinity. -/
def roundedRank (numerator : Int) (denominator : Nat) : Int :=
  let size := min (nearestQuanta numerator.natAbs denominator) quantaLimit
  if numerator < 0 then -(size : Int) else size

theorem nearestQuanta_zero (denominator : Nat) : nearestQuanta 0 denominator = 0 := by
  have none : nearestEven 0 (denominator * spacing (0 / denominator)) = 0 := by
    simp [nearestEven]
  rw [nearestQuanta, none, Nat.zero_mul]

theorem roundedRank_zero (denominator : Nat) : roundedRank 0 denominator = 0 := by
  simp only [roundedRank, Int.natAbs_zero, nearestQuanta_zero, Nat.zero_min]
  rfl

/-- A quotient of quanta with its sign is rounded to the number of the rounded rank; the sign of an
exact zero does not count. -/
theorem rank?_ofQuotient {negative : Bool} {numerator : Int} (denominator : Nat)
    (sign : numerator ≠ 0 → (negative = true ↔ numerator < 0)) :
    (ofQuotient negative numerator.natAbs denominator).rank? =
      some (roundedRank numerator denominator) := by
  have size : (ofQuotient negative numerator.natAbs denominator).rank? =
      let size := min (nearestQuanta numerator.natAbs denominator) quantaLimit
      some (if negative then -(size : Int) else size) := by
    unfold ofQuotient Magnitude.ofQuotient?
    by_cases bounded : nearestQuanta numerator.natAbs denominator < quantaLimit
    · rw [dif_pos bounded, Nat.min_eq_left (Nat.le_of_lt bounded)]
      rfl
    · rw [dif_neg bounded, Nat.min_eq_right (Nat.le_of_not_lt bounded)]
      rfl
  rw [size]
  by_cases zero : numerator = 0
  · rw [zero, roundedRank_zero, Int.natAbs_zero, nearestQuanta_zero, Nat.zero_min]
    cases negative <;> rfl
  · simp only [roundedRank, sign zero]

/-- Rounding keeps the order of signed quotients with one denominator. -/
theorem roundedRank_mono {numerator other : Int} (denominator : Nat) (le : numerator ≤ other) :
    roundedRank numerator denominator ≤ roundedRank other denominator := by
  simp only [roundedRank]
  by_cases otherNegative : other < 0
  · have negative : numerator < 0 := Int.lt_of_le_of_lt le otherNegative
    have sizes : nearestQuanta other.natAbs denominator ≤
        nearestQuanta numerator.natAbs denominator := nearestQuanta_mono _ (by omega)
    rw [if_pos negative, if_pos otherNegative]
    omega
  · by_cases negative : numerator < 0
    · rw [if_pos negative, if_neg otherNegative]
      omega
    · have sizes : nearestQuanta numerator.natAbs denominator ≤
          nearestQuanta other.natAbs denominator := nearestQuanta_mono _ (by omega)
      rw [if_neg negative, if_neg otherNegative]
      omega

/-- A rounded sum of quanta falls short of the sum by half of the spacing of any larger number. -/
theorem le_roundedRank_add_half {sum : Int} {bound : Nat} (nonnegative : 0 ≤ sum) (le : sum ≤ bound)
    (bounded : bound < quantaLimit) : 2 * sum ≤ 2 * roundedRank sum 1 + spacing bound := by
  have half := le_nearestQuanta_add_half sum.natAbs
  have step := spacing_mono (show sum.natAbs ≤ bound by omega)
  simp only [roundedRank, if_neg (Int.not_lt.mpr nonnegative)]
  omega

/-! ### Finite numbers -/

/-- The number is finite, with the given number of quanta. -/
def Counts (x : Binary64) (quanta : Int) : Prop :=
  ∃ negative magnitude, x = finite negative magnitude ∧ signedQuanta negative magnitude = quanta

variable {x y : Binary64} {left right : Int}

theorem Counts.rank?_eq (counts : Counts x left) : x.rank? = some left := by
  obtain ⟨negative, magnitude, rfl, rfl⟩ := counts
  rfl

/-- Numbers are ordered as their ranks are. -/
theorem le_iff_rank (first : x.rank? = some left) (second : y.rank? = some right) :
    x ≤ y ↔ left ≤ right := by
  change compareBy _ x y = true ↔ _
  rw [compareBy, first, second, decide_eq_true_eq]

/-- Numbers are ordered as the quanta are that they count. -/
theorem Counts.le_iff (first : Counts x left) (second : Counts y right) : x ≤ y ↔ left ≤ right :=
  le_iff_rank first.rank?_eq second.rank?_eq

/-- A number that counts quanta is at most itself, which `nan` is not. -/
theorem Counts.le_refl (counts : Counts x left) : x ≤ x :=
  (counts.le_iff counts).mpr (Int.le_refl left)

/-- A number that counts quanta equals itself, which `nan` does not. -/
theorem Counts.beq_self (counts : Counts x left) : x == x :=
  beq_iff_rank.mpr ⟨left, counts.rank?_eq, counts.rank?_eq⟩

theorem natAbs_signedQuanta (negative : Bool) (magnitude : Magnitude) :
    (signedQuanta negative magnitude).natAbs = magnitude.quanta := by
  unfold signedQuanta
  split
  · rw [Int.natAbs_neg, Int.natAbs_natCast]
  · rw [Int.natAbs_natCast]

theorem signedQuanta_not (negative : Bool) (magnitude : Magnitude) :
    signedQuanta (!negative) magnitude = -signedQuanta negative magnitude := by
  cases negative <;> simp [signedQuanta]

/-- Two numbers that are in order have ranks, and these are in order. -/
theorem exists_rank_of_le (le : x ≤ y) :
    ∃ left right, x.rank? = some left ∧ y.rank? = some right ∧ left ≤ right := by
  change compareBy _ x y = true at le
  unfold compareBy at le
  split at le
  case h_1 left right first second => exact ⟨left, right, first, second, of_decide_eq_true le⟩
  case h_2 => cases le

/-- Equal numbers are in order both ways. -/
theorem le_of_beq (equal : x == y) : x ≤ y ∧ y ≤ x := by
  obtain ⟨rank, first, second⟩ := beq_iff_rank.mp equal
  exact ⟨(le_iff_rank first second).mpr (Int.le_refl rank),
    (le_iff_rank second first).mpr (Int.le_refl rank)⟩

/-- A negated number has the opposite rank. -/
theorem rank?_neg (ranked : x.rank? = some left) : (-x).rank? = some (-left) := by
  cases x with
  | nan => cases ranked
  | infinity negative =>
      obtain rfl := Option.some.inj ranked
      cases negative <;> rfl
  | finite negative magnitude =>
      obtain rfl := Option.some.inj ranked
      exact congrArg some (signedQuanta_not negative magnitude)

theorem neg_le_neg (le : x ≤ y) : -y ≤ -x := by
  obtain ⟨left, right, first, second, ranks⟩ := exists_rank_of_le le
  exact (le_iff_rank (rank?_neg second) (rank?_neg first)).mpr (Int.neg_le_neg ranks)

/-- The order is transitive, although not every number is in it. -/
theorem le_trans {z : Binary64} (first : x ≤ y) (second : y ≤ z) : x ≤ z := by
  obtain ⟨left, middle, leftRanked, middleRanked, le⟩ := exists_rank_of_le first
  obtain ⟨same, right, sameRanked, rightRanked, further⟩ := exists_rank_of_le second
  obtain rfl := Option.some.inj (middleRanked.symm.trans sameRanked)
  exact (le_iff_rank leftRanked rightRanked).mpr (Int.le_trans le further)

/-- A number whose rank is within the finite range is finite. -/
theorem counts_of_rank (ranked : x.rank? = some left) (bounded : left.natAbs < quantaLimit) :
    Counts x left := by
  cases x with
  | nan => cases ranked
  | infinity negative =>
      simp only [rank?, Option.some.injEq] at ranked
      split at ranked <;> omega
  | finite negative magnitude => exact ⟨negative, magnitude, rfl, Option.some.inj ranked⟩

/-- The quanta of a number of the format are not rounded. -/
theorem Counts.roundedRank_mul (counts : Counts x left) {denominator : Nat}
    (positive : 0 < denominator) : roundedRank (left * denominator) denominator = left := by
  obtain ⟨negative, magnitude, rfl, rfl⟩ := counts
  have size : (signedQuanta negative magnitude * denominator).natAbs =
      magnitude.quanta * denominator := by
    rw [Int.natAbs_mul, natAbs_signedQuanta, Int.natAbs_natCast]
  have exact := nearestQuanta_exact positive magnitude.spacing_dvd
  have quanta := natAbs_signedQuanta negative magnitude
  simp only [roundedRank, size, exact, Nat.min_eq_left (Nat.le_of_lt magnitude.quanta_lt)]
  by_cases sign : signedQuanta negative magnitude < 0
  · rw [if_pos (Int.mul_neg_of_neg_of_pos sign (Int.natCast_pos.mpr positive))]
    omega
  · have nonnegative : 0 ≤ signedQuanta negative magnitude * denominator :=
      Int.mul_nonneg (Int.not_lt.mp sign) (Int.natCast_nonneg denominator)
    rw [if_neg (Int.not_lt.mpr nonnegative)]
    omega

/-- A number of the format that is not below a quotient is not below the rounded quotient. -/
theorem Counts.roundedRank_le (counts : Counts x left) {numerator : Int} {denominator : Nat}
    (positive : 0 < denominator) (le : numerator ≤ left * denominator) :
    roundedRank numerator denominator ≤ left := by
  rw [← counts.roundedRank_mul positive]
  exact roundedRank_mono denominator le

/-- A quotient that reaches a number is not rounded below it. -/
theorem Counts.le_roundedRank (counts : Counts x left) {numerator : Int} {denominator : Nat}
    (positive : 0 < denominator) (le : left * denominator ≤ numerator) :
    left ≤ roundedRank numerator denominator := by
  rw [← counts.roundedRank_mul positive]
  exact roundedRank_mono denominator le

theorem roundedRank_nonneg {numerator : Int} (denominator : Nat) (nonnegative : 0 ≤ numerator) :
    0 ≤ roundedRank numerator denominator := by
  rw [← roundedRank_zero denominator]
  exact roundedRank_mono denominator nonnegative

/-- A finite number counts fewer quanta than the limit. -/
theorem Counts.natAbs_lt (counts : Counts x left) : left.natAbs < quantaLimit := by
  obtain ⟨negative, magnitude, rfl, rfl⟩ := counts
  exact signedQuanta_lt negative magnitude

/-- A whole number up to `2 ^ 53` in size is represented without rounding. -/
theorem counts_ofInt {n : Int} (bounded : n.natAbs ≤ 1 <<< 53) :
    Counts (ofInt n) (n * quantaOfOne) := by
  refine counts_of_rank (rank?_ofInt bounded) ?_
  rw [Int.natAbs_mul, Int.natAbs_natCast]
  exact mul_quantaOfOne_lt bounded

theorem counts_zero : Counts 0 0 :=
  counts_of_rank (rank?_ofInt (n := 0) (by decide)) quantaLimit_pos

/-- A rank between those of finite numbers is the rank of a finite number. -/
theorem Counts.of_rank {z : Binary64} {rank : Int} (least : Counts x left)
    (greatest : Counts y right) (ranked : z.rank? = some rank) (above : left ≤ rank)
    (below : rank ≤ right) : Counts z rank := by
  have leastBounded := least.natAbs_lt
  have greatestBounded := greatest.natAbs_lt
  exact counts_of_rank ranked (by omega)

/-- What lies between two finite numbers is finite, with a count between theirs. -/
theorem Counts.between {z : Binary64} (least : Counts x left) (greatest : Counts y right)
    (above : x ≤ z) (below : z ≤ y) : ∃ rank, Counts z rank ∧ left ≤ rank ∧ rank ≤ right := by
  obtain ⟨same, rank, leastRanked, ranked, lowRank⟩ := exists_rank_of_le above
  obtain rfl := Option.some.inj (least.rank?_eq.symm.trans leastRanked)
  have highRank := (le_iff_rank ranked greatest.rank?_eq).mp below
  exact ⟨rank, least.of_rank greatest ranked lowRank highRank, lowRank, highRank⟩

/-- A sum has the rank of the exact sum, rounded. -/
theorem rank?_add (first : Counts x left) (second : Counts y right) :
    (x + y).rank? = some (roundedRank (left + right) 1) := by
  obtain ⟨s, a, rfl, rfl⟩ := first
  obtain ⟨t, b, rfl, rfl⟩ := second
  change (add (finite s a) (finite t b)).rank? = _
  simp only [add]
  split
  case isTrue zero =>
    rw [zero, roundedRank_zero]
    cases s && t <;> rfl
  case isFalse => exact rank?_ofQuotient 1 fun _ => decide_eq_true_iff

theorem Counts.neg (counts : Counts x left) : Counts (-x) (-left) := by
  obtain ⟨negative, magnitude, rfl, rfl⟩ := counts
  exact ⟨!negative, magnitude, rfl, signedQuanta_not negative magnitude⟩

/-- A difference has the rank of the exact difference, rounded. -/
theorem rank?_sub (first : Counts x left) (second : Counts y right) :
    (x - y).rank? = some (roundedRank (left - right) 1) :=
  rank?_add first second.neg

/-- A product has the rank of the exact product, rounded. -/
theorem rank?_mul (first : Counts x left) (second : Counts y right) :
    (x * y).rank? = some (roundedRank (left * right) quantaOfOne) := by
  obtain ⟨s, a, rfl, rfl⟩ := first
  obtain ⟨t, b, rfl, rfl⟩ := second
  have size : (signedQuanta s a * signedQuanta t b).natAbs = a.quanta * b.quanta := by
    rw [Int.natAbs_mul, natAbs_signedQuanta, natAbs_signedQuanta]
  have product : signedQuanta s a * signedQuanta t b =
      if s != t then -((a.quanta * b.quanta : Nat) : Int) else (a.quanta * b.quanta : Nat) := by
    cases s <;> cases t <;> grind [signedQuanta]
  change (mul (finite s a) (finite t b)).rank? = _
  simp only [mul]
  rw [← size]
  refine rank?_ofQuotient quantaOfOne fun nonzero => ?_
  rw [product] at nonzero ⊢
  cases s != t with
  | false => exact ⟨fun absent => (Bool.false_ne_true absent).elim, fun below => by grind⟩
  | true => exact ⟨fun _ => by grind, fun _ => rfl⟩

end Binary64
end CssValue
