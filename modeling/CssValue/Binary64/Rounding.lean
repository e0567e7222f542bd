/-!
# Rounding to fifty-three significant bits

Finite binary64 numbers are whole multiples of one quantum, the least positive number `2 ^ -1074`.
A number of quanta belongs to the format when it is below `2 ^ 2098` and has at most fifty-three
significant bits.  This module rounds an exact quotient of quanta to such a number.  The main
statement, `spacing_dvd_nearestQuanta`, says that the rounded number keeps to the fifty-three bits.
-/

namespace CssValue

/-- The whole number nearest to `numerator / denominator`; a half goes to the even neighbour. -/
def nearestEven (numerator denominator : Nat) : Nat :=
  let quotient := numerator / denominator
  let twice := 2 * (numerator % denominator)
  if twice < denominator then quotient
  else if denominator < twice then quotient + 1
  else quotient + quotient % 2

/-- Rounding to a whole number moves up by at most one from the floor. -/
theorem nearestEven_le (numerator denominator : Nat) :
    nearestEven numerator denominator ≤ numerator / denominator + 1 := by
  simp only [nearestEven]
  split
  · omega
  · split <;> omega

namespace Binary64

/-- The number of binary places behind the point in a quantum. -/
def quantumPlaces : Nat := 1074

/-- The number of bits that suffice for the quanta of every finite number. -/
def rangeBits : Nat := 2098

/-- The number of quanta in one. -/
def quantaOfOne : Nat := 1 <<< quantumPlaces

/-- The power of two at which the finite numbers end, in quanta. -/
def quantaLimit : Nat := 1 <<< rangeBits

theorem quantaOfOne_pos : 0 < quantaOfOne := by
  rw [quantaOfOne, Nat.one_shiftLeft]
  exact Nat.two_pow_pos quantumPlaces

theorem quantaLimit_pos : 0 < quantaLimit := by
  rw [quantaLimit, Nat.one_shiftLeft]
  exact Nat.two_pow_pos rangeBits

/-- The distance, in quanta, between neighbouring numbers of the format near `quanta`. -/
def spacing (quanta : Nat) : Nat := 1 <<< (quanta.log2 - 52)

/-- The number of quanta with fifty-three significant bits nearest to `numerator / denominator`;
halfway between two of them the one with the even last bit is taken. -/
def nearestQuanta (numerator denominator : Nat) : Nat :=
  let step := spacing (numerator / denominator)
  nearestEven numerator (denominator * step) * step

/-- A whole number of steps that needs at most fifty-three bits is on the grid. -/
theorem spacing_dvd_shiftLeft {significand scale : Nat} (bounded : significand ≤ 1 <<< 53) :
    spacing (significand <<< scale) ∣ significand <<< scale := by
  simp only [spacing, Nat.shiftLeft_eq, Nat.one_mul] at bounded ⊢
  by_cases zero : significand * 2 ^ scale = 0
  · rw [zero]
    exact Nat.dvd_zero _
  · rcases Nat.lt_or_eq_of_le bounded with below | top
    · have size : (significand * 2 ^ scale).log2 < 53 + scale := by
        rw [Nat.log2_lt zero, Nat.pow_add]
        exact Nat.mul_lt_mul_of_pos_right below (Nat.two_pow_pos scale)
      have fits : (significand * 2 ^ scale).log2 - 52 ≤ scale := by omega
      exact Nat.dvd_trans (Nat.pow_dvd_pow 2 fits) (Nat.dvd_mul_left _ _)
    · have power : significand * 2 ^ scale = 2 ^ (53 + scale) := by
        rw [top, Nat.pow_add]
      rw [power, Nat.log2_two_pow]
      exact Nat.pow_dvd_pow 2 (by omega)

/-- A rounded number of quanta has at most fifty-three significant bits. -/
theorem spacing_dvd_nearestQuanta (numerator denominator : Nat) :
    spacing (nearestQuanta numerator denominator) ∣ nearestQuanta numerator denominator := by
  have floor : numerator / denominator < 2 ^ 53 * spacing (numerator / denominator) := by
    refine Nat.lt_of_lt_of_le Nat.lt_log2_self ?_
    rw [spacing, Nat.one_shiftLeft, ← Nat.pow_add]
    exact Nat.pow_le_pow_right (by decide) (by omega)
  have quotient : numerator / (denominator * spacing (numerator / denominator)) < 2 ^ 53 := by
    rw [← Nat.div_div_eq_div_mul]
    exact Nat.div_lt_of_lt_mul (by rwa [Nat.mul_comm] at floor)
  have shifted : nearestQuanta numerator denominator =
      nearestEven numerator (denominator * spacing (numerator / denominator)) <<<
        ((numerator / denominator).log2 - 52) := by
    rw [nearestQuanta, Nat.shiftLeft_eq, ← Nat.one_shiftLeft]
    rfl
  rw [shifted]
  exact spacing_dvd_shiftLeft (Nat.le_trans (nearestEven_le _ _) quotient)

end Binary64
end CssValue
