import CssValue.Proofs.Binary64.Exceptional
import CssValue.Proofs.Paint.BrightnessPath

/-!
# The range of a brightness change

A channel made brighter or darker is in `[0, 255]`, and a lightness in `[0, 100]`, however far out
of range they were before.  The one exception is an infinite lightness.  On the way to the top it is
taken from itself, and on the whole way down it is multiplied by zero; the result is `nan` then,
which is not moved into any range.
-/

namespace CssValue

open Binary64

namespace Brightness

/-- The rule has no result: an infinite value is on the way to the top, where it is taken from
itself, or on the whole way down, where it is multiplied by zero. -/
def Undetermined (value fraction : Binary64) : Prop :=
  (∃ negative, value = infinity negative) ∧ (0 < fraction ∨ fraction == -1)

section Shift

variable {full value fraction : Binary64} {top level share : Int}

theorem Share.pos_iff (part : Share fraction share) : 0 < fraction ↔ 0 < share :=
  lt_iff_rank counts_zero.rank?_eq part.counts.rank?_eq

/-- A fraction is `-1` just when its share is the whole way down. -/
theorem Share.beq_neg_one_iff (part : Share fraction share) :
    fraction == -1 ↔ share = -quantaOfOne := by
  rw [beq_iff_rank, part.counts.rank?_eq, share_neg_one.counts.rank?_eq]
  simp [eq_comm]

/-- The factor of a way down is zero on the whole way only. -/
theorem Share.factor (part : Share fraction share) (negative : share ≤ 0) :
    ∃ rank, Counts (1 + fraction) rank ∧ 0 ≤ rank ∧ (rank = 0 ↔ share = -quantaOfOne) := by
  obtain ⟨low, high⟩ := part.factor_bounds negative
  refine ⟨_, counts_zero.of_rank counts_one (rank?_add counts_one part.counts) low high, low, ?_⟩
  constructor
  · intro none
    have least := part.low
    have sum : ¬ 1 ≤ quantaOfOne + share := by
      intro positive
      have quantum := counts_quantum.le_roundedRank Nat.one_pos
        (by omega : 1 * ((1 : Nat) : Int) ≤ quantaOfOne + share)
      omega
    omega
  · rintro rfl
    rw [Int.add_right_neg, roundedRank_zero]

/-- From a finite value the rule has a result. -/
theorem shift_ne_nan (ceiling : Counts full top) (counts : Counts value level)
    (part : Share fraction share) : shift full value fraction ≠ nan := by
  unfold shift
  by_cases positive : 0 < fraction
  · have moving : share ≠ 0 := Int.ne_of_gt (part.pos_iff.mp positive)
    have distance : full - value ≠ nan := mt ceiling.add_eq_nan_iff.mp counts.neg.ne_nan
    rw [if_pos positive, ne_eq, counts.add_eq_nan_iff, part.counts.mul_eq_nan_iff moving]
    exact distance
  · obtain ⟨rank, factor, _⟩ := part.factor (Int.not_lt.mp (mt part.pos_iff.mpr positive))
    rw [if_neg positive]
    exact counts.mul_ne_nan factor

/-- From an infinite value it has none on the way to the top and on the whole way down. -/
theorem shift_infinity_eq_nan_iff (ceiling : Counts full top) (part : Share fraction share)
    (negative : Bool) :
    shift full (infinity negative) fraction = nan ↔ 0 < fraction ∨ fraction == -1 := by
  unfold shift
  by_cases positive : 0 < fraction
  · have gain : (full - infinity negative) * fraction = infinity (!negative) := by
      rw [ceiling.sub_infinity, infinity_mul_of_pos part.counts (part.pos_iff.mp positive)]
    rw [if_pos positive, gain]
    exact iff_of_true (infinity_add_opposite negative) (Or.inl positive)
  · obtain ⟨rank, factor, _, whole⟩ :=
      part.factor (Int.not_lt.mp (mt part.pos_iff.mpr positive))
    rw [if_neg positive, infinity_mul_eq_nan_iff factor, whole, part.beq_neg_one_iff]
    exact (or_iff_right positive).symm

/-- The rule gives `nan` for a number just where it has no result. -/
theorem shift_eq_nan_iff (ceiling : Counts full top) (part : Share fraction share)
    (number : value ≠ nan) : shift full value fraction = nan ↔ Undetermined value fraction := by
  cases value with
  | nan => exact (number rfl).elim
  | infinity negative =>
      rw [shift_infinity_eq_nan_iff ceiling part]
      exact (and_iff_right ⟨negative, rfl⟩).symm
  | finite negative magnitude =>
      refine iff_of_false (shift_ne_nan ceiling ⟨negative, magnitude, rfl, rfl⟩ part) ?_
      rintro ⟨⟨sign, infinite⟩, _⟩
      cases infinite

/-- A number is moved into the range; only `nan` stays out of it. -/
theorem clamp_bounds (ceiling : Counts full top) (nonnegative : 0 ≤ top) (number : value ≠ nan) :
    0 ≤ value.clamp 0 full ∧ value.clamp 0 full ≤ full := by
  obtain ⟨rank, ranked⟩ := exists_rank_of_ne_nan number
  have moved := rank?_clamp ranked counts_zero.rank?_eq ceiling.rank?_eq nonnegative
  exact ⟨(le_iff_rank counts_zero.rank?_eq moved).mpr (by omega),
    (le_iff_rank moved ceiling.rank?_eq).mpr (by omega)⟩

end Shift

/-- A lightness is moved to `nan` where the rule has no result, and into its range otherwise. -/
theorem lightness_range {value fraction : Binary64} (low : -1 ≤ fraction) (high : fraction ≤ 1)
    (number : value ≠ nan) :
    (Undetermined value fraction → lightness value fraction = nan) ∧
      (¬ Undetermined value fraction →
        0 ≤ lightness value fraction ∧ lightness value fraction ≤ 100) := by
  obtain ⟨share, part⟩ := exists_share low high
  have ceiling : Counts 100 (100 * quantaOfOne) := counts_ofInt (n := 100) (by decide)
  rw [← shift_eq_nan_iff ceiling part number]
  refine ⟨fun undetermined => ?_, fun determined => clamp_bounds ceiling (by omega) determined⟩
  rw [lightness, undetermined, clamp_nan]

end Brightness

namespace Color

/-- **A brightness change computes components in their ranges.** By a fraction in `[-1, 1]` a color
gets as many channels as it had, each of them in `[0, 255]`.  If it had a lightness that was a
number, it gets one in `[0, 100]`, unless the rule is undetermined for the old one; it gets `nan`
then. -/
theorem computed_components_in_range (color : Color) {fraction : Binary64} (low : -1 ≤ fraction)
    (high : fraction ≤ 1) :
    let moved := (color.adjustBrightness fraction).value
    moved.channels.length = color.channels.length ∧
      (∀ channel ∈ moved.channels, 0 ≤ channel ∧ channel ≤ 255) ∧
      ∀ value, color.lightness? = some value → value ≠ nan →
        ∃ lightness, moved.lightness? = some lightness ∧
          (Brightness.Undetermined value fraction → lightness = nan) ∧
          (¬ Brightness.Undetermined value fraction → 0 ≤ lightness ∧ lightness ≤ 100) := by
  have inside := inRange_of_bounds low high
  refine ⟨?_, ?_, ?_⟩
  · rw [channels_adjustBrightness inside, List.length_map]
  · intro channel member
    rw [channels_adjustBrightness inside] at member
    obtain ⟨value, _, rfl⟩ := List.mem_map.mp member
    exact Brightness.channel_bounds value fraction
  · intro value given number
    refine ⟨Brightness.lightness value fraction, ?_, Brightness.lightness_range low high number⟩
    rw [lightness?_adjustBrightness inside, given, Option.map_some]

/-- The ends of the whole numbers of thirty-two bits, and half of an infinite lightness. -/
theorem computed_components_in_range_extremes :
    ((-1 : Binary64) ≤ -0.5 ∧ (-0.5 : Binary64) ≤ 1) ∧
      (∀ channel ∈ ((rgba 2147483647 (-2147483648) 255 0.5).adjustBrightness (-0.5)).value.channels,
        0 ≤ channel ∧ channel ≤ 255) ∧
      (infinity false ≠ nan ∧ ¬ Brightness.Undetermined (infinity false) (-0.5)) ∧
      ∃ lightness,
        ((hsl 210 50 (infinity false)).adjustBrightness (-0.5)).value.lightness? = some lightness ∧
          0 ≤ lightness ∧ lightness ≤ 100 := by
  have low : (-1 : Binary64) ≤ -0.5 := by decide +kernel
  have high : (-0.5 : Binary64) ≤ 1 := by decide +kernel
  have number : infinity false ≠ nan := by decide
  have determined : ¬ Brightness.Undetermined (infinity false) (-0.5) := by
    have halfway : ¬ ((0 : Binary64) < -0.5 ∨ (-0.5 : Binary64) == -1) := by decide +kernel
    exact fun undetermined => halfway undetermined.2
  obtain ⟨_, channels, _⟩ :=
    computed_components_in_range (rgba 2147483647 (-2147483648) 255 0.5) low high
  obtain ⟨_, _, lightnesses⟩ :=
    computed_components_in_range (hsl 210 50 (infinity false)) low high
  obtain ⟨lightness, found, _, bounds⟩ := lightnesses (infinity false) rfl number
  exact ⟨⟨low, high⟩, channels, ⟨number, determined⟩, lightness, found, bounds determined⟩

/-- An infinite lightness that is moved the whole way to the top is lost, and so is one that is
moved the whole way down. -/
theorem infinite_lightness_is_lost :
    ((-1 : Binary64) ≤ 1 ∧ (1 : Binary64) ≤ 1 ∧ infinity false ≠ nan) ∧
      (hsl 0 0 (infinity false)).adjustBrightness 1 = .plain (hsl 0 0 nan) ∧
      (hsl 0 0 (infinity false)).adjustBrightness (-1) = .plain (hsl 0 0 nan) ∧
      ¬ ((0 : Binary64) ≤ nan ∧ nan ≤ (100 : Binary64)) := by
  decide +kernel

end Color
end CssValue
