import CssValue.Proofs.Binary64.Monotone
import CssValue.Proofs.Paint.BrightnessRun
import Mathlib.Data.List.Forall2

/-!
# The path from black to white

As the fraction grows from `-1` to `1`, a brightness change moves every channel and every lightness
from zero over its own value to the largest value, and never back.  The two halves of the path are
computed by different formulas with up to three roundings; rounding is monotone, both halves give
the value itself at zero, and the last rounding makes up for the first one at the far end.
-/

namespace CssValue

open Binary64

namespace Brightness

/-! ### Ranks along the path -/

theorem counts_one : Counts 1 quantaOfOne := by
  have one := counts_ofInt (n := 1) (by decide)
  rwa [Int.one_mul] at one

/-- A value between zero and the top of its range, with the quanta of both. -/
structure Stage (full value : Binary64) (top level : Int) : Prop where
  full : Counts full top
  value : Counts value level
  nonnegative : 0 ≤ level
  below : level ≤ top
  /-- A sum that misses the top by half of its spacing is rounded to the top. -/
  edge : top ≤ roundedRank (top - (spacing top.natAbs / 2 : Nat)) 1

/-- A fraction between `-1` and `1`, with its quanta. -/
structure Share (fraction : Binary64) (share : Int) : Prop where
  counts : Counts fraction share
  low : -(quantaOfOne : Int) ≤ share
  high : share ≤ quantaOfOne

/-- The rank of a value after a share of the way to the top, or to zero. -/
def shiftedRank (top level share : Int) : Int :=
  if 0 < share then
    roundedRank (level + roundedRank (roundedRank (top - level) 1 * share) quantaOfOne) 1
  else roundedRank (level * roundedRank (quantaOfOne + share) 1) quantaOfOne

section Path

variable {full value fraction : Binary64} {top level share other : Int}

theorem Stage.distance_nonneg (stage : Stage full value top level) :
    0 ≤ roundedRank (top - level) 1 :=
  roundedRank_nonneg 1 (Int.sub_nonneg.mpr stage.below)

theorem Stage.gain_nonneg (stage : Stage full value top level) (positive : 0 < share) :
    0 ≤ roundedRank (roundedRank (top - level) 1 * share) quantaOfOne :=
  roundedRank_nonneg _ (Int.mul_nonneg stage.distance_nonneg (Int.le_of_lt positive))

/-- The distance to the top is a finite number. -/
theorem Stage.distance (stage : Stage full value top level) :
    Counts (full - value) (roundedRank (top - level) 1) := by
  have nonnegative := stage.distance_nonneg
  have bounded : roundedRank (top - level) 1 ≤ top := by
    have lower := stage.nonnegative
    exact stage.full.roundedRank_le Nat.one_pos (by omega)
  exact counts_zero.of_rank stage.full (rank?_sub stage.full stage.value) nonnegative bounded

/-- A positive share of the distance to the top is a finite number, since no share is above one. -/
theorem Stage.gain (stage : Stage full value top level) (part : Share fraction share)
    (positive : 0 < share) :
    Counts ((full - value) * fraction)
      (roundedRank (roundedRank (top - level) 1 * share) quantaOfOne) := by
  have nonnegative := stage.gain_nonneg positive
  have bounded : roundedRank (roundedRank (top - level) 1 * share) quantaOfOne ≤
      roundedRank (top - level) 1 :=
    stage.distance.roundedRank_le quantaOfOne_pos
      (Int.mul_le_mul_of_nonneg_left part.high stage.distance_nonneg)
  exact counts_zero.of_rank stage.distance (rank?_mul stage.distance part.counts) nonnegative
    bounded

/-- On the way down a value is multiplied by a factor between zero and one. -/
theorem Share.factor_bounds (part : Share fraction share) (negative : share ≤ 0) :
    0 ≤ roundedRank (quantaOfOne + share) 1 ∧
      roundedRank (quantaOfOne + share) 1 ≤ quantaOfOne := by
  have low := part.low
  exact ⟨roundedRank_nonneg 1 (by omega), counts_one.roundedRank_le Nat.one_pos (by omega)⟩

/-- A shifted value has the rank that the path gives it, whichever of the two formulas applies. -/
theorem rank?_shift (stage : Stage full value top level) (part : Share fraction share) :
    (shift full value fraction).rank? = some (shiftedRank top level share) := by
  have sign : 0 < fraction ↔ 0 < share := lt_iff_rank counts_zero.rank?_eq part.counts.rank?_eq
  unfold shift shiftedRank
  by_cases positive : 0 < share
  · rw [if_pos (sign.mpr positive), if_pos positive]
    exact rank?_add stage.value (stage.gain part positive)
  · rw [if_neg (mt sign.mp positive), if_neg positive]
    obtain ⟨low, high⟩ := part.factor_bounds (Int.not_lt.mp positive)
    have factor : Counts (1 + fraction) (roundedRank (quantaOfOne + share) 1) :=
      counts_zero.of_rank counts_one (rank?_add counts_one part.counts) low high
    exact rank?_mul stage.value factor

/-! ### Three points and the way between them -/

/-- A share of nothing leaves a value where it is. -/
theorem shiftedRank_zero (stage : Stage full value top level) :
    shiftedRank top level 0 = level := by
  have one : roundedRank (quantaOfOne + 0) 1 = quantaOfOne := by
    have exact := counts_one.roundedRank_mul Nat.one_pos
    rwa [Int.natCast_one, Int.mul_one, ← Int.add_zero (quantaOfOne : Int)] at exact
  unfold shiftedRank
  rw [if_neg (Int.lt_irrefl 0), one]
  exact stage.value.roundedRank_mul quantaOfOne_pos

/-- The whole way down leads to zero. -/
theorem shiftedRank_neg_one (top level : Int) : shiftedRank top level (-quantaOfOne) = 0 := by
  have one : (0 : Int) < quantaOfOne := Int.natCast_pos.mpr quantaOfOne_pos
  unfold shiftedRank
  rw [if_neg (by omega), Int.add_right_neg, roundedRank_zero, Int.mul_zero, roundedRank_zero]

/-- The whole way up leads to the top or above it: the last rounding makes up for the first. -/
theorem le_shiftedRank_one (stage : Stage full value top level) :
    top ≤ shiftedRank top level quantaOfOne := by
  have one : (0 : Int) < quantaOfOne := Int.natCast_pos.mpr quantaOfOne_pos
  have finite := stage.full.natAbs_lt
  have nonnegative := stage.nonnegative
  have below := stage.below
  have half : 2 * (top - level) ≤ 2 * roundedRank (top - level) 1 + spacing top.natAbs :=
    le_roundedRank_add_half (by omega) (by omega) finite
  unfold shiftedRank
  rw [if_pos one, stage.distance.roundedRank_mul quantaOfOne_pos]
  exact Int.le_trans stage.edge (roundedRank_mono 1 (by omega))

/-- The way down does not lead up. -/
theorem shiftedRank_le (stage : Stage full value top level) (part : Share fraction share)
    (negative : share ≤ 0) : shiftedRank top level share ≤ level := by
  have bounds := part.factor_bounds negative
  unfold shiftedRank
  rw [if_neg (Int.not_lt.mpr negative)]
  exact stage.value.roundedRank_le quantaOfOne_pos
    (Int.mul_le_mul_of_nonneg_left bounds.2 stage.nonnegative)

/-- The way up does not lead down. -/
theorem le_shiftedRank (stage : Stage full value top level) (positive : 0 < share) :
    level ≤ shiftedRank top level share := by
  have gain := stage.gain_nonneg positive
  unfold shiftedRank
  rw [if_pos positive]
  exact stage.value.le_roundedRank Nat.one_pos (by omega)

/-- A larger share never gives a smaller rank, on either side of zero and across it. -/
theorem shiftedRank_mono (stage : Stage full value top level) (part : Share fraction share)
    (le : share ≤ other) : shiftedRank top level share ≤ shiftedRank top level other := by
  by_cases otherPositive : 0 < other
  · by_cases positive : 0 < share
    · unfold shiftedRank
      rw [if_pos positive, if_pos otherPositive]
      refine roundedRank_mono 1 (Int.add_le_add_left (roundedRank_mono _ ?_) level)
      exact Int.mul_le_mul_of_nonneg_left le stage.distance_nonneg
    · exact Int.le_trans (shiftedRank_le stage part (Int.not_lt.mp positive))
        (le_shiftedRank stage otherPositive)
  · unfold shiftedRank
    rw [if_neg (by omega), if_neg otherPositive]
    refine roundedRank_mono _ (Int.mul_le_mul_of_nonneg_left ?_ stage.nonnegative)
    exact roundedRank_mono 1 (Int.add_le_add_left le _)

/-- The rank of a moved value within its range. -/
def movedRank (top level share : Int) : Int := max 0 (min top (shiftedRank top level share))

/-- A value that is shifted and clamped has the rank that the clamped path gives it. -/
theorem rank?_moved (stage : Stage full value top level) (part : Share fraction share) :
    ((shift full value fraction).clamp 0 full).rank? = some (movedRank top level share) := by
  exact rank?_clamp (rank?_shift stage part) counts_zero.rank?_eq stage.full.rank?_eq
    (Int.le_trans stage.nonnegative stage.below)

/-- The clamped path stays between zero and the top. -/
theorem movedRank_bounds (stage : Stage full value top level) (share : Int) :
    0 ≤ movedRank top level share ∧ movedRank top level share ≤ top := by
  have nonnegative := stage.nonnegative
  have below := stage.below
  unfold movedRank
  omega

/-- The clamped path does not turn back. -/
theorem movedRank_mono (stage : Stage full value top level) (part : Share fraction share)
    (le : share ≤ other) : movedRank top level share ≤ movedRank top level other := by
  have shifted := shiftedRank_mono stage part le
  unfold movedRank
  omega

/-- The clamped path begins at zero. -/
theorem movedRank_neg_one (stage : Stage full value top level) :
    movedRank top level (-quantaOfOne) = 0 := by
  have nonnegative := stage.nonnegative
  have below := stage.below
  rw [movedRank, shiftedRank_neg_one]
  omega

/-- The clamped path goes through the value itself. -/
theorem movedRank_zero (stage : Stage full value top level) : movedRank top level 0 = level := by
  have nonnegative := stage.nonnegative
  have below := stage.below
  rw [movedRank, shiftedRank_zero stage]
  omega

/-- The clamped path ends at the top. -/
theorem movedRank_one (stage : Stage full value top level) :
    movedRank top level quantaOfOne = top := by
  have nonnegative := stage.nonnegative
  have below := stage.below
  have reached := le_shiftedRank_one stage
  unfold movedRank
  omega

end Path

/-! ### Fractions, channels and lightnesses -/

theorem share_neg_one : Share (-1) (-quantaOfOne) where
  counts := counts_one.neg
  low := Int.le_refl _
  high := by omega

theorem share_one : Share 1 quantaOfOne where
  counts := counts_one
  low := by omega
  high := Int.le_refl _

theorem neg_one_le_zero : (-1 : Binary64) ≤ 0 :=
  (counts_one.neg.le_iff counts_zero).mpr (by omega)

theorem zero_le_one : (0 : Binary64) ≤ 1 :=
  (counts_zero.le_iff counts_one).mpr (by omega)

theorem share_of_zero {fraction : Binary64} (zero : fraction == 0) : Share fraction 0 := by
  obtain ⟨rank, ranked, zeroRanked⟩ := beq_iff_rank.mp zero
  obtain rfl := Option.some.inj (counts_zero.rank?_eq.symm.trans zeroRanked)
  exact ⟨counts_of_rank ranked quantaLimit_pos, by omega, by omega⟩

theorem exists_share {fraction : Binary64} (low : -1 ≤ fraction) (high : fraction ≤ 1) :
    ∃ share, Share fraction share := by
  obtain ⟨share, counts, lowRank, highRank⟩ := share_neg_one.counts.between counts_one low high
  exact ⟨share, counts, lowRank, highRank⟩

/-- A channel is a stage below 255. -/
theorem stage_channel {value : Int} (nonnegative : 0 ≤ value) (below : value ≤ 255) :
    Stage 255 (ofInt value) (255 * quantaOfOne) (value * quantaOfOne) where
  full := counts_ofInt (n := 255) (by decide)
  value := counts_ofInt (by omega)
  nonnegative := Int.mul_nonneg nonnegative (Int.natCast_nonneg _)
  below := Int.mul_le_mul_of_nonneg_right below (Int.natCast_nonneg _)
  edge := by decide +kernel

/-- A lightness between zero and 100 is a stage below 100. -/
theorem exists_stage_lightness {value : Binary64} (nonnegative : 0 ≤ value) (below : value ≤ 100) :
    ∃ level, Stage 100 value (100 * quantaOfOne) level := by
  have full : Counts 100 (100 * quantaOfOne) := counts_ofInt (n := 100) (by decide)
  obtain ⟨level, counts, lowRank, highRank⟩ := counts_zero.between full nonnegative below
  exact ⟨level, full, counts, lowRank, highRank, by decide +kernel⟩

section Components

variable {fraction other : Binary64}

/-- Fractions in order are shares in order. -/
theorem exists_shares (low : -1 ≤ fraction) (le : fraction ≤ other) (high : other ≤ 1) :
    ∃ share further, Share fraction share ∧ Share other further ∧ share ≤ further := by
  obtain ⟨share, part⟩ := exists_share low (Binary64.le_trans le high)
  obtain ⟨further, otherPart⟩ := exists_share (Binary64.le_trans low le) high
  exact ⟨share, further, part, otherPart,
    (le_iff_rank part.counts.rank?_eq otherPart.counts.rank?_eq).mp le⟩

/-- A moved channel is the clamped path, cut down to a whole number. -/
theorem channel_eq {value share : Int} (nonnegative : 0 ≤ value) (below : value ≤ 255)
    (part : Share fraction share) :
    channel value fraction =
      movedRank (255 * quantaOfOne) (value * quantaOfOne) share / quantaOfOne := by
  have stage := stage_channel nonnegative below
  have bounds := movedRank_bounds stage share
  exact toInt32_eq_ediv (rank?_moved stage part) bounds.1 (by omega)

/-- A larger fraction does not lower a channel. -/
theorem channel_mono {value : Int} (nonnegative : 0 ≤ value) (below : value ≤ 255)
    (low : -1 ≤ fraction) (le : fraction ≤ other) (high : other ≤ 1) :
    channel value fraction ≤ channel value other := by
  obtain ⟨share, further, part, otherPart, shares⟩ := exists_shares low le high
  rw [channel_eq nonnegative below part, channel_eq nonnegative below otherPart]
  exact Int.ediv_le_ediv (Int.natCast_pos.mpr quantaOfOne_pos)
    (movedRank_mono (stage_channel nonnegative below) part shares)

/-- A channel at the ends of the path and at its own value. -/
theorem channel_points {value : Int} (nonnegative : 0 ≤ value) (below : value ≤ 255) :
    channel value (-1) = 0 ∧ (∀ fraction, fraction == 0 → channel value fraction = value) ∧
      channel value 1 = 255 := by
  have stage := stage_channel nonnegative below
  have one : (quantaOfOne : Int) ≠ 0 := Int.ne_of_gt (Int.natCast_pos.mpr quantaOfOne_pos)
  refine ⟨?_, fun fraction zero => ?_, ?_⟩
  · rw [channel_eq nonnegative below share_neg_one, movedRank_neg_one stage, Int.zero_ediv]
  · rw [channel_eq nonnegative below (share_of_zero zero), movedRank_zero stage,
      Int.mul_ediv_cancel _ one]
  · rw [channel_eq nonnegative below share_one, movedRank_one stage, Int.mul_ediv_cancel _ one]

/-- A larger fraction does not lower a lightness. -/
theorem lightness_mono {value : Binary64} (nonnegative : 0 ≤ value) (below : value ≤ 100)
    (low : -1 ≤ fraction) (le : fraction ≤ other) (high : other ≤ 1) :
    lightness value fraction ≤ lightness value other := by
  obtain ⟨share, further, part, otherPart, shares⟩ := exists_shares low le high
  obtain ⟨level, stage⟩ := exists_stage_lightness nonnegative below
  exact (le_iff_rank (rank?_moved stage part) (rank?_moved stage otherPart)).mpr
    (movedRank_mono stage part shares)

/-- A lightness at the ends of the path and at its own value. -/
theorem lightness_points {value : Binary64} (nonnegative : 0 ≤ value) (below : value ≤ 100) :
    lightness value (-1) == 0 ∧ (∀ fraction, fraction == 0 → lightness value fraction == value) ∧
      lightness value 1 == 100 := by
  obtain ⟨level, stage⟩ := exists_stage_lightness nonnegative below
  refine ⟨?_, fun fraction zero => ?_, ?_⟩
  · have moved := rank?_moved stage share_neg_one
    rw [movedRank_neg_one stage] at moved
    exact beq_iff_rank.mpr ⟨0, moved, counts_zero.rank?_eq⟩
  · have moved := rank?_moved stage (share_of_zero zero)
    rw [movedRank_zero stage] at moved
    exact beq_iff_rank.mpr ⟨level, moved, stage.value.rank?_eq⟩
  · have moved := rank?_moved stage share_one
    rw [movedRank_one stage] at moved
    exact beq_iff_rank.mpr ⟨_, moved, stage.full.rank?_eq⟩

end Components

end Brightness

/-! ### Colors -/

namespace Color

/-- The channels of a color that are made brighter or darker. -/
def channels : Color → List Int
  | rgb red green blue | rgba red green blue _ => [red, green, blue]
  | hex text =>
    match HexChannels.decode text with
    | .ok channels => [channels.red.toNat, channels.green.toNat, channels.blue.toNat]
    | .error _ => []
  | _ => []

/-- The lightness of a color that is made brighter or darker. -/
def lightness? : Color → Option Binary64
  | hsl _ _ lightness | hsla _ _ lightness _ => some lightness
  | _ => none

/-- A component of a color rises with the fraction from the least value over its own value to the
greatest.  `read` finds the component in a color, and finds it at every fraction in `[-1, 1]`
because it finds it at `-1`. -/
structure Ascends {α : Type} (color : Color) (read : Color → Option α) (le same : α → α → Prop)
    (least own greatest : α) : Prop where
  rising : ∀ fraction other, -1 ≤ fraction → fraction ≤ other → other ≤ 1 →
    Option.Rel le (read (color.adjustBrightness fraction).value)
      (read (color.adjustBrightness other).value)
  black : Option.Rel same (read (color.adjustBrightness (-1)).value) (some least)
  unmoved : ∀ fraction, fraction == 0 →
    Option.Rel same (read (color.adjustBrightness fraction).value) (some own)
  white : Option.Rel same (read (color.adjustBrightness 1).value) (some greatest)
  lighter : ∀ fraction, 0 ≤ fraction → fraction ≤ 1 →
    Option.Rel le (some own) (read (color.lighter fraction).value)
  darker : ∀ fraction, 0 ≤ fraction → fraction ≤ 1 →
    Option.Rel le (read (color.darker fraction).value) (some own)

variable {color : Color} {fraction : Binary64}

/-- A change within the range moves every channel of a color by one rule. -/
theorem channels_adjustBrightness (inside : Brightness.inRange fraction) :
    (color.adjustBrightness fraction).value.channels =
      color.channels.map (Brightness.channel · fraction) := by
  cases color with
  | hex text =>
      cases decoded : HexChannels.decode text with
      | ok found =>
          rw [adjustBrightness_decodable inside decoded]
          simp only [Advised.plain, channels, HexChannels.decode_encode, decoded,
            Brightness.hexChannels, Brightness.toNat_byte_channel, List.map_cons, List.map_nil]
      | error cause =>
          rw [adjustBrightness_undecodable inside decoded]
          simp only [Advised.unchanged, channels, decoded, List.map_nil]
  | _ =>
      unfold adjustBrightness
      rw [if_pos inside]
      rfl

/-- A change within the range moves the lightness of a color by one rule, if it has one. -/
theorem lightness?_adjustBrightness (inside : Brightness.inRange fraction) :
    (color.adjustBrightness fraction).value.lightness? =
      color.lightness?.map (Brightness.lightness · fraction) := by
  cases color with
  | hex text =>
      cases decoded : HexChannels.decode text with
      | ok found =>
          rw [adjustBrightness_decodable inside decoded]
          rfl
      | error cause =>
          rw [adjustBrightness_undecodable inside decoded]
          rfl
  | _ =>
      unfold adjustBrightness
      rw [if_pos inside]
      rfl

theorem inRange_of_bounds (low : -1 ≤ fraction) (high : fraction ≤ 1) :
    Brightness.inRange fraction :=
  (Brightness.inRange_iff fraction).mpr ⟨low, high⟩

/-- A component that follows a path of its own ascends as the path does. -/
theorem ascends_of_path {α : Type} {read : Color → Option α} {le same : α → α → Prop}
    {least own greatest : α} (path : Binary64 → α)
    (reads : ∀ fraction, Brightness.inRange fraction →
      read (color.adjustBrightness fraction).value = some (path fraction))
    (rising : ∀ {fraction other}, -1 ≤ fraction → fraction ≤ other → other ≤ 1 →
      le (path fraction) (path other))
    (black : same (path (-1)) least)
    (unmoved : ∀ fraction, fraction == 0 → same (path fraction) own)
    (white : same (path 1) greatest)
    (own_le : ∀ {value}, le (path 0) value → le own value)
    (le_own : ∀ {value}, le value (path 0) → le value own) :
    color.Ascends read le same least own greatest := by
  have negative := Brightness.neg_one_le_zero
  have positive := Brightness.zero_le_one
  have whole : (-1 : Binary64) ≤ 1 := Binary64.le_trans negative positive
  constructor
  case rising =>
    intro fraction other low le high
    rw [reads fraction (inRange_of_bounds low (Binary64.le_trans le high)),
      reads other (inRange_of_bounds (Binary64.le_trans low le) high)]
    exact .some (rising low le high)
  case black =>
    rw [reads (-1) (inRange_of_bounds Brightness.counts_one.neg.le_refl whole)]
    exact .some black
  case unmoved =>
    intro fraction zero
    obtain ⟨below, above⟩ := le_of_beq zero
    rw [reads fraction (inRange_of_bounds (Binary64.le_trans negative above)
      (Binary64.le_trans below positive))]
    exact .some (unmoved fraction zero)
  case white =>
    rw [reads 1 (inRange_of_bounds whole Brightness.counts_one.le_refl)]
    exact .some white
  case lighter =>
    intro fraction low high
    -- A lighter color is further along the path than its own place, which is at zero.
    rw [Color.lighter, reads fraction (inRange_of_bounds (Binary64.le_trans negative low) high)]
    exact .some (own_le (rising negative low high))
  case darker =>
    intro fraction low high
    have above : -1 ≤ -fraction := Binary64.neg_le_neg high
    have unsigned : (-0 : Binary64) ≤ 0 := (counts_zero.neg.le_iff counts_zero).mpr (Int.le_refl 0)
    have below : -fraction ≤ 0 := Binary64.le_trans (Binary64.neg_le_neg low) unsigned
    have within := inRange_of_bounds above (Binary64.le_trans below positive)
    rw [Color.darker, reads (-fraction) within]
    exact .some (le_own (rising above below positive))

/-- A channel ascends from zero over its value to 255. -/
theorem ascends_channel {index : Nat} {value : Int} (given : color.channels[index]? = some value)
    (nonnegative : 0 ≤ value) (below : value ≤ 255) :
    color.Ascends (·.channels[index]?) (· ≤ ·) (· = ·) 0 value 255 := by
  obtain ⟨black, unmoved, white⟩ := Brightness.channel_points nonnegative below
  have own : Brightness.channel value 0 = value := unmoved 0 counts_zero.beq_self
  refine ascends_of_path (Brightness.channel value) (fun fraction inside => ?_)
    (Brightness.channel_mono nonnegative below) black unmoved white (fun le => ?_) (fun le => ?_)
  · rw [channels_adjustBrightness inside, List.getElem?_map, given, Option.map_some]
  · rwa [own] at le
  · rwa [own] at le

/-- A lightness ascends from zero over its value to 100. -/
theorem ascends_lightness {value : Binary64} (given : color.lightness? = some value)
    (nonnegative : 0 ≤ value) (below : value ≤ 100) :
    color.Ascends lightness? (· ≤ ·) (· == ·) 0 value 100 := by
  obtain ⟨black, unmoved, white⟩ := Brightness.lightness_points nonnegative below
  obtain ⟨own_le, le_own⟩ := le_of_beq (unmoved 0 counts_zero.beq_self)
  refine ascends_of_path (Brightness.lightness value) (fun fraction inside => ?_)
    (Brightness.lightness_mono nonnegative below) black unmoved white
    (Binary64.le_trans le_own) (fun le => Binary64.le_trans le own_le)
  rw [lightness?_adjustBrightness inside, given, Option.map_some]

/-- **The components of a color ascend from black to white.** Over all fractions in `[-1, 1]`, a
channel in `[0, 255]` and a lightness in `[0, 100]` never fall as the fraction grows; they are zero
at `-1`, unchanged at zero and the largest value at `1`.  So a color made lighter has no component
below its own, and a color made darker none above. -/
theorem components_ascend (color : Color) :
    (∀ (index : Nat) (value : Int), color.channels[index]? = some value →
      0 ≤ value → value ≤ 255 →
      color.Ascends (·.channels[index]?) (· ≤ ·) (· = ·) 0 value 255) ∧
    ∀ value, color.lightness? = some value → 0 ≤ value → value ≤ 100 →
      color.Ascends lightness? (· ≤ ·) (· == ·) 0 value 100 :=
  ⟨fun _ _ => ascends_channel, fun _ => ascends_lightness⟩

/-- The green of three digits, and a lightness that no sum of powers of two writes exactly. -/
theorem components_ascend_shorthand_hsl :
    ((hex "#1aF").channels[1]? = some 170 ∧
        (hex "#1aF").Ascends (·.channels[1]?) (· ≤ ·) (· = ·) 0 170 255) ∧
      ((0 : Binary64) ≤ 0.1 ∧ (0.1 : Binary64) ≤ 100 ∧
        (hsl 210 50 0.1).Ascends lightness? (· ≤ ·) (· == ·) 0 0.1 100) := by
  have green : (hex "#1aF").channels[1]? = some 170 := rfl
  have low : (0 : Binary64) ≤ 0.1 := by decide +kernel
  have high : (0.1 : Binary64) ≤ 100 := by decide +kernel
  obtain ⟨channel, _⟩ := components_ascend (hex "#1aF")
  obtain ⟨_, lightness⟩ := components_ascend (hsl 210 50 0.1)
  exact ⟨⟨green, channel 1 170 green (by omega) (by omega)⟩, low, high, lightness 0.1 rfl low high⟩

end Color
end CssValue
