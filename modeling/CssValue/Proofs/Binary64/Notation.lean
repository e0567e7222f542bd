import CssValue.Proofs.Binary64.Exceptional

/-!
# The two notations of a number

A finite number is written with a point and digits on both sides of it, or in scientific notation,
where the point may be missing.  The exponent of the shortest decimal chooses between the two.
Rounding keeps the order of decimals, and so this exponent tells on which side of `0.0001` and of
`10 ^ 16` the number lies, although the decimal is not the number itself.  The notation with a point
is that of the zeros and of the numbers between these two bounds in size.
-/

namespace CssValue

/-! ### The forms of a text -/

/-- Digits, one at least, and nothing else. -/
structure IsDigits (text : List Char) : Prop where
  present : text ≠ []
  digits : ∀ c ∈ text, c.isDigit

/-- A minus sign or none, digits, a point, and digits behind it. -/
def KeepsFraction (text : String) : Prop :=
  ∃ negative whole fraction, text.toList = Binary64.signed negative (whole ++ '.' :: fraction) ∧
    IsDigits whole ∧ IsDigits fraction

/-- One digit other than zero, with a point and more digits behind it if there are more. -/
inductive IsSignificand : List Char → Prop
  | lone {first : Char} (digit : first.isDigit) (nonzero : first ≠ '0') : IsSignificand [first]
  | pointed {first : Char} {fraction : List Char} (digit : first.isDigit) (nonzero : first ≠ '0')
      (behind : IsDigits fraction) : IsSignificand (first :: '.' :: fraction)

/-- A minus sign or none, a significand, and an exponent below `-4` or from `16` on. -/
def IsScientific (text : String) : Prop :=
  ∃ negative significand exponent, text.toList =
      Binary64.signed negative (significand ++ 'e' :: Decimal.exponentText exponent) ∧
    IsSignificand significand ∧ (exponent < -4 ∨ 16 ≤ exponent)

/-- Digits with more digits behind them are digits, and there still is one. -/
theorem IsDigits.append {front back : List Char} (first : IsDigits front)
    (second : ∀ c ∈ back, c.isDigit) : IsDigits (front ++ back) where
  present := List.append_ne_nil_of_left_ne_nil first.present back
  digits c member := (List.mem_append.mp member).elim (first.digits c) (second c)

theorem isDigits_toDigits (n : Nat) : IsDigits (Nat.toDigits 10 n) :=
  ⟨Nat.toDigits_ne_nil, fun _ => isDigit_of_mem_digits⟩

theorem isDigit_of_mem_zeros {count : Nat} {c : Char} (member : c ∈ List.replicate count '0') :
    c.isDigit := by
  rw [(List.mem_replicate.mp member).2]
  rfl

theorem isDigits_zero : IsDigits ['0'] := isDigits_toDigits 0

theorem Binary64.mem_signed {negative : Bool} {text : List Char} {c : Char}
    (member : c ∈ signed negative text) : c = '-' ∨ c ∈ text := by
  cases negative with
  | false => exact Or.inr member
  | true => exact List.mem_cons.mp member

/-- No text is in both notations. -/
theorem KeepsFraction.not_isScientific {text : String} (keeps : KeepsFraction text) :
    ¬ IsScientific text := by
  obtain ⟨negative, whole, fraction, written, before, behind⟩ := keeps
  rintro ⟨sign, significand, exponent, scientific, _, _⟩
  have mark : 'e' ∈ text.toList := by
    rw [scientific]
    cases sign <;> simp [Binary64.signed]
  rw [written] at mark
  rcases Binary64.mem_signed mark with same | member
  · exact absurd same (by decide)
  · exact Decimal.exponent_not_mem_of_point before.digits behind.digits member

/-! ### Decimals in both notations -/

namespace Decimal

/-- The power of ten at the first digit of a decimal. -/
def exponent (decimal : Decimal) : Int :=
  decimal.place + (Nat.toDigits 10 decimal.digits).length - 1

/-- The exponent of a decimal chooses its notation. -/
theorem characters_eq (decimal : Decimal) :
    decimal.characters = if -4 ≤ decimal.exponent ∧ decimal.exponent < 16 then decimal.positional
      else decimal.scientific := rfl

/-- Positional notation has a digit at least on both sides of the point. -/
theorem exists_positional_eq (decimal : Decimal) :
    ∃ whole fraction, decimal.positional = whole ++ '.' :: fraction ∧ IsDigits whole ∧
      IsDigits fraction := by
  have written := isDigits_toDigits decimal.digits
  unfold positional
  generalize Nat.toDigits 10 decimal.digits = digits at written
  dsimp only
  split
  case isTrue whole =>
    exact ⟨_, ['0'], rfl, written.append fun _ => isDigit_of_mem_zeros, isDigits_zero⟩
  case isFalse fractional =>
    split
    case isTrue longer =>
      refine ⟨_, _, rfl, ⟨?_, ?_⟩, ?_, ?_⟩
      · rw [Ne, List.take_eq_nil_iff]
        exact not_or.mpr ⟨by omega, written.present⟩
      · exact fun c member => written.digits c (List.mem_of_mem_take member)
      · rw [Ne, List.drop_eq_nil_iff]
        omega
      · exact fun c member => written.digits c (List.mem_of_mem_drop member)
    case isFalse =>
      refine ⟨['0'], _, rfl, isDigits_zero, ?_, ?_⟩
      · exact List.append_ne_nil_of_right_ne_nil _ written.present
      · exact fun c member => (List.mem_append.mp member).elim isDigit_of_mem_zeros
          (written.digits c)

/-- The digits of a number other than zero do not begin with a zero. -/
theorem head_toDigits_ne_zero {n : Nat} (nonzero : n ≠ 0) :
    (Nat.toDigits 10 n).head? ≠ some '0' := by
  induction n using Nat.strongRecOn with
  | ind n ih =>
      rcases Nat.lt_or_ge n 10 with small | large
      · have single : ∀ digit < 10, digit ≠ 0 → Nat.digitChar digit ≠ '0' := by decide
        rw [Nat.toDigits_of_lt_base small, List.head?_cons, ne_eq, Option.some_inj]
        exact single n small nonzero
      · have shorter : n / 10 < n := Nat.div_lt_self (by omega) (by decide)
        have first := ih (n / 10) shorter (by omega)
        rw [List.head?_eq_some_head Nat.toDigits_ne_nil] at first
        rw [Nat.toDigits_of_base_le (by decide) large, List.head?_append,
          List.head?_eq_some_head Nat.toDigits_ne_nil, Option.some_or]
        exact first

/-- Scientific notation is a significand and the exponent of the decimal. -/
theorem exists_scientific_eq {decimal : Decimal} (nonzero : decimal.digits ≠ 0) :
    ∃ significand, decimal.scientific = significand ++ 'e' :: exponentText decimal.exponent ∧
      IsSignificand significand := by
  have written := isDigits_toDigits decimal.digits
  have begins := head_toDigits_ne_zero nonzero
  unfold scientific exponent
  generalize Nat.toDigits 10 decimal.digits = digits at written begins
  cases digits with
  | nil => exact (written.present rfl).elim
  | cons first rest =>
      have digit : first.isDigit := written.digits first List.mem_cons_self
      have leading : first ≠ '0' := fun same => begins (congrArg some same)
      cases rest with
      | nil => exact ⟨[first], rfl, .lone digit leading⟩
      | cons second others =>
          refine ⟨first :: '.' :: second :: others, rfl, .pointed digit leading ?_⟩
          exact ⟨List.cons_ne_nil _ _, fun c member =>
            written.digits c (List.mem_cons_of_mem first member)⟩

/-! ### Decimals in order -/

theorem powerOfTen_add (first second : Nat) :
    powerOfTen (first + second) = powerOfTen first * powerOfTen second := Nat.pow_add 10 _ _

theorem powerOfTen_mono {small large : Nat} (le : small ≤ large) :
    powerOfTen small ≤ powerOfTen large := Nat.pow_le_pow_right (by decide) le

/-- A cross product of decimals: the digits of the one and the powers of ten of both, in quanta. -/
theorem numerator_mul_denominator (first second : Decimal) :
    first.numerator * second.denominator =
      first.digits * powerOfTen (first.place.toNat + (-second.place).toNat) *
        Binary64.quantaOfOne := by
  rw [numerator, denominator, powerOfTen_add]
  ac_rfl

/-- Decimals are rounded in their order. -/
theorem nearestQuanta_le_of_le {first second : Decimal}
    (le : first.digits * powerOfTen (first.place.toNat + (-second.place).toNat) ≤
      second.digits * powerOfTen (second.place.toNat + (-first.place).toNat)) :
    first.nearestQuanta ≤ second.nearestQuanta := by
  have firstPositive : 0 < first.denominator := powerOfTen_pos _
  have secondPositive : 0 < second.denominator := powerOfTen_pos _
  have crossed : first.numerator * second.denominator ≤ second.numerator * first.denominator := by
    rw [numerator_mul_denominator, numerator_mul_denominator]
    exact Nat.mul_le_mul_right _ le
  rw [nearestQuanta, nearestQuanta, ← Binary64.nearestQuanta_mul_mul _ _ secondPositive,
    ← Binary64.nearestQuanta_mul_mul second.numerator _ firstPositive,
    Nat.mul_comm second.denominator]
  exact Binary64.nearestQuanta_mono _ crossed

/-- A whole number lies between the powers of ten that the count of its digits names. -/
theorem digits_bounds {n : Nat} (nonzero : n ≠ 0) :
    powerOfTen ((Nat.toDigits 10 n).length - 1) ≤ n ∧
      n < powerOfTen (Nat.toDigits 10 n).length := by
  have positive : 0 < (Nat.toDigits 10 n).length := Nat.length_toDigits_pos
  constructor
  · by_cases single : (Nat.toDigits 10 n).length - 1 = 0
    · rw [single, powerOfTen_zero]
      exact Nat.pos_of_ne_zero nonzero
    · refine Nat.le_of_not_lt fun less => ?_
      have fewer := (Nat.length_toDigits_le_iff (by decide) (Nat.pos_of_ne_zero single)).mpr less
      omega
  · exact (Nat.length_toDigits_le_iff (by decide) positive).mp (Nat.le_refl _)

/-- The decimal `10 ^ power`. -/
def tenTo (power : Int) : Decimal := ⟨1, power⟩

variable {decimal : Decimal} {power : Int}

/-- A decimal is not rounded below the power of ten at its first digit. -/
theorem nearestQuanta_tenTo_le (nonzero : decimal.digits ≠ 0) (le : power ≤ decimal.exponent) :
    (tenTo power).nearestQuanta ≤ decimal.nearestQuanta := by
  have lower := (digits_bounds nonzero).1
  have positive : 0 < (Nat.toDigits 10 decimal.digits).length := Nat.length_toDigits_pos
  unfold exponent at le
  apply nearestQuanta_le_of_le
  calc (tenTo power).digits * powerOfTen (power.toNat + (-decimal.place).toNat)
      = powerOfTen (power.toNat + (-decimal.place).toNat) := Nat.one_mul _
    _ ≤ powerOfTen ((Nat.toDigits 10 decimal.digits).length - 1 +
          (decimal.place.toNat + (-power).toNat)) := powerOfTen_mono (by omega)
    _ = powerOfTen ((Nat.toDigits 10 decimal.digits).length - 1) *
          powerOfTen (decimal.place.toNat + (-power).toNat) := powerOfTen_add _ _
    _ ≤ decimal.digits * powerOfTen (decimal.place.toNat + (-power).toNat) :=
        Nat.mul_le_mul_right _ lower

/-- A decimal is not rounded above the next power of ten. -/
theorem nearestQuanta_le_tenTo (nonzero : decimal.digits ≠ 0) (less : decimal.exponent < power) :
    decimal.nearestQuanta ≤ (tenTo power).nearestQuanta := by
  have upper := (digits_bounds nonzero).2
  unfold exponent at less
  apply nearestQuanta_le_of_le
  calc decimal.digits * powerOfTen (decimal.place.toNat + (-power).toNat)
      ≤ powerOfTen (Nat.toDigits 10 decimal.digits).length *
          powerOfTen (decimal.place.toNat + (-power).toNat) :=
        Nat.mul_le_mul_right _ (Nat.le_of_lt upper)
    _ = powerOfTen ((Nat.toDigits 10 decimal.digits).length +
          (decimal.place.toNat + (-power).toNat)) := (powerOfTen_add _ _).symm
    _ ≤ powerOfTen (power.toNat + (-decimal.place).toNat) := powerOfTen_mono (by omega)
    _ = (tenTo power).digits * powerOfTen (power.toNat + (-decimal.place).toNat) :=
        (Nat.one_mul _).symm

end Decimal

/-! ### The sizes of the two notations -/

namespace Binary64

open Decimal (tenTo)

/-- The number is a zero, or is from `0.0001` up to `10 ^ 16` in size. -/
def IsModerate (x : Binary64) : Prop := x == 0 ∨ (1e-4 ≤ x.abs ∧ x.abs < 1e16)

instance : DecidablePred IsModerate :=
  fun x => inferInstanceAs (Decidable (x == 0 ∨ (1e-4 ≤ x.abs ∧ x.abs < 1e16)))

/-- The magnitude nearest to `0.0001`. -/
def moderateLeast : Magnitude :=
  ⟨(tenTo (-4)).nearestQuanta, by decide +kernel, spacing_dvd_nearestQuanta _ _⟩

/-- The magnitude `10 ^ 16`, where scientific notation begins. -/
def moderateLimit : Magnitude :=
  ⟨(tenTo 16).nearestQuanta, by decide +kernel, spacing_dvd_nearestQuanta _ _⟩

/-- The shortest decimal of the least moderate magnitude is `10 ^ -4`. -/
theorem shortest_moderateLeast : shortest moderateLeast = tenTo (-4) := by decide +kernel

/-- The shortest decimal of the limit of the moderate magnitudes is `10 ^ 16`. -/
theorem shortest_moderateLimit : shortest moderateLimit = tenTo 16 := by decide +kernel

theorem exponent_tenTo (power : Int) : (tenTo power).exponent = power := by
  have single : Nat.toDigits 10 (tenTo power).digits = ['1'] :=
    Nat.toDigits_of_lt_base (by decide : 1 < 10)
  rw [Decimal.exponent, single]
  exact Int.add_sub_cancel power 1

variable {magnitude bound : Magnitude} {negative : Bool} {power : Int}

/-- The shortest decimal of a magnitude other than zero is not zero. -/
theorem digits_shortest_ne_zero (nonzero : magnitude.quanta ≠ 0) :
    (shortest magnitude).digits ≠ 0 := by
  intro none
  have reads := nearestQuanta_shortest magnitude
  rw [Decimal.nearestQuanta, Decimal.numerator, none, Nat.zero_mul, Nat.zero_mul,
    nearestQuanta_zero] at reads
  exact nonzero reads.symm

/-- Where a power of ten is the shortest decimal of its nearest number, the numbers that reach this
one are those with an exponent that reaches the power. -/
theorem le_quanta_iff (written : shortest bound = tenTo power) (nonzero : magnitude.quanta ≠ 0) :
    bound.quanta ≤ magnitude.quanta ↔ power ≤ (shortest magnitude).exponent := by
  have digits := digits_shortest_ne_zero nonzero
  have reads := nearestQuanta_shortest magnitude
  have boundReads := nearestQuanta_shortest bound
  rw [written] at boundReads
  constructor
  · intro reached
    refine Int.not_lt.mp fun less => ?_
    have below := Decimal.nearestQuanta_le_tenTo digits less
    rw [reads, boundReads] at below
    -- Rounding may join a smaller decimal with the power, but then the power is written.
    obtain rfl : magnitude = bound := Magnitude.ext (Nat.le_antisymm below reached)
    rw [written, exponent_tenTo] at less
    exact Int.lt_irrefl power less
  · intro reached
    have above := Decimal.nearestQuanta_tenTo_le digits reached
    rwa [reads, boundReads] at above

theorem counts_abs (negative : Bool) (magnitude : Magnitude) :
    Counts (finite negative magnitude).abs magnitude.quanta := ⟨false, magnitude, rfl, rfl⟩

/-- A decimal that is rounded to a magnitude counts the quanta of the magnitude. -/
theorem counts_ofDecimal {decimal : Decimal} (rounds : decimal.nearestQuanta = magnitude.quanta) :
    Counts (ofDecimal false decimal) magnitude.quanta :=
  ⟨false, magnitude, ofDecimal_of_nearestQuanta false rounds, rfl⟩

/-- The literal `1e-4` is the least moderate magnitude. -/
theorem counts_moderateLeast : Counts 1e-4 moderateLeast.quanta := by
  have literal : (1e-4 : Binary64) = ofDecimal false (tenTo (-4)) := rfl
  exact literal ▸ counts_ofDecimal rfl

/-- The literal `1e16` is the limit of the moderate magnitudes. -/
theorem counts_moderateLimit : Counts 1e16 moderateLimit.quanta := by
  have literal : (1e16 : Binary64) = ofDecimal false (tenTo 16) := rfl
  exact literal ▸ counts_ofDecimal rfl

/-- The numbers of moderate size are those with an exponent that positional notation takes. -/
theorem isModerate_iff_exponent (nonzero : magnitude.quanta ≠ 0) :
    (finite negative magnitude).IsModerate ↔
      -4 ≤ (shortest magnitude).exponent ∧ (shortest magnitude).exponent < 16 := by
  have size := counts_abs negative magnitude
  have least := le_quanta_iff shortest_moderateLeast nonzero
  have limit := le_quanta_iff shortest_moderateLimit nonzero
  rw [IsModerate, finite_beq_zero_iff, or_iff_right nonzero, counts_moderateLeast.le_iff size,
    lt_iff_rank size.rank?_eq counts_moderateLimit.rank?_eq, Int.ofNat_le, Int.ofNat_lt, least]
  omega

/-- A finite number is written as its shortest decimal behind its sign, and a zero with a fraction.
-/
theorem toList_text_finite (negative : Bool) (magnitude : Magnitude) :
    (finite negative magnitude).text.toList = signed negative (if magnitude.quanta = 0 then
      ['0', '.', '0'] else (shortest magnitude).characters) := String.toList_ofList

/-- A number of moderate size is written with digits on both sides of a point. -/
theorem keepsFraction_of_isModerate (moderate : (finite negative magnitude).IsModerate) :
    KeepsFraction (finite negative magnitude).text := by
  by_cases none : magnitude.quanta = 0
  · refine ⟨negative, ['0'], ['0'], ?_, isDigits_zero, isDigits_zero⟩
    rw [toList_text_finite, if_pos none]
    rfl
  · have exponent := (isModerate_iff_exponent none).mp moderate
    obtain ⟨whole, fraction, written, before, behind⟩ := (shortest magnitude).exists_positional_eq
    refine ⟨negative, whole, fraction, ?_, before, behind⟩
    rw [toList_text_finite, if_neg none, Decimal.characters_eq, if_pos exponent, written]

/-- Any other finite number is written in scientific notation. -/
theorem isScientific_of_not_isModerate (extreme : ¬ (finite negative magnitude).IsModerate) :
    IsScientific (finite negative magnitude).text := by
  have nonzero : magnitude.quanta ≠ 0 := fun none => extreme (Or.inl (finite_beq_zero_iff.mpr none))
  have exponent := mt (isModerate_iff_exponent nonzero).mpr extreme
  obtain ⟨significand, written, shown⟩ :=
    Decimal.exists_scientific_eq (digits_shortest_ne_zero nonzero)
  refine ⟨negative, significand, (shortest magnitude).exponent, ?_, shown, by omega⟩
  rw [toList_text_finite, if_neg nonzero, Decimal.characters_eq, if_neg exponent, written]

/-- A finite number is written with a fraction if it is of moderate size, and in scientific notation
otherwise. -/
theorem notation_of_isFinite {x : Binary64} (finite : x.isFinite) :
    (KeepsFraction x.text ↔ x.IsModerate) ∧ (IsScientific x.text ↔ ¬ x.IsModerate) := by
  obtain ⟨_, negative, magnitude, rfl, _⟩ := exists_counts finite
  by_cases moderate : (Binary64.finite negative magnitude).IsModerate
  · have keeps := keepsFraction_of_isModerate moderate
    exact ⟨iff_of_true keeps moderate, iff_of_false keeps.not_isScientific (not_not_intro moderate)⟩
  · have scientific := isScientific_of_not_isModerate moderate
    exact ⟨iff_of_false (fun keeps => keeps.not_isScientific scientific) moderate,
      iff_of_true scientific moderate⟩

end Binary64
end CssValue
