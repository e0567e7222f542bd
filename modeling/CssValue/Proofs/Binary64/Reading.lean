import CssValue.Proofs.Binary64.Characters
import CssValue.Proofs.Binary64.Order
import CssValue.Proofs.Text.Cut

/-!
# Numbers read back from their text

A finite number is written as a decimal that rounds to it: the search for the shortest one takes no
other, and ends with the exact decimal of the number.  The text of a decimal, in either notation,
shows its digits and place, with some zeros behind them at most.  Reading the text of a number
therefore gives the number, and different numbers have different texts.
-/

namespace CssValue

/-! ### Rounding -/

/-- A common factor does not matter for rounding to nearest. -/
theorem nearestEven_mul_mul (numerator denominator : Nat) {factor : Nat} (positive : 0 < factor) :
    nearestEven (numerator * factor) (denominator * factor) =
      nearestEven numerator denominator := by
  have remainder : 2 * (numerator * factor % (denominator * factor)) =
      2 * (numerator % denominator) * factor := by
    rw [Nat.mul_mod_mul_right, Nat.mul_assoc]
  simp only [nearestEven, Nat.mul_div_mul_right _ _ positive, remainder,
    Nat.mul_lt_mul_right positive]

namespace Decimal

theorem powerOfTen_zero : powerOfTen 0 = 1 := rfl

theorem powerOfTen_pos (exponent : Nat) : 0 < powerOfTen exponent := Nat.pow_pos (by decide)

theorem powerOfTen_eq (exponent : Nat) :
    powerOfTen exponent = Nat.pow 5 exponent * (1 <<< exponent) := by
  rw [Nat.one_shiftLeft]
  exact Nat.mul_pow 5 2 exponent

end Decimal

namespace Binary64

/-- Rounding a quotient does not depend on how the quotient is written. -/
theorem nearestQuanta_mul_mul (numerator denominator : Nat) {factor : Nat}
    (positive : 0 < factor) :
    nearestQuanta (numerator * factor) (denominator * factor) =
      nearestQuanta numerator denominator := by
  simp only [nearestQuanta, Nat.mul_div_mul_right _ _ positive]
  rw [Nat.mul_right_comm, nearestEven_mul_mul _ _ positive]

/-- A quotient is the number that it is rounded to. -/
theorem ofQuotient_congr (negative : Bool) {numerator denominator other otherDenominator : Nat}
    (same : nearestQuanta numerator denominator = nearestQuanta other otherDenominator) :
    ofQuotient negative numerator denominator = ofQuotient negative other otherDenominator := by
  have magnitudes : Magnitude.ofQuotient? numerator denominator =
      Magnitude.ofQuotient? other otherDenominator := by
    by_cases bounded : nearestQuanta numerator denominator < quantaLimit
    · have otherBounded : nearestQuanta other otherDenominator < quantaLimit := by rwa [← same]
      rw [Magnitude.ofQuotient?, Magnitude.ofQuotient?, dif_pos bounded, dif_pos otherBounded,
        Option.some_inj]
      exact Magnitude.ext same
    · have otherUnbounded : ¬ nearestQuanta other otherDenominator < quantaLimit := by
        rwa [← same]
      rw [Magnitude.ofQuotient?, Magnitude.ofQuotient?, dif_neg bounded, dif_neg otherUnbounded]
  unfold ofQuotient
  rw [magnitudes]

/-- A decimal that rounds to the quanta of a magnitude reads as that magnitude. -/
theorem ofDecimal_of_nearestQuanta (negative : Bool) {decimal : Decimal} {magnitude : Magnitude}
    (rounds : decimal.nearestQuanta = magnitude.quanta) :
    ofDecimal negative decimal = finite negative magnitude := by
  have exactly := ofQuotient_exact negative magnitude Nat.one_pos
  rw [ofDecimal, ← exactly]
  exact ofQuotient_congr negative
    (rounds.trans (nearestQuanta_exact Nat.one_pos magnitude.spacing_dvd).symm)

/-- The exact decimal of a magnitude reads as the magnitude. -/
theorem nearestQuanta_exactDecimal (magnitude : Magnitude) :
    (exactDecimal magnitude.quanta).nearestQuanta = magnitude.quanta := by
  have numerator : (exactDecimal magnitude.quanta).numerator =
      magnitude.quanta * Decimal.powerOfTen quantumPlaces := by
    rw [Decimal.numerator, exactDecimal, Int.toNat_neg_natCast, Decimal.powerOfTen_zero,
      Nat.mul_one, Decimal.powerOfTen_eq, quantaOfOne, Nat.mul_assoc]
  have denominator : (exactDecimal magnitude.quanta).denominator =
      Decimal.powerOfTen quantumPlaces := by
    rw [Decimal.denominator, exactDecimal, Int.neg_neg, Int.toNat_natCast]
  rw [Decimal.nearestQuanta, numerator, denominator]
  exact nearestQuanta_exact (Decimal.powerOfTen_pos _) magnitude.spacing_dvd

/-- The search for a decimal ends with one that reads back. -/
theorem nearestQuanta_shortestFrom (magnitude : Magnitude) (count : Nat) :
    (shortestFrom magnitude.quanta count).nearestQuanta = magnitude.quanta := by
  induction count with
  | zero => exact nearestQuanta_exactDecimal magnitude
  | succ count ih =>
      rw [shortestFrom]
      split
      case h_1 decimal found =>
        have reads := List.find?_some found
        exact eq_of_beq reads
      case h_2 => exact ih

/-- The shortest decimal of a magnitude reads as the magnitude. -/
theorem nearestQuanta_shortest (magnitude : Magnitude) :
    (shortest magnitude).nearestQuanta = magnitude.quanta :=
  nearestQuanta_shortestFrom magnitude _

end Binary64

/-! ### Decimals -/

namespace Decimal

/-- The whole number that an exponent shows. -/
def readExponent : List Char → Int
  | '-' :: digits => -(Nat.ofDigitChars 10 digits 0)
  | digits => Nat.ofDigitChars 10 digits 0

/-- The decimal that digits with or without a point show, with the point moved by an exponent. -/
def readSignificand (text : List Char) (exponent : Int) : Decimal :=
  let (whole, fraction) := Text.cut '.' text
  ⟨Nat.ofDigitChars 10 (whole ++ fraction) 0, exponent - fraction.length⟩

/-- The decimal that a text in either notation shows. -/
def read (text : List Char) : Decimal :=
  let (significand, exponent) := Text.cut 'e' text
  readSignificand significand (readExponent exponent)

theorem readExponent_exponentText (exponent : Int) :
    readExponent (exponentText exponent) = exponent := by
  unfold exponentText
  split
  case isTrue negative =>
    rw [readExponent, Nat.ofDigitChars_ten_toDigits]
    omega
  case isFalse nonnegative =>
    -- No digit is the sign.
    have unsigned : readExponent (Nat.toDigits 10 exponent.natAbs) =
        Nat.ofDigitChars 10 (Nat.toDigits 10 exponent.natAbs) 0 := by
      unfold readExponent
      split
      case h_1 digits signed =>
        have digit : '-'.isDigit := isDigit_of_mem_digits (signed ▸ List.mem_cons_self)
        exact absurd digit (by decide)
      case h_2 => rfl
    rw [unsigned, Nat.ofDigitChars_ten_toDigits]
    omega

section Notation

variable {whole fraction : List Char}

theorem not_mem_of_digits {mark : Char} (digits : ∀ c ∈ whole, c.isDigit)
    (notDigit : mark.isDigit = false) : mark ∉ whole := by
  intro member
  rw [digits mark member] at notDigit
  cases notDigit

/-- Digits around a point hold no exponent. -/
theorem exponent_not_mem_of_point (wholeDigits : ∀ c ∈ whole, c.isDigit)
    (fractionDigits : ∀ c ∈ fraction, c.isDigit) : 'e' ∉ whole ++ '.' :: fraction := by
  rw [List.mem_append, List.mem_cons]
  rintro (member | same | member)
  · exact not_mem_of_digits wholeDigits rfl member
  · exact absurd same (by decide)
  · exact not_mem_of_digits fractionDigits rfl member

/-- Digits around a point are read as all of the digits, with the place of the last one. -/
theorem readSignificand_point (wholeDigits : ∀ c ∈ whole, c.isDigit) (exponent : Int) :
    readSignificand (whole ++ '.' :: fraction) exponent =
      ⟨Nat.ofDigitChars 10 (whole ++ fraction) 0, exponent - fraction.length⟩ := by
  have absent : '.' ∉ whole := not_mem_of_digits wholeDigits rfl
  simp only [readSignificand, Text.cut_append _ absent]

/-- Digits without a point are read as a whole number. -/
theorem readSignificand_whole (wholeDigits : ∀ c ∈ whole, c.isDigit) (exponent : Int) :
    readSignificand whole exponent = ⟨Nat.ofDigitChars 10 whole 0, exponent⟩ := by
  have absent : '.' ∉ whole := not_mem_of_digits wholeDigits rfl
  simp only [readSignificand, Text.cut_of_not_mem absent, List.append_nil, List.length_nil,
    Int.natCast_zero, Int.sub_zero]

/-- A text with an exponent is read as its significand, moved by the exponent. -/
theorem read_exponent {significand : List Char} (absent : 'e' ∉ significand) (exponent : Int) :
    read (significand ++ 'e' :: exponentText exponent) = readSignificand significand exponent := by
  simp only [read, Text.cut_append _ absent, readExponent_exponentText]

/-- Digits around a point are read without an exponent. -/
theorem read_point (wholeDigits : ∀ c ∈ whole, c.isDigit)
    (fractionDigits : ∀ c ∈ fraction, c.isDigit) :
    read (whole ++ '.' :: fraction) =
      ⟨Nat.ofDigitChars 10 (whole ++ fraction) 0, -fraction.length⟩ := by
  have absent := exponent_not_mem_of_point wholeDigits fractionDigits
  have unmoved : readExponent [] = 0 := rfl
  simp only [read, Text.cut_of_not_mem absent, unmoved, readSignificand_point wholeDigits,
    Int.zero_sub]

end Notation

/-- Scientific notation shows the digits and the place of a decimal. -/
theorem read_scientific (decimal : Decimal) : read decimal.scientific = decimal := by
  have all : ∀ c ∈ Nat.toDigits 10 decimal.digits, c.isDigit := fun _ => isDigit_of_mem_digits
  have positive : 0 < (Nat.toDigits 10 decimal.digits).length := Nat.length_toDigits_pos
  have shown : Nat.ofDigitChars 10 (Nat.toDigits 10 decimal.digits) 0 = decimal.digits :=
    Nat.ofDigitChars_ten_toDigits
  unfold scientific
  generalize Nat.toDigits 10 decimal.digits = digits at all positive shown
  have first : ∀ c ∈ digits.take 1, c.isDigit := fun c member => all c (List.mem_of_mem_take member)
  have later : ∀ c ∈ digits.drop 1, c.isDigit := fun c member => all c (List.mem_of_mem_drop member)
  dsimp only
  by_cases single : digits.length = 1
  · have whole : digits.take 1 = digits := List.take_of_length_le (Nat.le_of_eq single)
    have place : decimal.place + digits.length - 1 = decimal.place := by omega
    rw [if_pos single, List.append_nil, read_exponent (not_mem_of_digits first rfl),
      readSignificand_whole first, whole, shown, place]
  · have place : decimal.place + digits.length - 1 - (digits.length - 1 : Nat) =
        decimal.place := by omega
    rw [if_neg single, read_exponent (exponent_not_mem_of_point first later),
      readSignificand_point first, List.take_append_drop, shown, List.length_drop, place]

/-- Positional notation shows the digits and the place of a decimal; of a whole number it shows the
zeros up to the point and one behind it as well. -/
theorem read_positional (decimal : Decimal) :
    read decimal.positional = decimal ∨
      0 ≤ decimal.place ∧ read decimal.positional =
        ⟨decimal.digits * powerOfTen (decimal.place.toNat + 1), -1⟩ := by
  have all : ∀ c ∈ Nat.toDigits 10 decimal.digits, c.isDigit := fun _ => isDigit_of_mem_digits
  have positive : 0 < (Nat.toDigits 10 decimal.digits).length := Nat.length_toDigits_pos
  have shown : Nat.ofDigitChars 10 (Nat.toDigits 10 decimal.digits) 0 = decimal.digits :=
    Nat.ofDigitChars_ten_toDigits
  have zeros : ∀ count, ∀ c ∈ List.replicate count '0', c.isDigit := fun count c member => by
    rw [(List.mem_replicate.mp member).2]
    rfl
  have zero : ∀ c ∈ ['0'], c.isDigit := zeros 1
  unfold positional
  generalize Nat.toDigits 10 decimal.digits = digits at all positive shown
  dsimp only
  split
  case isTrue whole =>
    have before : ∀ c ∈ digits ++ List.replicate decimal.place.toNat '0', c.isDigit :=
      fun c member => (List.mem_append.mp member).elim (all c) (zeros _ c)
    have padded : digits ++ List.replicate decimal.place.toNat '0' ++ ['0'] =
        digits ++ List.replicate (decimal.place.toNat + 1) '0' := by
      rw [List.append_assoc, List.replicate_succ']
    refine Or.inr ⟨whole, ?_⟩
    rw [read_point before zero, padded, Nat.ofDigitChars_append,
      Nat.ofDigitChars_replicate_zero, shown, Nat.mul_comm]
    rfl
  case isFalse fractional =>
    left
    split
    case isTrue longer =>
      rw [read_point (fun c member => all c (List.mem_of_mem_take member))
        (fun c member => all c (List.mem_of_mem_drop member)), List.take_append_drop, shown,
        List.length_drop]
      have place : -((digits.length - (digits.length - (-decimal.place).toNat) : Nat) : Int) =
          decimal.place := by omega
      rw [place]
    case isFalse =>
      have behind : ∀ c ∈ List.replicate ((-decimal.place).toNat - digits.length) '0' ++ digits,
          c.isDigit :=
        fun c member => (List.mem_append.mp member).elim (zeros _ c) (all c)
      have place : -(((-decimal.place).toNat - digits.length + digits.length : Nat) : Int) =
          decimal.place := by omega
      have unpadded : Nat.ofDigitChars 10
          (['0'] ++ (List.replicate ((-decimal.place).toNat - digits.length) '0' ++ digits)) 0 =
            decimal.digits := by
        have none : Nat.ofDigitChars 10 ['0'] 0 = 0 := rfl
        rw [Nat.ofDigitChars_append, none, Nat.ofDigitChars_append,
          Nat.ofDigitChars_replicate_zero, Nat.mul_zero, shown]
      have text := read_point zero behind
      rwa [unpadded, List.length_append, List.length_replicate, place] at text

/-- Ten times the digits, one place further down, round to the same number. -/
theorem nearestQuanta_padded (digits places : Nat) :
    nearestQuanta ⟨digits * powerOfTen (places + 1), -1⟩ = nearestQuanta ⟨digits, places⟩ := by
  have numerators : numerator ⟨digits * powerOfTen (places + 1), -1⟩ =
      numerator ⟨digits, places⟩ * 10 := by
    have power : powerOfTen (places + 1) = powerOfTen places * 10 := rfl
    have one : powerOfTen (-1 : Int).toNat = 1 := rfl
    simp only [numerator, power, one, Int.toNat_natCast, Nat.mul_one]
    ac_rfl
  have denominators : denominator ⟨digits * powerOfTen (places + 1), -1⟩ =
      denominator ⟨digits, places⟩ * 10 := by
    have ten : powerOfTen (- -1 : Int).toNat = 10 := rfl
    simp only [denominator, ten, Int.toNat_neg_natCast, powerOfTen_zero, Nat.one_mul]
  rw [nearestQuanta, nearestQuanta, numerators, denominators,
    Binary64.nearestQuanta_mul_mul _ _ (by decide)]

/-- The text of a decimal reads as the number that the decimal reads as. -/
theorem ofDecimal_read_characters (negative : Bool) (decimal : Decimal) :
    Binary64.ofDecimal negative (read decimal.characters) =
      Binary64.ofDecimal negative decimal := by
  unfold characters
  dsimp only
  split
  · rcases read_positional decimal with same | ⟨whole, padded⟩
    · rw [same]
    · obtain ⟨digits, place⟩ := decimal
      obtain ⟨places, rfl⟩ := Int.eq_ofNat_of_zero_le whole
      rw [padded]
      exact Binary64.ofQuotient_congr negative (nearestQuanta_padded digits places)
  · rw [read_scientific]

end Decimal

/-! ### Numbers -/

/-- The text begins with a digit. -/
def startsDigit (text : List Char) : Bool := text.head?.any Char.isDigit

theorem startsDigit_append {front : List Char} (back : List Char) (starts : startsDigit front) :
    startsDigit (front ++ back) := by
  cases front with
  | nil => exact (Bool.false_ne_true starts).elim
  | cons c rest => exact starts

theorem startsDigit_of_digits {text : List Char} (digits : ∀ c ∈ text, c.isDigit)
    (present : text ≠ []) : startsDigit text := by
  cases text with
  | nil => exact (present rfl).elim
  | cons c rest => exact digits c List.mem_cons_self

namespace Decimal

/-- A decimal begins with a digit, in either notation. -/
theorem startsDigit_characters (decimal : Decimal) : startsDigit decimal.characters := by
  have all : ∀ c ∈ Nat.toDigits 10 decimal.digits, c.isDigit := fun _ => isDigit_of_mem_digits
  have positive : 0 < (Nat.toDigits 10 decimal.digits).length := Nat.length_toDigits_pos
  unfold characters positional scientific
  generalize Nat.toDigits 10 decimal.digits = digits at all positive
  have front : ∀ {count}, 0 < count → startsDigit (digits.take count) := fun some =>
    startsDigit_of_digits (fun c member => all c (List.mem_of_mem_take member))
      (List.ne_nil_of_length_pos (by rw [List.length_take]; omega))
  dsimp only
  split
  · split
    · have whole := front positive
      rw [List.take_length] at whole
      exact startsDigit_append _ (startsDigit_append _ whole)
    · split
      · exact startsDigit_append _ (front (by omega))
      · rfl
  · exact startsDigit_append _ (startsDigit_append _ (front Nat.one_pos))

end Decimal

namespace Binary64

/-- The number that a text without a sign shows, with the given sign. -/
def readUnsigned (negative : Bool) (text : List Char) : Binary64 :=
  if text = ['i', 'n', 'f'] then infinity negative else ofDecimal negative (Decimal.read text)

/-- The number that a text shows. -/
def read (text : List Char) : Binary64 :=
  match text with
  | ['N', 'a', 'N'] => nan
  | '-' :: magnitude => readUnsigned true magnitude
  | magnitude => readUnsigned false magnitude

/-- The sign of a text is read before its magnitude. -/
theorem read_signed {magnitude : List Char} (negative : Bool)
    (starts : startsDigit magnitude ∨ magnitude = ['i', 'n', 'f']) :
    read (signed negative magnitude) = readUnsigned negative magnitude := by
  cases negative with
  | true => rfl
  | false =>
      unfold read signed
      rw [if_neg Bool.false_ne_true]
      split
      · rcases starts with digit | same
        · exact (Bool.false_ne_true digit).elim
        · exact absurd same (by decide)
      · rcases starts with digit | same
        · exact (Bool.false_ne_true digit).elim
        · cases same
      · rfl

/-- A text that begins with a digit is read as a decimal. -/
theorem readUnsigned_of_startsDigit {text : List Char} (negative : Bool)
    (starts : startsDigit text) :
    readUnsigned negative text = ofDecimal negative (Decimal.read text) := by
  have number : text ≠ ['i', 'n', 'f'] := by
    rintro rfl
    exact Bool.false_ne_true starts
  rw [readUnsigned, if_neg number]

/-- **The text of a number reads back as the number.** -/
theorem read_characters (x : Binary64) : read x.characters = x := by
  cases x with
  | nan => rfl
  | infinity negative => exact read_signed negative (Or.inr rfl)
  | finite negative magnitude =>
      by_cases zero : magnitude.quanta = 0
      · have starts : startsDigit ['0', '.', '0'] := rfl
        have nothing : Decimal.read ['0', '.', '0'] = ⟨0, -1⟩ := rfl
        have rounds : Decimal.nearestQuanta ⟨0, -1⟩ = magnitude.quanta := by
          rw [zero]
          decide +kernel
        rw [characters, if_pos zero, read_signed negative (Or.inl starts),
          readUnsigned_of_startsDigit negative starts, nothing,
          ofDecimal_of_nearestQuanta negative rounds]
      · have starts := Decimal.startsDigit_characters (shortest magnitude)
        rw [characters, if_neg zero, read_signed negative (Or.inl starts),
          readUnsigned_of_startsDigit negative starts, Decimal.ofDecimal_read_characters,
          ofDecimal_of_nearestQuanta negative (nearestQuanta_shortest magnitude)]

/-- Numbers with the same text are the same: the sign of a zero is written, and there is one `nan`.
-/
theorem text_injective {x y : Binary64} (same : x.text = y.text) : x = y := by
  rw [← read_characters x, ← read_characters y]
  exact congrArg read (String.ofList_injective same)

end Binary64
end CssValue
