import CssValue.Binary64.Decimal

/-!
# The text of a number

A finite number is written with the fewest decimal digits that read back as the same number.  Of
several such decimals the nearest one is taken, and of two equally near ones the larger.  The text
is positional, with at least one digit behind the point, from `0.0001` up to `10 ^ 16`, and
scientific outside.
-/

namespace CssValue.Binary64

/-- The whole multiples of `10 ^ place` next to a magnitude, the nearer one first; of two equally
near ones the larger comes first. -/
def neighbours (quanta : Nat) (place : Int) : List Decimal :=
  let numerator := quanta * Decimal.powerOfTen (-place).toNat
  let denominator := quantaOfOne * Decimal.powerOfTen place.toNat
  let below : Decimal := ⟨numerator / denominator, place⟩
  let above : Decimal := ⟨numerator / denominator + 1, place⟩
  if 2 * (numerator % denominator) < denominator then [below, above] else [above, below]

/-- The decimal that writes a magnitude exactly.  A quantum has as many decimal places as it has
binary ones, since `2 ^ -n` is `5 ^ n * 10 ^ -n`. -/
def exactDecimal (quanta : Nat) : Decimal :=
  ⟨quanta * Nat.pow 5 quantumPlaces, -quantumPlaces⟩

/-- The first decimal that reads back, on the grids of step `10 ^ (count - quantumPlaces)` and
finer. -/
def shortestFrom (quanta : Nat) : Nat → Decimal
  | 0 => exactDecimal quanta
  | count + 1 =>
    let place : Int := (count : Int) + 1 - quantumPlaces
    match (neighbours quanta place).find? (·.nearestQuanta == quanta) with
    | some decimal => decimal
    | none => shortestFrom quanta count

/-- The shortest decimal that reads back as the given magnitude.  The search starts at a power of
ten above the magnitude, on a grid that has no decimal of fewer digits to offer. -/
def shortest (magnitude : Magnitude) : Decimal :=
  let wholeDigits := (Nat.toDigits 10 (magnitude.quanta / quantaOfOne)).length
  shortestFrom magnitude.quanta (quantumPlaces + wholeDigits)

end Binary64

namespace Decimal

/-- The text of an exponent: a minus sign where one is due, and digits. -/
def exponentText (exponent : Int) : List Char :=
  if exponent < 0 then '-' :: Nat.toDigits 10 exponent.natAbs else Nat.toDigits 10 exponent.natAbs

/-- The decimal written out, with the point among or beside its digits. -/
def positional (decimal : Decimal) : List Char :=
  let digits := Nat.toDigits 10 decimal.digits
  if 0 ≤ decimal.place then digits ++ List.replicate decimal.place.toNat '0' ++ ['.', '0']
  else
    let behind := (-decimal.place).toNat
    if behind < digits.length then
      digits.take (digits.length - behind) ++ '.' :: digits.drop (digits.length - behind)
    else '0' :: '.' :: (List.replicate (behind - digits.length) '0' ++ digits)

/-- The decimal with one digit before the point and an exponent of ten; a lone digit has no
point. -/
def scientific (decimal : Decimal) : List Char :=
  let digits := Nat.toDigits 10 decimal.digits
  let exponent := decimal.place + digits.length - 1
  let fraction := if digits.length = 1 then [] else '.' :: digits.drop 1
  digits.take 1 ++ fraction ++ 'e' :: exponentText exponent

/-- The decimal in the notation that its size asks for. -/
def characters (decimal : Decimal) : List Char :=
  let exponent := decimal.place + (Nat.toDigits 10 decimal.digits).length - 1
  if -4 ≤ exponent ∧ exponent < 16 then decimal.positional else decimal.scientific

end Decimal

namespace Binary64

/-- The sign and the characters of a magnitude. -/
def signed (negative : Bool) (magnitude : List Char) : List Char :=
  if negative then '-' :: magnitude else magnitude

/-- The characters of a number. -/
def characters : Binary64 → List Char
  | nan => ['N', 'a', 'N']
  | infinity negative => signed negative ['i', 'n', 'f']
  | finite negative magnitude =>
    signed negative <|
      if magnitude.quanta = 0 then ['0', '.', '0'] else (shortest magnitude).characters

/-- The text of a number. -/
def text (x : Binary64) : String := String.ofList x.characters

/-- The text of a number rounded to two places behind the point, from its exact value, with a half
going to the even digit. -/
def hundredthsText : Binary64 → String
  | finite negative magnitude =>
    let hundredths := nearestEven (magnitude.quanta * 100) quantaOfOne
    let fraction := hundredths % 100
    String.ofList <| signed negative <|
      Nat.toDigits 10 (hundredths / 100) ++
        ['.', Nat.digitChar (fraction / 10), Nat.digitChar (fraction % 10)]
  | x => x.text

/-- A fraction as a percentage with two places, such as `50.00%` for one half. -/
def percentageText (fraction : Binary64) : String := (fraction * 100).hundredthsText ++ "%"

end Binary64
end CssValue
