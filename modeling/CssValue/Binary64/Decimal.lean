import CssValue.Binary64.Basic

/-!
# Decimal numbers

Reading a decimal as the nearest binary64 number, and literals such as `0.25`.
-/

namespace CssValue

/-- The decimal number `digits * 10 ^ place`. -/
structure Decimal where
  digits : Nat
  place : Int
deriving DecidableEq

namespace Decimal

/-- A power of ten. -/
def powerOfTen (exponent : Nat) : Nat := Nat.pow 10 exponent

/-- The numerator of the number of quanta in a decimal. -/
def numerator (decimal : Decimal) : Nat :=
  decimal.digits * Binary64.quantaOfOne * powerOfTen decimal.place.toNat

/-- The denominator of the number of quanta in a decimal. -/
def denominator (decimal : Decimal) : Nat := powerOfTen (-decimal.place).toNat

/-- The number of quanta that a decimal reads as, were the range unlimited. -/
def nearestQuanta (decimal : Decimal) : Nat :=
  Binary64.nearestQuanta decimal.numerator decimal.denominator

end Decimal

namespace Binary64

/-- The number that a signed decimal reads as. -/
def ofDecimal (negative : Bool) (decimal : Decimal) : Binary64 :=
  ofQuotient negative decimal.numerator decimal.denominator

instance : OfScientific Binary64 where
  ofScientific digits negativeExponent exponent :=
    ofDecimal false ⟨digits, if negativeExponent then -(exponent : Int) else exponent⟩

end Binary64
end CssValue
