import CssValue.Binary64.Rounding

/-!
# Binary64 numbers

The numbers of CSS values are binary64: not a number, a signed infinity, or a sign with a magnitude
on the grid of `CssValue.Binary64.Rounding`.  Every operation computes the exact result in whole
numbers and rounds it once, to nearest with ties to even.

Equality of numbers (`=`) tells the two zeros apart.  The comparisons `==`, `<` and `≤` are
numerical: the zeros are equal to each other, and nothing compares with `nan`, itself included.
-/

namespace CssValue

/-- A finite magnitude: a number of quanta that the format has. -/
@[ext] structure Magnitude where
  quanta : Nat
  quanta_lt : quanta < Binary64.quantaLimit
  spacing_dvd : Binary64.spacing quanta ∣ quanta
deriving DecidableEq

/-- A binary64 number. -/
inductive Binary64 where
  | nan
  | infinity (negative : Bool)
  | finite (negative : Bool) (magnitude : Magnitude)
deriving DecidableEq

namespace Magnitude

/-- The magnitude of the zeros. -/
def zero : Magnitude := ⟨0, Binary64.quantaLimit_pos, Nat.dvd_zero _⟩

/-- The magnitude nearest to a quotient of quanta, unless rounding leaves the finite range. -/
def ofQuotient? (numerator denominator : Nat) : Option Magnitude :=
  if bounded : Binary64.nearestQuanta numerator denominator < Binary64.quantaLimit then
    some ⟨_, bounded, Binary64.spacing_dvd_nearestQuanta numerator denominator⟩
  else none

end Magnitude

namespace Binary64

/-- The number nearest to a signed quotient of quanta; an infinity beyond the finite range. -/
def ofQuotient (negative : Bool) (numerator denominator : Nat) : Binary64 :=
  match Magnitude.ofQuotient? numerator denominator with
  | some magnitude => finite negative magnitude
  | none => infinity negative

/-- The zero of the given sign. -/
def zero (negative : Bool) : Binary64 := finite negative .zero

/-- The whole number, rounded to the format. -/
def ofInt (n : Int) : Binary64 := ofQuotient (n < 0) (n.natAbs * quantaOfOne) 1

instance (n : Nat) : OfNat Binary64 n := ⟨ofInt n⟩

/-- Neither infinite nor `nan`. -/
def isFinite : Binary64 → Bool
  | finite _ _ => true
  | _ => false

/-- The value in quanta of a finite number. -/
def signedQuanta (negative : Bool) (magnitude : Magnitude) : Int :=
  if negative then -(magnitude.quanta : Int) else magnitude.quanta

/-- The place of a number in the numerical order; `nan` has none, and both zeros share one. -/
def rank? : Binary64 → Option Int
  | nan => none
  | infinity negative => some (if negative then -(quantaLimit : Int) else quantaLimit)
  | finite negative magnitude => some (signedQuanta negative magnitude)

/-- Numerical comparison by `relation`, which never holds of `nan`. -/
def compareBy (relation : Int → Int → Bool) (x y : Binary64) : Bool :=
  match x.rank?, y.rank? with
  | some left, some right => relation left right
  | _, _ => false

instance : BEq Binary64 := ⟨compareBy (· == ·)⟩
instance : LT Binary64 := ⟨fun x y => compareBy (fun left right => decide (left < right)) x y⟩
instance : LE Binary64 := ⟨fun x y => compareBy (fun left right => decide (left ≤ right)) x y⟩

instance (x y : Binary64) : Decidable (x < y) :=
  inferInstanceAs (Decidable (compareBy (fun left right => decide (left < right)) x y = true))

instance (x y : Binary64) : Decidable (x ≤ y) :=
  inferInstanceAs (Decidable (compareBy (fun left right => decide (left ≤ right)) x y = true))

/-- The number with its sign turned. -/
def neg : Binary64 → Binary64
  | nan => nan
  | infinity negative => infinity !negative
  | finite negative magnitude => finite (!negative) magnitude

/-- The number without its sign. -/
def abs : Binary64 → Binary64
  | nan => nan
  | infinity _ => infinity false
  | finite _ magnitude => finite false magnitude

/-- The rounded sum.  An exact zero is negative only as the sum of two negative zeros. -/
def add : Binary64 → Binary64 → Binary64
  | nan, _ | _, nan => nan
  | infinity s, infinity t => if s = t then infinity s else nan
  | infinity s, finite _ _ => infinity s
  | finite _ _, infinity t => infinity t
  | finite s x, finite t y =>
    let sum := signedQuanta s x + signedQuanta t y
    if sum = 0 then zero (s && t) else ofQuotient (sum < 0) sum.natAbs 1

/-- The rounded product; an infinity times a zero is `nan`. -/
def mul : Binary64 → Binary64 → Binary64
  | nan, _ | _, nan => nan
  | infinity s, infinity t => infinity (s != t)
  | infinity s, finite t y => if y.quanta = 0 then nan else infinity (s != t)
  | finite s x, infinity t => if x.quanta = 0 then nan else infinity (s != t)
  | finite s x, finite t y => ofQuotient (s != t) (x.quanta * y.quanta) quantaOfOne

/-- The rounded quotient.  A number other than zero divided by zero is an infinity; zero by zero
and infinity by infinity are `nan`. -/
def div : Binary64 → Binary64 → Binary64
  | nan, _ | _, nan => nan
  | infinity _, infinity _ => nan
  | infinity s, finite t _ => infinity (s != t)
  | finite s _, infinity t => zero (s != t)
  | finite s x, finite t y =>
    if y.quanta = 0 then (if x.quanta = 0 then nan else infinity (s != t))
    else ofQuotient (s != t) (x.quanta * quantaOfOne) y.quanta

instance : Neg Binary64 := ⟨neg⟩
instance : Add Binary64 := ⟨add⟩
instance : Sub Binary64 := ⟨fun x y => add x (neg y)⟩
instance : Mul Binary64 := ⟨mul⟩
instance : Div Binary64 := ⟨div⟩

/-- The number moved into `[low, high]`; `nan` stays. -/
def clamp (x low high : Binary64) : Binary64 :=
  if x < low then low else if high < x then high else x

/-- The number without its fraction, moved into `[low, high]`; `nan` gives zero. -/
def truncateInto (x : Binary64) (low high : Int) : Int :=
  match x with
  | nan => 0
  | infinity negative => if negative then low else high
  | finite negative magnitude =>
    let whole : Int := magnitude.quanta / quantaOfOne
    max low (min high (if negative then -whole else whole))

/-- The number without its fraction as a whole number of thirty-two bits with sign.  A number beyond
their range gives the end of the range that is nearer, and `nan` gives zero. -/
def toInt32 (x : Binary64) : Int := x.truncateInto (-2147483648) 2147483647

/-- The number stored in the sixty-four bits `word`: sign, eleven bits of exponent, fraction.
Every word for `nan` gives the one `nan`. -/
def ofBits (word : UInt64) : Binary64 :=
  let negative := word.toNat >>> 63 = 1
  let exponent := word.toNat >>> 52 % 2048
  let fraction := word.toNat % 1 <<< 52
  if exponent = 2047 then
    if fraction = 0 then infinity negative else nan
  else if exponent = 0 then ofQuotient negative fraction 1
  else ofQuotient negative ((1 <<< 52 + fraction) <<< (exponent - 1)) 1

end Binary64
end CssValue
