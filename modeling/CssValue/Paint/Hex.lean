import CssValue.Diagnostics.Advice

/-!
# Hexadecimal colors

The channels behind the digits of a hexadecimal color.  Three digits are doubled one by one, six are
taken in pairs, and eight have the alpha channel as their last pair.
-/

namespace CssValue

/-- The channels of a hexadecimal color. -/
structure HexChannels where
  red : UInt8
  green : UInt8
  blue : UInt8
  alpha? : Option UInt8
deriving DecidableEq

namespace Hex

/-- The value of a hexadecimal digit of either letter case. -/
def digit? (c : Char) : Option (Fin 16) :=
  if '0' ≤ c ∧ c ≤ '9' then some (Fin.ofNat 16 (c.toNat - '0'.toNat))
  else if 'a' ≤ c ∧ c ≤ 'f' then some (Fin.ofNat 16 (c.toNat - 'a'.toNat + 10))
  else if 'A' ≤ c ∧ c ≤ 'F' then some (Fin.ofNat 16 (c.toNat - 'A'.toNat + 10))
  else none

def character (digit : Fin 16) : Char := (Nat.digitChar digit.val).toUpper

def byte (high low : Fin 16) : UInt8 := UInt8.ofNat (16 * high.val + low.val)

/-- The values of the two digits of a byte. -/
def halves (byte : UInt8) : List (Fin 16) :=
  [Fin.ofNat 16 (byte.toNat / 16), Fin.ofNat 16 byte.toNat]

/-- The two digits of a byte. -/
def pair (byte : UInt8) : List Char := (halves byte).map character

/-- The text without the number signs in front of it. -/
def bare (text : String) : List Char := text.toList.dropWhile (· == '#')

end Hex

namespace HexChannels

open Hex in
/-- The channels that a list of digits stands for. -/
def ofDigits? : List (Fin 16) → Option HexChannels
  | [r, g, b] => some ⟨byte r r, byte g g, byte b b, none⟩
  | [r, r', g, g', b, b'] => some ⟨byte r r', byte g g', byte b b', none⟩
  | [r, r', g, g', b, b', a, a'] => some ⟨byte r r', byte g g', byte b b', some (byte a a')⟩
  | _ => none

/-- The channels of a hexadecimal color, with any number of number signs in front of its digits. -/
def decode (text : String) : Except ValueError HexChannels :=
  match (Hex.bare text).mapM Hex.digit? >>= ofDigits? with
  | some channels => .ok channels
  | none => .error (.invalidHex text)

/-- The channels as a number sign and six or eight digits in upper case. -/
def encode (channels : HexChannels) : String :=
  let alpha := channels.alpha?.elim [] Hex.pair
  String.ofList <|
    '#' :: (Hex.pair channels.red ++ Hex.pair channels.green ++ Hex.pair channels.blue ++ alpha)

end HexChannels
end CssValue
