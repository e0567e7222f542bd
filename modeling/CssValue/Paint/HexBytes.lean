import CssValue.Paint.Hex

/-!
# Reading hexadecimal colors by bytes

How the channels of a hexadecimal color are read: the bytes of the text are tested, counted, and cut
into pairs, and each pair is read as a number.  A cut fails inside a character or beyond the end of
the text, and the reader of numbers takes more than two digits, so each step says by its own fault
why the reading stopped.
-/

namespace CssValue

/-- Why a hexadecimal color was not read. -/
inductive HexFault where
  /-- A byte does not write a digit. -/
  | noDigit
  /-- There are not three, six or eight digits. -/
  | digitCount
  /-- A pair is cut where no character begins or ends. -/
  | brokenCut
  /-- A pair is no number of a byte. -/
  | noByte
deriving DecidableEq

namespace Hex

/-- The bytes that encode some characters. -/
def bytes (characters : List Char) : List UInt8 := characters.flatMap String.utf8EncodeChar

/-- The byte encodes a hexadecimal digit of either letter case. -/
def isDigitByte (byte : UInt8) : Bool :=
  (0x30 ≤ byte && byte ≤ 0x39) || (0x41 ≤ byte && byte ≤ 0x46) || (0x61 ≤ byte && byte ≤ 0x66)

/-- The characters before and behind an offset in bytes, if it falls between two characters. -/
def splitAtByte? : Nat → List Char → Option (List Char × List Char)
  | 0, characters => some ([], characters)
  | _ + 1, [] => none
  | offset + 1, c :: rest =>
    if c.utf8Size ≤ offset + 1 then
      (splitAtByte? (offset + 1 - c.utf8Size) rest).map fun (front, back) => (c :: front, back)
    else none

/-- The characters of two bytes from an offset on. -/
def pairAt? (characters : List Char) (offset : Nat) : Option (List Char) := do
  let (_, behind) ← splitAtByte? offset characters
  let (pair, _) ← splitAtByte? 2 behind
  return pair

/-- A number with one more digit, if a byte can hold it. -/
def appendDigit? (number : UInt8) (c : Char) : Option UInt8 := do
  let digit ← digit? c
  let longer := 16 * number.toNat + digit.val
  if longer < 256 then some (UInt8.ofNat longer) else none

/-- The number that hexadecimal digits write, with or without a plus sign in front of them. -/
def number? : List Char → Option UInt8
  | [] | ['+'] => none
  | '+' :: digits => digits.foldlM appendDigit? 0
  | digits => digits.foldlM appendDigit? 0

/-- The digits of a color, three of which are doubled one by one. -/
def expand (digits : List Char) : Except HexFault (List Char) :=
  match (bytes digits).length with
  | 3 => .ok (digits.flatMap fun c => [c, c])
  | 6 | 8 => .ok digits
  | _ => .error .digitCount

/-- The channel that the pair at an offset writes. -/
def channelAt (digits : List Char) (offset : Nat) : Except HexFault UInt8 :=
  match pairAt? digits offset with
  | none => .error .brokenCut
  | some pair =>
    match number? pair with
    | none => .error .noByte
    | some channel => .ok channel

/-- The channel of a fourth pair, if there is one. -/
def alphaOf (digits : List Char) : Except HexFault (Option UInt8) :=
  if (bytes digits).length = 8 then some <$> channelAt digits 6 else .ok none

end Hex

namespace HexChannels

/-- The channels that pairs of digits write; a fourth pair is the alpha channel. -/
def ofPairs (digits : List Char) : Except HexFault HexChannels := do
  let red ← Hex.channelAt digits 0
  let green ← Hex.channelAt digits 2
  let blue ← Hex.channelAt digits 4
  let alpha? ← Hex.alphaOf digits
  return ⟨red, green, blue, alpha?⟩

/-- The channels of a hexadecimal color, read by the bytes of its text. -/
def read (text : String) : Except HexFault HexChannels :=
  let digits := Hex.bare text
  if (Hex.bytes digits).all Hex.isDigitByte then Hex.expand digits >>= ofPairs
  else .error .noDigit

end HexChannels
end CssValue
