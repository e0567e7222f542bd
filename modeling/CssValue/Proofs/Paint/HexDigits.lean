import CssValue.Paint.Hex

/-!
# Written channels

The channels of a hexadecimal color are written in a canonical form, a number sign and six or eight
digits in upper case, and the written form decodes to the channels that it was written from.
-/

namespace CssValue

namespace Hex

/-- A written digit is read back. -/
theorem digit?_character : ∀ digit : Fin 16, digit? (character digit) = some digit := by decide

theorem character_ne_numberSign : ∀ digit : Fin 16, character digit ≠ '#' := by decide

theorem character_mem_upperCase :
    ∀ digit : Fin 16, character digit ∈ "0123456789ABCDEF".toList := by decide

/-- The two digits of a byte stand for that byte. -/
theorem byte_halves (whole : UInt8) :
    byte (Fin.ofNat 16 (whole.toNat / 16)) (Fin.ofNat 16 whole.toNat) = whole := by
  have bounded : whole.toNat < 256 := whole.toNat_lt
  have sum : 16 * (whole.toNat / 16 % 16) + whole.toNat % 16 = whole.toNat := by omega
  rw [byte, Fin.val_ofNat, Fin.val_ofNat, sum, UInt8.ofNat_toNat]

theorem mapM_digit?_character (digits : List (Fin 16)) :
    (digits.map character).mapM digit? = some digits := by
  induction digits with
  | nil => rfl
  | cons digit rest ih =>
      rw [List.map_cons, List.mapM_cons, ih, digit?_character]
      rfl

/-- The text is a number sign and six or eight hexadecimal digits in upper case. -/
def IsCanonical (text : String) : Prop :=
  ∃ digits : List Char, text.toList = '#' :: digits ∧ (digits.length = 6 ∨ digits.length = 8) ∧
    ∀ c ∈ digits, c ∈ "0123456789ABCDEF".toList

end Hex

namespace HexChannels

def digits (channels : HexChannels) : List (Fin 16) :=
  Hex.halves channels.red ++ Hex.halves channels.green ++ Hex.halves channels.blue ++
    channels.alpha?.elim [] Hex.halves

/-- Channels are written as a number sign with their digits behind it. -/
theorem toList_encode (channels : HexChannels) :
    channels.encode.toList = '#' :: channels.digits.map Hex.character := by
  obtain ⟨red, green, blue, alpha?⟩ := channels
  cases alpha? <;> simp [encode, digits, Hex.pair]

/-- Channels have six digits, and eight with an alpha channel. -/
theorem length_digits (channels : HexChannels) :
    channels.digits.length = if channels.alpha?.isSome then 8 else 6 := by
  obtain ⟨red, green, blue, alpha?⟩ := channels
  cases alpha? <;> rfl

/-- Channels are read back from their digits. -/
theorem ofDigits?_digits (channels : HexChannels) : ofDigits? channels.digits = some channels := by
  obtain ⟨red, green, blue, alpha?⟩ := channels
  cases alpha? with
  | none =>
      simp only [digits, Hex.halves, Option.elim, List.cons_append, List.nil_append, ofDigits?,
        Hex.byte_halves]
  | some alpha =>
      simp only [digits, Hex.halves, Option.elim, List.cons_append, List.nil_append, ofDigits?,
        Hex.byte_halves]

/-- Only the number sign stands before the digits of written channels. -/
theorem bare_encode (channels : HexChannels) :
    Hex.bare channels.encode = channels.digits.map Hex.character := by
  have first : ∃ digit rest, channels.digits = digit :: rest := ⟨_, _, rfl⟩
  obtain ⟨digit, rest, written⟩ := first
  have bare : (Hex.character digit == '#') = false :=
    beq_false_of_ne (Hex.character_ne_numberSign digit)
  rw [Hex.bare, toList_encode, written, List.map_cons, List.dropWhile_cons_of_pos (by rfl),
    List.dropWhile_cons_of_neg (by rw [bare]; exact Bool.false_ne_true)]

/-- Channels are read back from their written form. -/
theorem decode_encode (channels : HexChannels) : decode channels.encode = .ok channels := by
  unfold decode
  rw [bare_encode, Hex.mapM_digit?_character, Option.bind_eq_bind, Option.bind_some,
    ofDigits?_digits]

/-- The written form of channels is canonical. -/
theorem isCanonical_encode (channels : HexChannels) : Hex.IsCanonical channels.encode := by
  refine ⟨channels.digits.map Hex.character, toList_encode channels, ?_, ?_⟩
  · rw [List.length_map, length_digits]
    cases channels.alpha?.isSome
    · exact Or.inl rfl
    · exact Or.inr rfl
  · intro c written
    obtain ⟨digit, _, rfl⟩ := List.mem_map.mp written
    exact Hex.character_mem_upperCase digit

end HexChannels
end CssValue
