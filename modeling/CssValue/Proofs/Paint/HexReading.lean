import CssValue.Paint.HexBytes
import CssValue.Proofs.Paint.HexNotation

/-!
# Which texts are hexadecimal colors

Reading the bytes of a text never stops inside a pair of digits: once all bytes are those of digits,
every character is a single byte, so the cuts fall between characters, and two digits always write a
byte.  The reading therefore stops only for a byte that writes no digit or for the number of digits,
and otherwise gives the channels that the notation stands for.
-/

namespace CssValue

namespace Hex

/-! ### Bytes -/

/-- A character beyond the first 128 has a byte that no digit has. -/
theorem exists_high_byte {c : Char} (high : 0x7f < c.val.toNat) :
    ∃ byte ∈ String.utf8EncodeChar c, 0x80 ≤ byte.toNat := by
  have last : 0x80 ≤ (UInt8.ofNat (c.val.toNat % 0x40 + 0x80)).toNat := by
    rw [UInt8.toNat_ofNat']
    omega
  refine ⟨_, ?_, last⟩
  unfold String.utf8EncodeChar
  dsimp only
  rw [if_neg (by omega)]
  split
  · exact List.mem_cons_of_mem _ List.mem_cons_self
  · split
    · exact List.mem_cons_of_mem _ (List.mem_cons_of_mem _ List.mem_cons_self)
    · exact List.mem_cons_of_mem _
        (List.mem_cons_of_mem _ (List.mem_cons_of_mem _ List.mem_cons_self))

theorem isDigitByte_lt {byte : UInt8} (digit : isDigitByte byte) : byte.toNat < 0x80 := by
  simp only [isDigitByte, Bool.or_eq_true, Bool.and_eq_true, decide_eq_true_eq,
    UInt8.le_iff_toNat_le] at digit
  have nine : (0x39 : UInt8).toNat = 57 := rfl
  have capital : (0x46 : UInt8).toNat = 70 := rfl
  have small : (0x66 : UInt8).toNat = 102 := rfl
  omega

theorem utf8Size_of_mem {c : Char} (member : c ∈ alphabet) : c.utf8Size = 1 := by
  have single : alphabet.all fun c => c.utf8Size == 1 := by decide +kernel
  exact eq_of_beq (List.all_eq_true.mp single c member)

/-- The bytes of a character are those of a digit just when the character is a digit. -/
theorem all_isDigitByte_iff (c : Char) :
    (String.utf8EncodeChar c).all isDigitByte ↔ c ∈ alphabet := by
  by_cases low : c.toNat < 128
  · have same : ((String.utf8EncodeChar c).all isDigitByte == alphabet.contains c) = true :=
      holds_of_code (fun c => (String.utf8EncodeChar c).all isDigitByte == alphabet.contains c)
        0 128 (Nat.zero_le _) (by omega) (by decide +kernel)
    rw [eq_of_beq same, List.contains_iff_mem]
  · constructor
    · intro all
      obtain ⟨byte, member, high⟩ := exists_high_byte (c := c) (Nat.le_of_not_lt low)
      have digit := isDigitByte_lt (List.all_eq_true.mp all byte member)
      omega
    · intro member
      have single := Char.utf8Size_eq_one_iff.mp (utf8Size_of_mem member)
      exact (low (Nat.lt_succ_of_le (UInt32.le_iff_toNat_le.mp single))).elim

/-- The bytes of a text are all those of digits just when its characters are digits. -/
theorem all_isDigitByte_bytes (characters : List Char) :
    (bytes characters).all isDigitByte ↔ ∀ c ∈ characters, c ∈ alphabet := by
  simp only [bytes, List.all_flatMap, List.all_eq_true (l := characters), all_isDigitByte_iff]

/-- The characters are single bytes. -/
def Single (characters : List Char) : Prop := ∀ c ∈ characters, c.utf8Size = 1

theorem single_of_listed {characters : List Char} (listed : ∀ c ∈ characters, c ∈ alphabet) :
    Single characters :=
  fun c member => utf8Size_of_mem (listed c member)

theorem length_bytes {characters : List Char} (single : Single characters) :
    (bytes characters).length = characters.length := by
  induction characters with
  | nil => rfl
  | cons c rest ih =>
      obtain ⟨first, others⟩ := List.forall_mem_cons.mp single
      rw [bytes, List.flatMap_cons, List.length_append, String.length_utf8EncodeChar, first,
        List.length_cons, Nat.add_comm]
      exact congrArg (· + 1) (ih others)

/-- Single bytes are cut at any offset. -/
theorem splitAtByte?_append {front : List Char} (single : Single front) (back : List Char) :
    splitAtByte? front.length (front ++ back) = some (front, back) := by
  induction front with
  | nil => cases back <;> rfl
  | cons c rest ih =>
      obtain ⟨first, others⟩ := List.forall_mem_cons.mp single
      rw [List.length_cons, List.cons_append, splitAtByte?, first, if_pos (by omega),
        Nat.add_sub_cancel, ih others]
      rfl

/-! ### Pairs -/

variable {high low : Char} {first second : Fin 16}

/-- A digit is appended to a number as long as the number fits into a byte. -/
theorem appendDigit?_of_lt {number : UInt8} (read : digit? low = some second)
    (bounded : 16 * number.toNat + second.val < 256) :
    appendDigit? number low = some (UInt8.ofNat (16 * number.toNat + second.val)) := by
  unfold appendDigit?
  rw [read, Option.bind_eq_bind, Option.bind_some]
  exact if_pos bounded

/-- Two digits write a byte. -/
theorem number?_pair (highRead : digit? high = some first) (lowRead : digit? low = some second) :
    number? [high, low] = some (byte first second) := by
  have unsigned : high ≠ '+' := by
    rintro rfl
    cases highRead
  have digits : number? [high, low] = [high, low].foldlM appendDigit? 0 := by
    unfold number?
    split <;> simp_all
  have firstByte : appendDigit? 0 high = some (UInt8.ofNat first.val) := by
    rw [appendDigit?_of_lt highRead (by rw [UInt8.toNat_zero]; omega), UInt8.toNat_zero,
      Nat.mul_zero, Nat.zero_add]
  have firstValue : (UInt8.ofNat first.val).toNat = first.val := by
    rw [UInt8.toNat_ofNat', Nat.mod_eq_of_lt (by omega)]
  have secondByte : appendDigit? (UInt8.ofNat first.val) low = some (byte first second) := by
    rw [appendDigit?_of_lt lowRead (by rw [firstValue]; omega), firstValue]
    rfl
  rw [digits, List.foldlM_cons, firstByte, Option.bind_eq_bind, Option.bind_some, List.foldlM_cons,
    secondByte]
  rfl

/-- The pair of digits behind the front of a text is read as its byte. -/
theorem channelAt_append (front back : List Char) (single : Single (front ++ high :: low :: back))
    (highRead : digit? high = some first) (lowRead : digit? low = some second) :
    channelAt (front ++ high :: low :: back) front.length = .ok (byte first second) := by
  obtain ⟨frontSingle, rest⟩ := List.forall_mem_append.mp single
  obtain ⟨highSingle, rest⟩ := List.forall_mem_cons.mp rest
  obtain ⟨lowSingle, _⟩ := List.forall_mem_cons.mp rest
  have pairSingle : Single [high, low] :=
    List.forall_mem_cons.mpr ⟨highSingle, List.forall_mem_singleton.mpr lowSingle⟩
  have cut : pairAt? (front ++ high :: low :: back) front.length = some [high, low] := by
    have pair : splitAtByte? 2 (high :: low :: back) = some ([high, low], back) :=
      splitAtByte?_append pairSingle back
    unfold pairAt?
    rw [splitAtByte?_append frontSingle]
    simp only [Option.bind_eq_bind, Option.bind_some, pair]
    rfl
  simp only [channelAt, cut, number?_pair highRead lowRead]

/-- The first of the digits that were read belongs to the first character. -/
theorem exists_cons_of_mapM {characters : List Char} {digits : List (Fin 16)}
    (read : characters.mapM digit? = some (first :: digits)) :
    ∃ c rest, characters = c :: rest ∧ digit? c = some first ∧ rest.mapM digit? = some digits := by
  cases characters with
  | nil => cases read
  | cons c rest =>
      rw [List.mapM_cons] at read
      obtain ⟨digit, firstRead, read⟩ := Option.bind_eq_some_iff.mp read
      obtain ⟨others, restRead, read⟩ := Option.bind_eq_some_iff.mp read
      cases read
      exact ⟨c, rest, rfl, firstRead, restRead⟩

/-- The digits that were read in front belong to the characters in front. -/
theorem exists_append_of_mapM {characters : List Char} {front back : List (Fin 16)}
    (read : characters.mapM digit? = some (front ++ back)) :
    ∃ before behind, characters = before ++ behind ∧ before.length = front.length ∧
      behind.mapM digit? = some back := by
  induction front generalizing characters with
  | nil => exact ⟨[], characters, rfl, rfl, read⟩
  | cons digit others ih =>
      obtain ⟨c, rest, rfl, _, restRead⟩ := exists_cons_of_mapM read
      obtain ⟨before, behind, rfl, length, backRead⟩ := ih restRead
      exact ⟨c :: before, behind, rfl, congrArg (· + 1) length, backRead⟩

/-- The pair of digits at an offset is read as the byte of its values. -/
theorem channelAt_of_mapM {characters : List Char} (offset : Nat) (front back : List (Fin 16))
    (before : front.length = offset)
    (read : characters.mapM digit? = some (front ++ first :: second :: back)) :
    channelAt characters offset = .ok (byte first second) := by
  have single : Single characters := single_of_listed (mem_alphabet_of_mapM read)
  obtain ⟨skipped, behind, rfl, length, behindRead⟩ := exists_append_of_mapM read
  obtain ⟨high, behind, rfl, highRead, behindRead⟩ := exists_cons_of_mapM behindRead
  obtain ⟨low, behind, rfl, lowRead, _⟩ := exists_cons_of_mapM behindRead
  rw [← before, ← length]
  exact channelAt_append skipped behind single highRead lowRead

theorem mem_doubled {α : Type} {digits : List α} {digit : α} (member : digit ∈ doubled digits) :
    digit ∈ digits := by
  unfold doubled at member
  split at member
  · obtain ⟨single, listed, copy⟩ := List.mem_flatMap.mp member
    simp only [List.mem_cons, List.not_mem_nil, or_false, or_self] at copy
    rwa [copy]
  · exact member

/-- Doubled characters are read as doubled digits. -/
theorem mapM_doubled {characters : List Char} {digits : List (Fin 16)}
    (read : characters.mapM digit? = some digits) :
    (doubled characters).mapM digit? = some (doubled digits) := by
  obtain ⟨found, doubledRead⟩ := exists_mapM_digit? fun c member =>
    mem_alphabet_of_mapM read c (mem_doubled member)
  have same : found.map Fin.val = (doubled digits).map Fin.val := by
    rw [map_eq_of_mapM val_of_digit? doubledRead, map_doubled, map_doubled,
      map_eq_of_mapM val_of_digit? read]
  rw [doubledRead, (List.map_inj_right fun _ _ => Fin.ext).mp same]

/-- Doubled digits come in pairs, and there is a fourth pair only if there are eight of them. -/
theorem length_doubled {α : Type} {digits : List α} (count : IsCount digits.length) :
    (doubled digits).length = if digits.length = 8 then 8 else 6 := by
  unfold doubled
  rcases count with three | six | eight
  · have distinct : ¬ digits.length = 8 := by omega
    rw [if_pos three, if_neg distinct, List.length_flatMap]
    simp only [List.length_cons, List.length_nil, List.map_const', List.sum_replicate_nat, three]
  · rw [if_neg (by omega), if_neg (by omega), six]
  · rw [if_neg (by omega), if_pos eight, eight]

end Hex

namespace HexChannels

open Hex

/-- Pairs of digits are read as the channels that the digits stand for. -/
theorem ofPairs_eq_ok {characters : List Char} {digits : List (Fin 16)} {channels : HexChannels}
    (read : characters.mapM digit? = some digits) (paired : digits.length ≠ 3)
    (given : ofDigits? digits = some channels) : ofPairs characters = .ok channels := by
  have count : (bytes characters).length = digits.length := by
    rw [length_bytes (single_of_listed (mem_alphabet_of_mapM read)), length_of_mapM read]
  unfold ofDigits? at given
  split at given
  case h_1 => exact (paired rfl).elim
  case h_2 r r' g g' b b' =>
    have red := channelAt_of_mapM 0 [] _ rfl read
    have green := channelAt_of_mapM 2 [r, r'] _ rfl read
    have blue := channelAt_of_mapM 4 [r, r', g, g'] _ rfl read
    have noAlpha : alphaOf characters = .ok none := if_neg (count ▸ (by decide : ¬ 6 = 8))
    unfold ofPairs
    rw [red, green, blue, noAlpha, ← Option.some.inj given]
    rfl
  case h_3 r r' g g' b b' a a' =>
    have red := channelAt_of_mapM 0 [] _ rfl read
    have green := channelAt_of_mapM 2 [r, r'] _ rfl read
    have blue := channelAt_of_mapM 4 [r, r', g, g'] _ rfl read
    have alpha := channelAt_of_mapM 6 [r, r', g, g', b, b'] _ rfl read
    have someAlpha : alphaOf characters = some <$> .ok (byte a a') := by
      rw [← alpha]
      exact if_pos count
    unfold ofPairs
    rw [red, green, blue, someAlpha, ← Option.some.inj given]
    rfl
  case h_4 => cases given

/-- The digits of a color are expanded to pairs. -/
theorem expand_eq_ok {digits : List Char} (single : Single digits)
    (count : IsCount digits.length) :
    expand digits = .ok (doubled digits) := by
  unfold expand doubled
  rw [length_bytes single]
  rcases count with three | six | eight
  · rw [three]
    rfl
  · rw [six]
    rfl
  · rw [eight]
    rfl

/-- A text that is refused is in the error. -/
theorem decode_error {text : String} {cause : ValueError} (refused : decode text = .error cause) :
    cause = .invalidHex text := by
  unfold decode at refused
  split at refused
  · cases refused
  · exact (Except.error.inj refused).symm

/-- The reading of bytes gives what the notation decodes to. -/
theorem read_of_decode {text : String} {channels : HexChannels}
    (decoded : decode text = .ok channels) : read text = .ok channels := by
  obtain ⟨digits, digitsRead, given⟩ := decode_eq_ok_iff_mapM.mp decoded
  obtain ⟨_, count, listed⟩ := notates_iff.mp (notates_of_decode decoded)
  have expanded : expand (bare text) = .ok (doubled (bare text)) :=
    expand_eq_ok (single_of_listed listed) count
  have pairs : ofDigits? (doubled digits) = some channels := by
    rw [← digits_of_ofDigits? given, ofDigits?_digits]
  have paired : (doubled digits).length ≠ 3 := by
    rw [length_doubled (isCount_of_ofDigits? given)]
    split <;> decide
  unfold read
  rw [if_pos ((all_isDigitByte_bytes _).mpr listed), expanded]
  exact ofPairs_eq_ok (mapM_doubled digitsRead) paired pairs

/-- The reading of bytes stops only for a byte that is no digit or for the number of digits. -/
theorem read_of_not_notated {text : String} (unnotated : ¬ ∃ digits, Notates text digits) :
    read text = .error .noDigit ∨ read text = .error .digitCount := by
  unfold read
  by_cases listed : ∀ c ∈ bare text, c ∈ alphabet
  · right
    have otherCount : ¬ IsCount (bare text).length := fun count =>
      unnotated ⟨bare text, notates_iff.mpr ⟨rfl, count, listed⟩⟩
    have stopped : expand (bare text) = .error .digitCount := by
      unfold expand
      rw [length_bytes (single_of_listed listed)]
      split
      case h_1 three => exact (otherCount (Or.inl three)).elim
      case h_2 six => exact (otherCount (Or.inr (Or.inl six))).elim
      case h_3 eight => exact (otherCount (Or.inr (Or.inr eight))).elim
      case h_4 => rfl
    rw [if_pos ((all_isDigitByte_bytes _).mpr listed), stopped]
    rfl
  · left
    rw [if_neg (mt (all_isDigitByte_bytes _).mp listed)]

/-- Decoding is reading the bytes, with one error for all faults. -/
theorem decode_eq_read (text : String) :
    decode text = (read text).mapError fun _ => .invalidHex text := by
  cases decoded : decode text with
  | ok channels =>
      rw [read_of_decode decoded]
      rfl
  | error cause =>
      have unnotated : ¬ ∃ digits, Notates text digits := by
        rintro ⟨digits, notated⟩
        obtain ⟨channels, found⟩ := exists_decode notated
        rw [decoded] at found
        cases found
      rcases read_of_not_notated unnotated with stopped | stopped
      · rw [stopped, decode_error decoded]
        rfl
      · rw [stopped, decode_error decoded]
        rfl

/-! ### The notation -/

/-- The channels as whole numbers. -/
def values (channels : HexChannels) : List Nat :=
  [channels.red.toNat, channels.green.toNat, channels.blue.toNat] ++
    channels.alpha?.elim [] fun alpha => [alpha.toNat]

/-- The numbers that successive pairs of hexadecimal digits write. -/
def pairValues : List Nat → List Nat
  | high :: low :: rest => (16 * high + low) :: pairValues rest
  | _ => []

theorem halves_value (byte : UInt8) :
    16 * (Fin.ofNat 16 (byte.toNat / 16)).val + (Fin.ofNat 16 byte.toNat).val = byte.toNat := by
  have bounded : byte.toNat < 256 := byte.toNat_lt
  rw [Fin.val_ofNat, Fin.val_ofNat]
  omega

/-- The channels are the values of successive pairs of their digits. -/
theorem values_eq (channels : HexChannels) :
    channels.values = pairValues (channels.digits.map Fin.val) := by
  obtain ⟨red, green, blue, alpha?⟩ := channels
  cases alpha? <;>
    simp only [values, digits, halves, Option.elim, List.cons_append, List.nil_append,
      List.append_nil, List.map_cons, List.map_nil, pairValues, halves_value]

/-- There is an alpha channel just when there are eight digits. -/
theorem alpha?_isSome_iff {text : String} {channels : HexChannels}
    (decoded : decode text = .ok channels) :
    channels.alpha?.isSome ↔ (bare text).length = 8 := by
  have lengths : (if channels.alpha?.isSome then 8 else 6) =
      if (bare text).length = 8 then 8 else 6 := by
    rw [← length_digits, ← length_doubled (notates_of_decode decoded).count]
    simpa only [List.length_map] using congrArg List.length (map_val_digits_of_decode decoded)
  grind

/-- **Exactly the notated texts decode.** A text decodes just when it is number signs and then
three, six or eight hexadecimal digits.  The channels are then the values of the successive pairs of
digits, three digits being doubled one by one, with an alpha channel just when there are eight.
Every other text is refused with an error that carries it unchanged.  The channels are what reading
the bytes of the text gives, and that reading stops for a byte that is no digit or for the number of
digits, but never at a cut or a pair. -/
theorem accepts_exactly_hex_digits (text : String) :
    ((∃ channels, decode text = .ok channels) ↔ ∃ digits, Notates text digits) ∧
      (∀ digits, Notates text digits → ∃ channels, decode text = .ok channels ∧
        channels.values = pairValues ((doubled digits).map value) ∧
        (channels.alpha?.isSome ↔ digits.length = 8)) ∧
      ((¬ ∃ digits, Notates text digits) → decode text = .error (.invalidHex text)) ∧
      (decode text = (read text).mapError fun _ => .invalidHex text) ∧
      ∀ fault, read text = .error fault → fault = .noDigit ∨ fault = .digitCount := by
  have accepted : (∃ channels, decode text = .ok channels) ↔ ∃ digits, Notates text digits :=
    ⟨fun ⟨_, decoded⟩ => ⟨bare text, notates_of_decode decoded⟩,
      fun ⟨_, notated⟩ => exists_decode notated⟩
  refine ⟨accepted, ?_, ?_, decode_eq_read text, ?_⟩
  · intro digits notated
    obtain ⟨channels, decoded⟩ := exists_decode notated
    have values := map_val_digits_of_decode decoded
    have alpha := alpha?_isSome_iff decoded
    rw [notated.bare_eq] at values alpha
    exact ⟨channels, decoded, by rw [values_eq, values], alpha⟩
  · intro unnotated
    cases decoded : decode text with
    | ok channels => exact (unnotated (accepted.mp ⟨channels, decoded⟩)).elim
    | error cause => rw [decode_error decoded]
  · intro fault stopped
    have unnotated : ¬ ∃ digits, Notates text digits := by
      intro notated
      obtain ⟨channels, decoded⟩ := accepted.mpr notated
      rw [read_of_decode decoded] at stopped
      cases stopped
    rcases read_of_not_notated unnotated with reason | reason
    · exact Or.inl (Except.error.inj (stopped.symm.trans reason))
    · exact Or.inr (Except.error.inj (stopped.symm.trans reason))

/-- Eight digits behind two number signs decode; signed numbers, which the reader of numbers alone
would take, and letters of more than one byte do not. -/
theorem accepts_exactly_hex_digits_alpha :
    (Notates "##1a2B3c80" "1a2B3c80".toList ∧ ∃ channels, decode "##1a2B3c80" = .ok channels ∧
        channels.values = [26, 43, 60, 128] ∧ channels.alpha?.isSome) ∧
      ((¬ ∃ digits, Notates "+1+2+3" digits) ∧
        decode "+1+2+3" = .error (.invalidHex "+1+2+3")) ∧
      (read "é0" = .error .noDigit ∧
        (HexFault.noDigit = .noDigit ∨ HexFault.noDigit = .digitCount)) := by
  have listed : "1a2B3c80".toList.all alphabet.contains := by decide +kernel
  have notated : Notates "##1a2B3c80" "1a2B3c80".toList :=
    ⟨⟨2, rfl⟩, Or.inr (Or.inr rfl), fun c member =>
      List.contains_iff_mem.mp (List.all_eq_true.mp listed c member)⟩
  have unnotated : ¬ ∃ digits, Notates "+1+2+3" digits := by
    rintro ⟨digits, notated⟩
    have plus : '+' ∈ digits := notated.bare_eq ▸ List.mem_cons_self
    exact absurd (notated.listed '+' plus) (by decide +kernel)
  have stopped : read "é0" = .error .noDigit := rfl
  obtain ⟨channels, decoded, values, alpha⟩ :=
    (accepts_exactly_hex_digits "##1a2B3c80").2.1 _ notated
  exact ⟨⟨notated, channels, decoded, values, alpha.mpr rfl⟩,
    ⟨unnotated, (accepts_exactly_hex_digits "+1+2+3").2.2.1 unnotated⟩,
    stopped, (accepts_exactly_hex_digits "é0").2.2.2.2 _ stopped⟩

end HexChannels
end CssValue
