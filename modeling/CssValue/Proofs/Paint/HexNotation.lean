import CssValue.Paint.Color
import CssValue.Proofs.Paint.HexDigits

/-!
# The notation of hexadecimal colors

A hexadecimal color is any number of number signs and then three, six or eight digits of either
letter case.  These texts and no others decode, and the written form of the channels has the same
digits, in upper case and three of them doubled.  So a text and the written form of its channels
decode alike, and neither letter case nor number signs matter.
-/

namespace CssValue

namespace Hex

/-! ### Digits -/

/-- The hexadecimal digits of either letter case. -/
def alphabet : List Char := "0123456789abcdefABCDEF".toList

/-- The value of a digit: its place among the digits in lower case. -/
def value (digit : Char) : Nat := alphabet.idxOf digit.toLower

theorem digit?_alphabet : alphabet.all fun c =>
    (digit? c).any fun digit => digit.val == value c && character digit == c.toUpper := by
  decide +kernel

/-- A hexadecimal digit is read as its value and written in upper case. -/
theorem digit?_of_mem {c : Char} (member : c ∈ alphabet) :
    ∃ digit, digit? c = some digit ∧ digit.val = value c ∧ character digit = c.toUpper := by
  have facts := List.all_eq_true.mp digit?_alphabet c member
  cases read : digit? c with
  | none =>
      rw [read] at facts
      cases facts
  | some digit =>
      rw [read, Option.any_some, Bool.and_eq_true, beq_iff_eq, beq_iff_eq] at facts
      exact ⟨digit, rfl, facts⟩

/-- What holds of all characters with codes in a range holds of a character whose code is in it. -/
theorem holds_of_code (holds : Char → Bool) {c : Char} (first count : Nat)
    (low : first ≤ c.toNat) (high : c.toNat < first + count)
    (all : (List.range' first count).all fun code => holds (Char.ofNat code)) : holds c := by
  have listed := List.all_eq_true.mp all c.toNat (List.mem_range'_1.mpr ⟨low, high⟩)
  rwa [Char.ofNat_toNat] at listed

/-- Nothing but a hexadecimal digit is read as one. -/
theorem mem_alphabet_of_digit? {c : Char} {digit : Fin 16} (read : digit? c = some digit) :
    c ∈ alphabet := by
  rw [← List.contains_iff_mem]
  unfold digit? at read
  split at read
  case isTrue bounds =>
    exact holds_of_code alphabet.contains 48 10 bounds.1 (Nat.lt_succ_of_le bounds.2)
      (by decide +kernel)
  case isFalse =>
    split at read
    case isTrue bounds =>
      exact holds_of_code alphabet.contains 97 6 bounds.1 (Nat.lt_succ_of_le bounds.2)
        (by decide +kernel)
    case isFalse =>
      split at read
      case isTrue bounds =>
        exact holds_of_code alphabet.contains 65 6 bounds.1 (Nat.lt_succ_of_le bounds.2)
          (by decide +kernel)
      case isFalse => cases read

/-- What holds of every capital letter, and of every character that is its own lower case, holds of
every character. -/
theorem holds_of_capitals (holds : Char → Bool) (c : Char) (own : c.toLower = c → holds c)
    (capitals : (List.range' 65 26).all fun code => holds (Char.ofNat code)) : holds c := by
  by_cases capital : c.val ≥ 'A'.val ∧ c.val ≤ 'Z'.val
  · exact holds_of_code holds 65 26 capital.1 (Nat.lt_succ_of_le capital.2) capitals
  · exact own (dif_neg capital)

/-- A character is a hexadecimal digit in either letter case or in none. -/
theorem mem_alphabet_toLower {c : Char} : c.toLower ∈ alphabet ↔ c ∈ alphabet := by
  have same : (alphabet.contains c.toLower == alphabet.contains c) = true :=
    holds_of_capitals (fun c => alphabet.contains c.toLower == alphabet.contains c) c
      (fun own => by rw [own, beq_self_eq_true]) (by decide +kernel)
  rw [← List.contains_iff_mem, ← List.contains_iff_mem, eq_of_beq same]

theorem toLower_beq_numberSign (c : Char) : (c.toLower == '#') = (c == '#') :=
  eq_of_beq (holds_of_capitals (fun c => (c.toLower == '#') == (c == '#')) c
    (fun own => by rw [own, beq_self_eq_true]) (by decide +kernel))

/-- The value of a digit is its place among the digits. -/
theorem val_of_digit? {c : Char} {digit : Fin 16} (read : digit? c = some digit) :
    digit.val = value c := by
  obtain ⟨_, found, same, _⟩ := digit?_of_mem (mem_alphabet_of_digit? read)
  obtain rfl := Option.some.inj (found.symm.trans read)
  exact same

/-- A digit that was read is written in upper case. -/
theorem character_of_digit? {c : Char} {digit : Fin 16} (read : digit? c = some digit) :
    character digit = c.toUpper := by
  obtain ⟨_, found, _, upper⟩ := digit?_of_mem (mem_alphabet_of_digit? read)
  obtain rfl := Option.some.inj (found.symm.trans read)
  exact upper

section Digits

variable {characters : List Char} {digits : List (Fin 16)}

/-- Where every digit has been read, there are hexadecimal digits only. -/
theorem mem_alphabet_of_mapM (read : characters.mapM digit? = some digits) :
    ∀ c ∈ characters, c ∈ alphabet := by
  induction characters generalizing digits with
  | nil => exact List.forall_mem_nil _
  | cons c rest ih =>
      rw [List.mapM_cons] at read
      obtain ⟨digit, first, read⟩ := Option.bind_eq_some_iff.mp read
      obtain ⟨others, later, _⟩ := Option.bind_eq_some_iff.mp read
      exact List.forall_mem_cons.mpr ⟨mem_alphabet_of_digit? first, ih later⟩

/-- Digits are read one by one: what is the same for a digit and its character is the same for
lists of them. -/
theorem map_eq_of_mapM {α : Type} {ofDigit : Fin 16 → α} {ofCharacter : Char → α}
    (same : ∀ {c digit}, digit? c = some digit → ofDigit digit = ofCharacter c)
    (read : characters.mapM digit? = some digits) :
    digits.map ofDigit = characters.map ofCharacter := by
  induction characters generalizing digits with
  | nil =>
      cases read
      rfl
  | cons c rest ih =>
      rw [List.mapM_cons] at read
      obtain ⟨digit, first, read⟩ := Option.bind_eq_some_iff.mp read
      obtain ⟨others, later, read⟩ := Option.bind_eq_some_iff.mp read
      obtain rfl := Option.some.inj read
      rw [List.map_cons, List.map_cons, same first, ih later]

theorem length_of_mapM (read : characters.mapM digit? = some digits) :
    digits.length = characters.length := by
  simpa only [List.length_map] using congrArg List.length (map_eq_of_mapM val_of_digit? read)

end Digits

theorem exists_mapM_digit? {characters : List Char} (listed : ∀ c ∈ characters, c ∈ alphabet) :
    ∃ digits, characters.mapM digit? = some digits := by
  induction characters with
  | nil => exact ⟨[], rfl⟩
  | cons c rest ih =>
      obtain ⟨first, others⟩ := List.forall_mem_cons.mp listed
      obtain ⟨digit, read, _⟩ := digit?_of_mem first
      obtain ⟨digits, later⟩ := ih others
      exact ⟨digit :: digits, by rw [List.mapM_cons, read, later]; rfl⟩

/-- Three digits doubled one by one, and all others as they are. -/
def doubled {α : Type} (digits : List α) : List α :=
  if digits.length = 3 then digits.flatMap fun digit => [digit, digit] else digits

/-- Digits are doubled in the same places, whatever is made of them. -/
theorem map_doubled {α β : Type} (f : α → β) (digits : List α) :
    (doubled digits).map f = doubled (digits.map f) := by
  unfold doubled
  rw [List.length_map]
  split
  · rw [List.map_flatMap, List.flatMap_map]
    rfl
  · rfl

/-- The number of digits is that of a color. -/
def IsCount (count : Nat) : Prop := count = 3 ∨ count = 6 ∨ count = 8

instance (count : Nat) : Decidable (IsCount count) :=
  inferInstanceAs (Decidable (count = 3 ∨ count = 6 ∨ count = 8))

/-! ### Texts -/

/-- The text is number signs, as many as there are, and then the digits of a color. -/
structure Notates (text : String) (digits : List Char) : Prop where
  signs : ∃ count, text.toList = List.replicate count '#' ++ digits
  count : IsCount digits.length
  listed : ∀ c ∈ digits, c ∈ alphabet

theorem numberSign_not_mem_alphabet : '#' ∉ alphabet := by decide +kernel

/-- Behind its number signs a text is bare from the first other character on. -/
theorem bare_of_signs {text : String} {digits : List Char} {count : Nat}
    (signs : text.toList = List.replicate count '#' ++ digits)
    (unsigned : digits.head? ≠ some '#') :
    bare text = digits := by
  have skipped : ∀ c ∈ List.replicate count '#', (c == '#') = true := fun c member => by
    rw [(List.mem_replicate.mp member).2, beq_self_eq_true]
  rw [bare, signs, List.dropWhile_append_of_pos skipped]
  cases digits with
  | nil => rfl
  | cons first rest =>
      have other : ¬ (first == '#') = true := fun same =>
        unsigned (congrArg some (eq_of_beq same))
      exact List.dropWhile_cons_of_neg other

/-- The digits that a text notates are what stands behind its number signs. -/
theorem Notates.bare_eq {text : String} {digits : List Char} (notated : Notates text digits) :
    bare text = digits := by
  obtain ⟨count, signs⟩ := notated.signs
  refine bare_of_signs signs fun first => ?_
  exact numberSign_not_mem_alphabet (notated.listed '#' (List.mem_of_mem_head? first))

/-- A text is number signs and then the rest. -/
theorem exists_signs (text : String) :
    ∃ count, text.toList = List.replicate count '#' ++ bare text := by
  have signs : ∀ c ∈ text.toList.takeWhile (· == '#'), c = '#' := fun c member =>
    eq_of_beq (List.all_eq_true.mp List.all_takeWhile c member)
  refine ⟨(text.toList.takeWhile (· == '#')).length, ?_⟩
  rw [← List.eq_replicate_of_mem signs, bare, List.takeWhile_append_dropWhile]

/-- The digits of a color are what stands behind the number signs of its text. -/
theorem notates_iff {text : String} {digits : List Char} :
    Notates text digits ↔
      bare text = digits ∧ IsCount digits.length ∧ ∀ c ∈ digits, c ∈ alphabet := by
  constructor
  · intro notated
    exact ⟨notated.bare_eq, notated.count, notated.listed⟩
  · rintro ⟨rfl, count, listed⟩
    exact ⟨exists_signs text, count, listed⟩

/-- A byte made of two digits has them as its halves. -/
theorem halves_byte (high low : Fin 16) : halves (byte high low) = [high, low] := by
  have bounded : 16 * high.val + low.val < 256 := by omega
  have written : (byte high low).toNat = 16 * high.val + low.val := by
    rw [byte, UInt8.toNat_ofNat', Nat.mod_eq_of_lt bounded]
  rw [halves, written]
  congr 1
  · apply Fin.ext
    rw [Fin.val_ofNat]
    omega
  · congr 1
    apply Fin.ext
    rw [Fin.val_ofNat]
    omega

end Hex

namespace HexChannels

open Hex

theorem digits_injective {first second : HexChannels} (same : first.digits = second.digits) :
    first = second := by
  rw [← Option.some_inj, ← ofDigits?_digits, same, ofDigits?_digits]

/-- Channels are read from as many digits as a color has. -/
theorem isCount_of_ofDigits? {digits : List (Fin 16)} {channels : HexChannels}
    (read : ofDigits? digits = some channels) : IsCount digits.length := by
  unfold ofDigits? at read
  split at read
  case h_1 => exact Or.inl rfl
  case h_2 => exact Or.inr (Or.inl rfl)
  case h_3 => exact Or.inr (Or.inr rfl)
  case h_4 => cases read

/-- The digits of the channels that were read are the digits that were given, doubled if there are
three. -/
theorem digits_of_ofDigits? {digits : List (Fin 16)} {channels : HexChannels}
    (read : ofDigits? digits = some channels) : channels.digits = doubled digits := by
  unfold ofDigits? at read
  split at read
  case h_1 | h_2 =>
    cases read
    simp only [HexChannels.digits, halves_byte]
    rfl
  case h_3 =>
    cases read
    simp only [HexChannels.digits, halves_byte, Option.elim]
    rfl
  case h_4 => cases read

/-- Three, six or eight digits stand for channels. -/
theorem exists_ofDigits? : ∀ {digits : List (Fin 16)}, IsCount digits.length →
    ∃ channels, ofDigits? digits = some channels
  | [_, _, _], _ | [_, _, _, _, _, _], _ | [_, _, _, _, _, _, _, _], _ => ⟨_, rfl⟩
  | [], count | [_], count | [_, _], count | [_, _, _, _], count | [_, _, _, _, _], count
  | [_, _, _, _, _, _, _], count => by simp [IsCount] at count
  | _ :: _ :: _ :: _ :: _ :: _ :: _ :: _ :: _ :: rest, count => by
    simp only [IsCount, List.length_cons] at count
    omega

/-- A text decodes in two steps: every digit is read, and their number is that of a color. -/
theorem decode_eq_ok_iff_mapM {text : String} {channels : HexChannels} :
    decode text = .ok channels ↔
      ∃ digits, (bare text).mapM digit? = some digits ∧ ofDigits? digits = some channels := by
  unfold decode
  rw [Option.bind_eq_bind, ← Option.bind_eq_some_iff]
  cases (bare text).mapM digit?  |>.bind ofDigits? with
  | none => simp
  | some found => simp

/-- A text that decodes notates the digits behind its number signs. -/
theorem notates_of_decode {text : String} {channels : HexChannels}
    (decoded : decode text = .ok channels) : Notates text (bare text) := by
  obtain ⟨digits, read, given⟩ := decode_eq_ok_iff_mapM.mp decoded
  have count := isCount_of_ofDigits? given
  exact notates_iff.mpr ⟨rfl, length_of_mapM read ▸ count, mem_alphabet_of_mapM read⟩

/-- What is the same for a digit and its character is the same for the digits of channels and the
characters that they were decoded from, doubled if there are three. -/
theorem map_digits_of_decode {α : Type} {ofDigit : Fin 16 → α} {ofCharacter : Char → α}
    (same : ∀ {c digit}, digit? c = some digit → ofDigit digit = ofCharacter c) {text : String}
    {channels : HexChannels} (decoded : decode text = .ok channels) :
    channels.digits.map ofDigit = (doubled (bare text)).map ofCharacter := by
  obtain ⟨digits, read, given⟩ := decode_eq_ok_iff_mapM.mp decoded
  rw [digits_of_ofDigits? given, map_doubled, map_doubled, map_eq_of_mapM same read]

/-- The digits of channels have the values of the digits that they were decoded from. -/
theorem map_val_digits_of_decode {text : String} {channels : HexChannels}
    (decoded : decode text = .ok channels) :
    channels.digits.map Fin.val = (doubled (bare text)).map value :=
  map_digits_of_decode val_of_digit? decoded

/-- A text that notates digits decodes. -/
theorem exists_decode {text : String} {characters : List Char}
    (notated : Notates text characters) : ∃ channels, decode text = .ok channels := by
  obtain ⟨rfl, count, listed⟩ := notates_iff.mp notated
  obtain ⟨digits, read⟩ := exists_mapM_digit? listed
  obtain ⟨channels, given⟩ := exists_ofDigits? (length_of_mapM read ▸ count)
  exact ⟨channels, decode_eq_ok_iff_mapM.mpr ⟨digits, read, given⟩⟩

/-- The channels of a text are those whose digits have the values of the digits in the text. -/
theorem decode_eq_ok_iff {text : String} {channels : HexChannels} :
    decode text = .ok channels ↔ ∃ characters, Notates text characters ∧
      channels.digits.map Fin.val = (doubled characters).map value := by
  constructor
  · intro decoded
    exact ⟨bare text, notates_of_decode decoded, map_val_digits_of_decode decoded⟩
  · rintro ⟨characters, notated, values⟩
    obtain ⟨found, decoded⟩ := exists_decode notated
    have foundValues := map_val_digits_of_decode decoded
    rw [notated.bare_eq, ← values] at foundValues
    have equal : found.digits = channels.digits :=
      (List.map_inj_right fun _ _ => Fin.ext).mp foundValues
    rw [decoded, digits_injective equal]

/-! ### Normal form -/

theorem map_value (characters : List Char) :
    characters.map value = (characters.map Char.toLower).map alphabet.idxOf := by
  rw [List.map_map]
  rfl

/-- Texts decode alike if the characters behind their number signs are the same but for letter
case. -/
theorem decode_of_same_toLower {text other : String} {channels : HexChannels}
    (decoded : decode text = .ok channels)
    (same : (bare other).map Char.toLower = (bare text).map Char.toLower) :
    decode other = .ok channels := by
  obtain ⟨_, count, listed⟩ := notates_iff.mp (notates_of_decode decoded)
  have lengths : (bare other).length = (bare text).length := by
    simpa only [List.length_map] using congrArg List.length same
  have otherListed : ∀ c ∈ bare other, c ∈ alphabet := by
    intro c member
    have lower : c.toLower ∈ (bare text).map Char.toLower :=
      same ▸ List.mem_map_of_mem member
    obtain ⟨d, textMember, lowers⟩ := List.mem_map.mp lower
    rw [← mem_alphabet_toLower, ← lowers, mem_alphabet_toLower]
    exact listed d textMember
  refine decode_eq_ok_iff.mpr
    ⟨bare other, notates_iff.mpr ⟨rfl, lengths ▸ count, otherListed⟩, ?_⟩
  rw [map_val_digits_of_decode decoded, map_doubled, map_doubled, map_value, map_value, same]

/-- Texts that are the same but for letter case are so behind their number signs. -/
theorem map_toLower_bare {text other : String}
    (same : other.toList.map Char.toLower = text.toList.map Char.toLower) :
    (bare other).map Char.toLower = (bare text).map Char.toLower := by
  have commutes : ∀ characters : List Char, (characters.dropWhile (· == '#')).map Char.toLower =
      (characters.map Char.toLower).dropWhile (· == '#') := by
    intro characters
    rw [List.dropWhile_map]
    congr 2
    funext c
    exact (toLower_beq_numberSign c).symm
  rw [bare, bare, commutes, commutes, same]

theorem head?_bare (text : String) : (bare text).head? ≠ some '#' := by
  intro first
  have unsigned := List.head?_dropWhile_not (· == '#') text.toList
  rw [show text.toList.dropWhile (· == '#') = bare text from rfl, first] at unsigned
  cases unsigned

/-- Number signs in front of a text do not count. -/
theorem bare_replicate (text : String) (count : Nat) :
    bare (String.ofList (List.replicate count '#' ++ bare text)) = bare text :=
  bare_of_signs String.toList_ofList (head?_bare text)

/-- **Written channels are the normal form of hexadecimal colors.** Channels are what their written
form decodes to.  The written form of the channels of a text is a number sign and the digits of the
text in upper case, three of them doubled.  Other letter case, other number signs and the text of
the color decode to the same channels. -/
theorem encode_is_normal_form :
    (∀ channels : HexChannels, decode channels.encode = .ok channels) ∧
      ∀ (text : String) (channels : HexChannels), decode text = .ok channels →
        channels.encode.toList = '#' :: (doubled (bare text)).map Char.toUpper ∧
          (∀ other : String, other.toList.map Char.toLower = text.toList.map Char.toLower →
            decode other = .ok channels) ∧
          (∀ count, decode (String.ofList (List.replicate count '#' ++ bare text)) =
            .ok channels) ∧
          decode (render (Color.hex text)) = .ok channels := by
  refine ⟨decode_encode, fun text channels decoded => ⟨?_, ?_, ?_, ?_⟩⟩
  · rw [toList_encode, map_digits_of_decode character_of_digit? decoded]
  · intro other same
    exact decode_of_same_toLower decoded (map_toLower_bare same)
  · intro count
    exact decode_of_same_toLower decoded (by rw [bare_replicate])
  · have rendered : bare (render (Color.hex text)) = bare text := bare_replicate text 1
    exact decode_of_same_toLower decoded (by rw [rendered])

/-- Three digits of mixed letter case behind two number signs, and the same in capitals. -/
theorem encode_is_normal_form_shorthand :
    decode "##aB0" = .ok ⟨170, 187, 0, none⟩ ∧
      (⟨170, 187, 0, none⟩ : HexChannels).encode.toList = "#AABB00".toList ∧
      ("##AB0".toList.map Char.toLower = "##aB0".toList.map Char.toLower ∧
        decode "##AB0" = .ok ⟨170, 187, 0, none⟩) ∧
      decode (render (Color.hex "##aB0")) = .ok ⟨170, 187, 0, none⟩ := by
  have decoded : decode "##aB0" = .ok ⟨170, 187, 0, none⟩ := rfl
  have lowered : "##AB0".toList.map Char.toLower = "##aB0".toList.map Char.toLower := by decide
  obtain ⟨normal, otherCase, _, rendered⟩ := encode_is_normal_form.2 "##aB0" _ decoded
  exact ⟨decoded, normal, ⟨lowered, otherCase _ lowered⟩, rendered⟩

end HexChannels
end CssValue
