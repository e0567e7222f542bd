import CssValue.Binary64.Shortest

/-!
# The characters of numbers

The text of a number consists of digits, signs, points, the `e` before an exponent and the letters
of `NaN` and `inf`.  It ends with a digit or with the last letter of one of these words.
-/

namespace CssValue

def isNumeral (c : Char) : Bool := c.isDigit || "-.eNainf".toList.contains c

def isFinalNumeral (c : Char) : Bool := c.isDigit || "Nf".toList.contains c

theorem isNumeral_of_isDigit {c : Char} (digit : c.isDigit) : isNumeral c := by
  rw [isNumeral, digit, Bool.true_or]

/-- A character of a number is not one that no number has. -/
theorem ne_of_isNumeral {c mark : Char} (numeral : isNumeral c)
    (other : isNumeral mark = false) : c ≠ mark := by
  rintro rfl
  exact Bool.false_ne_true (other.symm.trans numeral)

theorem isFinalNumeral_of_isDigit {c : Char} (digit : c.isDigit) : isFinalNumeral c := by
  rw [isFinalNumeral, digit, Bool.true_or]

/-- The decimal digits of a whole number are digits as characters. -/
theorem isDigit_of_mem_digits {n : Nat} {c : Char} (member : c ∈ Nat.toDigits 10 n) :
    c.isDigit :=
  Nat.isDigit_of_mem_toDigits (by decide) (by decide) member

/-- The text ends as the text of a number does. -/
def endsNumeral (text : List Char) : Bool := text.getLast?.any isFinalNumeral

/-- How a text ends is decided by what stands last in it. -/
theorem endsNumeral_append_of_ne_nil (front : List Char) {back : List Char} (present : back ≠ []) :
    endsNumeral (front ++ back) = endsNumeral back := by
  unfold endsNumeral
  rw [List.getLast?_append, List.getLast?_eq_some_getLast present, Option.some_or]

/-- A text ends as a number does if what stands last in it does. -/
theorem endsNumeral_append {back : List Char} (front : List Char) (ends : endsNumeral back) :
    endsNumeral (front ++ back) := by
  have present : back ≠ [] := by
    rintro rfl
    exact Bool.false_ne_true ends
  rw [endsNumeral_append_of_ne_nil front present, ends]

theorem endsNumeral_of_digits {digits : List Char} (present : digits ≠ [])
    (all : ∀ c ∈ digits, c.isDigit) : endsNumeral digits := by
  unfold endsNumeral
  rw [List.getLast?_eq_some_getLast present, Option.any_some]
  exact isFinalNumeral_of_isDigit (all _ (List.getLast_mem present))

theorem endsNumeral_toDigits (n : Nat) : endsNumeral (Nat.toDigits 10 n) :=
  endsNumeral_of_digits Nat.toDigits_ne_nil fun _ => isDigit_of_mem_digits

namespace Decimal

/-- An exponent is written with digits and a minus sign. -/
theorem isDigit_of_mem_exponentText {exponent : Int} {c : Char}
    (member : c ∈ exponentText exponent) : c = '-' ∨ c.isDigit := by
  unfold exponentText at member
  split at member
  · rcases List.mem_cons.mp member with sign | digit
    · exact Or.inl sign
    · exact Or.inr (isDigit_of_mem_digits digit)
  · exact Or.inr (isDigit_of_mem_digits member)

theorem isNumeral_of_mem_exponentText {exponent : Int} {c : Char}
    (member : c ∈ exponentText exponent) : isNumeral c := by
  rcases isDigit_of_mem_exponentText member with rfl | digit
  · rfl
  · exact isNumeral_of_isDigit digit

/-- The characters of positional notation are those of numbers. -/
theorem isNumeral_of_mem_positional {decimal : Decimal} {c : Char}
    (member : c ∈ decimal.positional) : isNumeral c := by
  have zero : ∀ {count : Nat}, c ∈ List.replicate count '0' → isNumeral c := fun padding => by
    rw [(List.mem_replicate.mp padding).2]
    rfl
  have digit : c ∈ Nat.toDigits 10 decimal.digits → isNumeral c := fun written =>
    isNumeral_of_isDigit (isDigit_of_mem_digits written)
  unfold positional at member
  dsimp only at member
  split at member
  · rcases List.mem_append.mp member with whole | point
    · exact (List.mem_append.mp whole).elim digit zero
    · rcases List.mem_cons.mp point with rfl | last
      · rfl
      · rw [List.mem_singleton.mp last]
        rfl
  · split at member
    · rcases List.mem_append.mp member with before | point
      · exact digit (List.mem_of_mem_take before)
      · rcases List.mem_cons.mp point with rfl | behind
        · rfl
        · exact digit (List.mem_of_mem_drop behind)
    · rcases List.mem_cons.mp member with rfl | point
      · rfl
      · rcases List.mem_cons.mp point with rfl | behind
        · rfl
        · exact (List.mem_append.mp behind).elim zero digit

/-- The characters of scientific notation are those of numbers. -/
theorem isNumeral_of_mem_scientific {decimal : Decimal} {c : Char}
    (member : c ∈ decimal.scientific) : isNumeral c := by
  have digit : c ∈ Nat.toDigits 10 decimal.digits → isNumeral c := fun written =>
    isNumeral_of_isDigit (isDigit_of_mem_digits written)
  unfold scientific at member
  dsimp only at member
  rcases List.mem_append.mp member with significand | exponent
  · rcases List.mem_append.mp significand with first | fraction
    · exact digit (List.mem_of_mem_take first)
    · split at fraction
      · exact (List.not_mem_nil fraction).elim
      · rcases List.mem_cons.mp fraction with rfl | behind
        · rfl
        · exact digit (List.mem_of_mem_drop behind)
  · rcases List.mem_cons.mp exponent with rfl | power
    · rfl
    · exact isNumeral_of_mem_exponentText power

/-- A decimal is written with the characters of numbers, in either notation. -/
theorem isNumeral_of_mem_characters {decimal : Decimal} {c : Char}
    (member : c ∈ decimal.characters) : isNumeral c := by
  unfold characters at member
  dsimp only at member
  split at member
  · exact isNumeral_of_mem_positional member
  · exact isNumeral_of_mem_scientific member

/-- A decimal has a point or an exponent, which no whole number has. -/
theorem point_or_exponent_mem_characters (decimal : Decimal) :
    '.' ∈ decimal.characters ∨ 'e' ∈ decimal.characters := by
  unfold characters positional scientific
  dsimp only
  split
  · left
    split
    · simp
    · split <;> simp
  · right
    simp

/-- An exponent ends in a digit. -/
theorem endsNumeral_exponentText (exponent : Int) : endsNumeral (exponentText exponent) := by
  unfold exponentText
  split
  · exact endsNumeral_append ['-'] (endsNumeral_toDigits _)
  · exact endsNumeral_toDigits _

/-- Positional notation ends in a digit. -/
theorem endsNumeral_positional (decimal : Decimal) : endsNumeral decimal.positional := by
  unfold positional
  dsimp only
  split
  case isTrue => exact endsNumeral_append _ rfl
  case isFalse fractional =>
    split
    case isTrue longer =>
      refine endsNumeral_append _ (endsNumeral_append ['.'] (endsNumeral_of_digits ?_ ?_))
      · rw [Ne, List.drop_eq_nil_iff]
        omega
      · exact fun c behind => isDigit_of_mem_digits (List.mem_of_mem_drop behind)
    case isFalse =>
      exact endsNumeral_append ['0', '.'] (endsNumeral_append _ (endsNumeral_toDigits _))

/-- A decimal ends as a number does, in either notation. -/
theorem endsNumeral_characters (decimal : Decimal) : endsNumeral decimal.characters := by
  unfold characters
  dsimp only
  split
  · exact endsNumeral_positional decimal
  · exact endsNumeral_append _ (endsNumeral_append ['e'] (endsNumeral_exponentText _))

end Decimal

namespace Binary64

/-- A sign is one of the characters of numbers. -/
theorem isNumeral_of_mem_signed {negative : Bool} {magnitude : List Char} {c : Char}
    (all : ∀ c ∈ magnitude, isNumeral c) (member : c ∈ signed negative magnitude) :
    isNumeral c := by
  cases negative with
  | false => exact all c member
  | true =>
      rcases List.mem_cons.mp member with rfl | behind
      · rfl
      · exact all c behind

/-- A sign in front does not matter for how a text ends. -/
theorem endsNumeral_signed {magnitude : List Char} (negative : Bool)
    (ends : endsNumeral magnitude) : endsNumeral (signed negative magnitude) := by
  cases negative with
  | false => exact ends
  | true => exact endsNumeral_append ['-'] ends

/-- The text of a number has no characters but those of numbers. -/
theorem isNumeral_of_mem_text {x : Binary64} {c : Char} (member : c ∈ x.text.toList) :
    isNumeral c := by
  rw [text, String.toList_ofList] at member
  cases x with
  | nan =>
      have letters : ['N', 'a', 'N'].all isNumeral := rfl
      exact List.all_eq_true.mp letters c member
  | infinity negative =>
      have letters : ['i', 'n', 'f'].all isNumeral := rfl
      exact isNumeral_of_mem_signed (List.all_eq_true.mp letters) member
  | finite negative magnitude =>
      refine isNumeral_of_mem_signed (fun c written => ?_) member
      split at written
      · have zero : ['0', '.', '0'].all isNumeral := rfl
        exact List.all_eq_true.mp zero c written
      · exact Decimal.isNumeral_of_mem_characters written

/-- A point, an exponent or a word tells the text of a number from the digits of a whole number. -/
theorem exists_mark_text (x : Binary64) : ∃ c ∈ x.text.toList, c ∈ ['.', 'e', 'N', 'i'] := by
  have behind : ∀ {magnitude : List Char} (negative : Bool),
      (∃ c ∈ magnitude, c ∈ ['.', 'e', 'N', 'i']) →
        ∃ c ∈ signed negative magnitude, c ∈ ['.', 'e', 'N', 'i'] := by
    rintro magnitude negative ⟨c, written, mark⟩
    cases negative with
    | true => exact ⟨c, List.mem_cons_of_mem _ written, mark⟩
    | false => exact ⟨c, written, mark⟩
  rw [text, String.toList_ofList]
  cases x with
  | nan => exact ⟨'N', by decide, by decide⟩
  | infinity negative => exact behind negative ⟨'i', by decide, by decide⟩
  | finite negative magnitude =>
      refine behind negative ?_
      split
      · exact ⟨'.', by decide, by decide⟩
      · rcases Decimal.point_or_exponent_mem_characters (shortest magnitude) with point | exponent
        · exact ⟨'.', point, by decide⟩
        · exact ⟨'e', exponent, by decide⟩

/-- The text of a number ends with a digit or with the last letter of `NaN` or `inf`. -/
theorem endsNumeral_text (x : Binary64) : endsNumeral x.text.toList := by
  rw [text, String.toList_ofList]
  cases x with
  | nan => rfl
  | infinity negative => exact endsNumeral_signed negative rfl
  | finite negative magnitude =>
      refine endsNumeral_signed negative ?_
      split
      · rfl
      · exact Decimal.endsNumeral_characters _

end Binary64
end CssValue
