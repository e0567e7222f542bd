import CssValue.Proofs.Quantity.LengthText

/-!
# Functional notation with typed arguments

Whole numbers, numbers, lengths and angles are told apart by their texts.  A call is a name with
such arguments, joined by spaces or commas; from its text the name and the arguments are read back.
-/

namespace CssValue

/-! ### Whole numbers -/

/-- A whole number is written as an exponent is. -/
theorem toList_render_int (n : Int) : (render n).toList = Decimal.exponentText n := by
  change (toString n).toList = _
  rw [Int.toString_eq_repr, Int.repr_eq_if, Decimal.exponentText]
  by_cases negative : n < 0
  · have signed : ¬ 0 ≤ n := by omega
    have size : (-n).toNat = n.natAbs := by omega
    rw [if_neg signed, if_pos negative, String.toList_append, Nat.toList_repr, size]
    rfl
  · have unsigned : 0 ≤ n := by omega
    have size : n.toNat = n.natAbs := by omega
    rw [if_pos unsigned, if_neg negative, Nat.toList_repr, size]

theorem toList_render_nat (n : Nat) : (render n).toList = Nat.toDigits 10 n := by
  change (toString n).toList = _
  rw [Nat.toString_eq_repr, Nat.toList_repr]

theorem eq_of_render_int_eq {m n : Int} (same : render m = render n) : m = n := by
  have shown := congrArg (fun text => Decimal.readExponent text.toList) same
  simpa only [toList_render_int, Decimal.readExponent_exponentText] using shown

/-- No whole number is written as a number with a fraction is. -/
theorem render_int_ne_number (n : Int) (x : Binary64) : render n ≠ render x := by
  intro same
  obtain ⟨c, written, mark⟩ := x.exists_mark_text
  change render n = x.text at same
  rw [← same, toList_render_int] at written
  rcases Decimal.isDigit_of_mem_exponentText written with rfl | digit
  · exact absurd mark (by decide)
  · revert digit
    simp only [List.mem_cons, List.not_mem_nil, or_false] at mark
    rcases mark with rfl | rfl | rfl | rfl <;> decide

/-! ### Arguments -/

/-- A value in the arguments of a functional notation. -/
inductive Argument where
  | integer (value : Int)
  | number (value : Binary64)
  | length (value : Length)
  | angle (value : Angle)

instance : Render Argument where
  render
    | .integer value => render value
    | .number value => render value
    | .length value => render value
    | .angle value => render value

namespace Argument

/-- The argument is a number without a unit. -/
def isPlain : Argument → Bool
  | integer _ | number _ => true
  | length _ | angle _ => false

/-- The parentheses in the text of a calculation are balanced. -/
def Tame : Argument → Prop
  | length value => value.Tame
  | integer _ | number _ | angle _ => True

/-- The text of an argument ends as a number does just when no unit stands behind it. -/
theorem endsNumeral_render (argument : Argument) :
    endsNumeral (render argument).toList = argument.isPlain := by
  cases argument with
  | integer value =>
      change endsNumeral (render value).toList = true
      rw [toList_render_int]
      exact Decimal.endsNumeral_exponentText value
  | number value => exact value.endsNumeral_text
  | length value => exact value.endsNumeral_render
  | angle value => exact value.shows.endsNumeral

/-- No length is written as an angle is, since no length has the suffix of an angle. -/
theorem length_ne_angle (value : Length) (angle : Angle) : render value ≠ render angle := by
  intro same
  have read := Length.ofMeasure?_of_shows (same ▸ angle.shows)
  have none : Length.ofMeasure? angle.value angle.suffix = none := by cases angle <;> rfl
  rw [none] at read
  cases read

/-- Arguments that are written alike are the same. -/
theorem eq_of_render_eq {first second : Argument} (same : render first = render second) :
    first = second := by
  have plain : first.isPlain = second.isPlain := by
    rw [← endsNumeral_render, ← endsNumeral_render, same]
  cases first with
  | integer m =>
      cases second with
      | integer n => exact congrArg integer (eq_of_render_int_eq same)
      | number x => exact (render_int_ne_number m x same).elim
      | length | angle => cases plain
  | number x =>
      cases second with
      | integer n => exact (render_int_ne_number n x same.symm).elim
      | number y => exact congrArg number (Binary64.text_injective same)
      | length | angle => cases plain
  | length value =>
      cases second with
      | integer | number => cases plain
      | length other => exact congrArg length (Length.eq_of_render_eq same)
      | angle other => exact (length_ne_angle value other same).elim
  | angle value =>
      cases second with
      | integer | number => cases plain
      | length other => exact (length_ne_angle other value same.symm).elim
      | angle other => exact congrArg angle (Angle.render_inj.mp same)

/-- The text of a tame argument has balanced parentheses and no separator outside of them. -/
theorem sealed_render {mark : Char} {argument : Argument} (separator : Text.IsSeparator mark)
    (tame : argument.Tame) : Text.Sealed mark (render argument).toList := by
  cases argument with
  | integer value =>
      change Text.Sealed mark (render value).toList
      rw [toList_render_int]
      exact sealed_of_isNumeral separator fun _ => Decimal.isNumeral_of_mem_exponentText
  | number value => exact value.sealed_text separator
  | length value => exact value.sealed_render separator tame
  | angle value => exact value.shows.sealed separator

end Argument

/-! ### Calls -/

/-- A letter, a digit or a hyphen. -/
def isNameCharacter (c : Char) : Bool := c.isAlphanum || c == '-'

/-- A name and arguments in functional notation. -/
structure Call where
  name : String
  separator : String
  arguments : List Argument

namespace Call

/-- What stands between the parentheses. -/
def inner (call : Call) : String := call.separator.intercalate (call.arguments.map render)

def text (call : Call) : String := Text.functional call.name call.inner

/-- The call has a proper name and some arguments, all of them tame, with spaces or commas between
them. -/
structure Readable (call : Call) : Prop where
  named : call.name.toList.all isNameCharacter
  separated : call.separator = " " ∨ call.separator = ", "
  present : call.arguments ≠ []
  tame : ∀ argument ∈ call.arguments, argument.Tame

variable {first second call : Call}

/-- No character but those of names stands in the name of a readable call. -/
theorem Readable.not_mem_name {mark : Char} (readable : call.Readable)
    (other : isNameCharacter mark = false) : mark ∉ call.name.toList := by
  intro member
  have inName := List.all_eq_true.mp readable.named mark member
  exact Bool.false_ne_true (other.symm.trans inName)

/-- The text of a call begins with a character of its name or with the parenthesis. -/
theorem Readable.head?_text {mark : Char} (readable : call.Readable)
    (outside : isNameCharacter mark = false) (notOpening : mark ≠ '(') :
    call.text.toList.head? ≠ some mark := by
  rw [text, Text.toList_functional]
  intro starts
  cases written : call.name.toList with
  | nil =>
      rw [written] at starts
      exact notOpening (Option.some.inj starts).symm
  | cons c rest =>
      rw [written] at starts
      have first : c = mark := Option.some.inj starts
      exact readable.not_mem_name outside (written ▸ first ▸ List.mem_cons_self)

/-- The arguments are the parts between the separators. -/
theorem Readable.splitOutside_inner (readable : call.Readable) :
    Text.splitOutside call.separator call.inner = call.arguments.map render := by
  have split : ∀ {mark : Char} {more : List Char}, Text.IsSeparator mark →
      call.separator.toList = mark :: more →
        Text.splitOutside call.separator call.inner = call.arguments.map render := by
    intro mark more separator starts
    refine Text.splitOutside_intercalate starts (mt List.map_eq_nil_iff.mp readable.present) ?_
    intro part listed
    obtain ⟨argument, member, rfl⟩ := List.mem_map.mp listed
    exact Argument.sealed_render separator (readable.tame argument member)
  rcases readable.separated with blank | comma
  · exact split (Or.inl rfl) (congrArg String.toList blank)
  · exact split (Or.inr rfl) (congrArg String.toList comma)

/-- Calls that are written alike are the same, if their names decide their separators. -/
theorem eq_of_text_eq (firstReadable : first.Readable) (secondReadable : second.Readable)
    (separators : first.name = second.name → first.separator = second.separator)
    (same : first.text = second.text) : first = second := by
  obtain ⟨names, inners⟩ := Text.functional_inj (firstReadable.not_mem_name rfl)
    (secondReadable.not_mem_name rfl) same
  have joined := separators names
  have texts : first.arguments.map render = second.arguments.map render := by
    rw [← firstReadable.splitOutside_inner, ← secondReadable.splitOutside_inner, joined, inners]
  have injective : Function.Injective (render : Argument → String) :=
    fun _ _ => Argument.eq_of_render_eq
  have arguments := List.map_injective_iff.mpr injective texts
  cases first
  cases second
  cases names
  cases joined
  cases arguments
  rfl

/-- The parentheses of a call seal its arguments. -/
theorem Readable.sealed_text {mark : Char} (readable : call.Readable)
    (separator : Text.IsSeparator mark) : Text.Sealed mark call.text.toList := by
  have outside : isNameCharacter mark = false := by rcases separator with rfl | rfl <;> rfl
  have name : Text.Sealed mark call.name.toList := by
    refine Text.sealed_of_plain fun c member => ⟨?_, ?_, ?_⟩
    · exact fun same => readable.not_mem_name rfl (same ▸ member)
    · exact fun same => readable.not_mem_name rfl (same ▸ member)
    · exact fun same => readable.not_mem_name outside (same ▸ member)
  have between : Text.Balanced call.separator.toList := by
    rcases readable.separated with blank | comma
    · rw [blank]
      decide
    · rw [comma]
      decide
  have inner : Text.Balanced call.inner.toList := by
    rw [Call.inner, String.toList_intercalate]
    refine Text.Balanced.intercalate between fun piece listed => ?_
    obtain ⟨part, written, rfl⟩ := List.mem_map.mp listed
    obtain ⟨argument, member, rfl⟩ := List.mem_map.mp written
    exact (Argument.sealed_render separator (readable.tame argument member)).balanced
  exact Text.sealed_functional name inner separator.ne_opening

end Call
end CssValue
