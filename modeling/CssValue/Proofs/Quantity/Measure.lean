import CssValue.Proofs.Binary64.Reading
import CssValue.Proofs.Text.Nesting
import CssValue.Quantity.Angle
import CssValue.Quantity.Length
import Mathlib.Data.List.Nodup

/-!
# Numbers with a unit

A unit or a percent sign is written right behind its number.  The two are told apart all the same:
what is left of a unit when another one is taken off its end never ends as a number does.
-/

namespace CssValue

/-- The text begins as the text of a number does. -/
def startsNumeral (text : List Char) : Bool :=
  startsDigit text || text.head?.any ("-N".toList.contains ·) || "inf".toList.isPrefixOf text

namespace Binary64

/-- The text of a number begins as numbers do, whatever follows it. -/
theorem startsNumeral_text (x : Binary64) (back : List Char) :
    startsNumeral (x.text.toList ++ back) := by
  have starts : ∀ {magnitude : List Char} (negative : Bool), startsNumeral (magnitude ++ back) →
      startsNumeral (signed negative magnitude ++ back) := by
    intro magnitude negative unsigned
    cases negative with
    | true => rfl
    | false => exact unsigned
  rw [text, String.toList_ofList]
  cases x with
  | nan => rfl
  | infinity negative => exact starts negative rfl
  | finite negative magnitude =>
      refine starts negative ?_
      split
      · rfl
      · have digit := startsDigit_append back (Decimal.startsDigit_characters (shortest magnitude))
        rw [startsNumeral, digit, Bool.true_or, Bool.true_or]

end Binary64

/-- The characters of numbers are neither parentheses nor separators. -/
theorem sealed_of_isNumeral {mark : Char} {text : List Char} (separator : Text.IsSeparator mark)
    (numerals : ∀ c ∈ text, isNumeral c) : Text.Sealed mark text := by
  have other : isNumeral mark = false := by rcases separator with rfl | rfl <;> rfl
  refine Text.sealed_of_plain fun c member => ?_
  have numeral := numerals c member
  exact ⟨ne_of_isNumeral numeral rfl, ne_of_isNumeral numeral rfl, ne_of_isNumeral numeral other⟩

/-- The text of a number has neither parentheses nor separators. -/
theorem Binary64.sealed_text {mark : Char} (separator : Text.IsSeparator mark) (x : Binary64) :
    Text.Sealed mark x.text.toList :=
  sealed_of_isNumeral separator fun _ => isNumeral_of_mem_text

namespace Measure

/-- What may stand behind a number: the units of length and of angle, and the percent sign. -/
def suffixes : List String :=
  (Keyword.all : List LengthUnit).map render ++ ["%", "deg", "rad", "grad", "turn"]

/-- What is left of a suffix without another one at its end does not end as a number does. -/
theorem suffixes_apart : ∀ first ∈ suffixes, ∀ second ∈ suffixes, ∀ count < first.length + 1,
    first.toList.drop count = second.toList →
      endsNumeral (first.toList.take count) = false := by
  decide +kernel

theorem suffix_ne_nil : ∀ suffix ∈ suffixes, suffix.toList ≠ [] := by decide +kernel

/-- No suffix ends as a number does. -/
theorem endsNumeral_suffix : ∀ suffix ∈ suffixes, endsNumeral suffix.toList = false := by
  decide +kernel

theorem parenthesis_not_mem_suffix : ∀ suffix ∈ suffixes, '(' ∉ suffix.toList := by decide +kernel

/-- Suffixes have neither separators nor parentheses that are left open. -/
theorem sealed_suffix {mark : Char} (separator : Text.IsSeparator mark) :
    ∀ suffix ∈ suffixes, Text.Sealed mark suffix.toList := by
  rcases separator with rfl | rfl <;> decide +kernel

/-- If the text of one number goes on behind the text of another, and the suffix behind the other
makes up for this, then nothing goes on. -/
theorem eq_of_overlap {x y : Binary64} {middle : List Char} {first second : String}
    (firstListed : first ∈ suffixes) (secondListed : second ∈ suffixes)
    (longer : y.text.toList = x.text.toList ++ middle)
    (overlap : first.toList = middle ++ second.toList) : x = y ∧ first = second := by
  have empty : middle = [] := by
    by_contra present
    have short : middle.length < first.length + 1 := by
      rw [← String.length_toList, overlap, List.length_append]
      omega
    have apart := suffixes_apart first firstListed second secondListed middle.length short
    rw [overlap, List.drop_left, List.take_left,
      ← endsNumeral_append_of_ne_nil x.text.toList present, ← longer] at apart
    exact Bool.false_ne_true ((apart rfl).symm.trans y.endsNumeral_text)
  rw [empty, List.append_nil] at longer
  rw [empty, List.nil_append] at overlap
  exact ⟨Binary64.text_injective (String.toList_inj.mp longer.symm), String.toList_inj.mp overlap⟩

/-- A number and the suffix behind it are told apart. -/
theorem text_append_inj {x y : Binary64} {first second : String} (firstListed : first ∈ suffixes)
    (secondListed : second ∈ suffixes) (same : x.text ++ first = y.text ++ second) :
    x = y ∧ first = second := by
  have texts := congrArg String.toList same
  rw [String.toList_append, String.toList_append] at texts
  rcases List.append_eq_append_iff.mp texts with
    ⟨middle, longer, overlap⟩ | ⟨middle, longer, overlap⟩
  · exact eq_of_overlap firstListed secondListed longer overlap
  · obtain ⟨numbers, rests⟩ := eq_of_overlap secondListed firstListed longer overlap
    exact ⟨numbers.symm, rests.symm⟩

/-- The text is a number with a suffix behind it. -/
structure Shows (text : String) (value : Binary64) (suffix : String) : Prop where
  listed : suffix ∈ suffixes
  written : text = value.text ++ suffix

variable {text : String} {value : Binary64} {suffix : String}

/-- A text shows only one number with only one suffix. -/
theorem Shows.unique {otherValue : Binary64} {otherSuffix : String}
    (shows : Shows text value suffix) (others : Shows text otherValue otherSuffix) :
    value = otherValue ∧ suffix = otherSuffix :=
  text_append_inj shows.listed others.listed (shows.written.symm.trans others.written)

/-- A number with a suffix begins as a number does. -/
theorem Shows.startsNumeral (shows : Shows text value suffix) :
    startsNumeral text.toList := by
  rw [shows.written, String.toList_append]
  exact value.startsNumeral_text _

/-- A number with a suffix does not end as a number does. -/
theorem Shows.endsNumeral (shows : Shows text value suffix) :
    endsNumeral text.toList = false := by
  have present := suffix_ne_nil suffix shows.listed
  rw [shows.written, String.toList_append, endsNumeral_append_of_ne_nil _ present]
  exact endsNumeral_suffix suffix shows.listed

/-- A number with a suffix can stand between separators. -/
theorem Shows.sealed {mark : Char} (separator : Text.IsSeparator mark)
    (shows : Shows text value suffix) : Text.Sealed mark text.toList := by
  rw [shows.written, String.toList_append]
  exact (value.sealed_text separator).append (sealed_suffix separator suffix shows.listed)

theorem Shows.parenthesis_not_mem (shows : Shows text value suffix) : '(' ∉ text.toList := by
  rw [shows.written, String.toList_append, List.mem_append]
  rintro (number | unit)
  · exact ne_of_isNumeral (Binary64.isNumeral_of_mem_text number) rfl rfl
  · exact parenthesis_not_mem_suffix suffix shows.listed unit

end Measure

namespace Angle

def value : Angle → Binary64
  | degrees value | radians value | gradians value | turns value => value

def suffix : Angle → String
  | degrees _ => "deg"
  | radians _ => "rad"
  | gradians _ => "grad"
  | turns _ => "turn"

/-- The angle of a number and the suffix behind it. -/
def ofMeasure? (value : Binary64) (suffix : String) : Option Angle :=
  match suffix with
  | "deg" => some (degrees value)
  | "rad" => some (radians value)
  | "grad" => some (gradians value)
  | "turn" => some (turns value)
  | _ => none

theorem ofMeasure?_suffix (angle : Angle) : ofMeasure? angle.value angle.suffix = some angle := by
  cases angle <;> rfl

/-- An angle is written as its number with its suffix. -/
theorem shows (angle : Angle) : Measure.Shows (render angle) angle.value angle.suffix where
  listed := by cases angle <;> simp only [suffix] <;> decide
  written := by cases angle <;> rfl

/-- Angles that are written alike are the same. -/
theorem render_inj {first second : Angle} : render first = render second ↔ first = second := by
  constructor
  · intro same
    obtain ⟨values, suffixes⟩ := (same ▸ first.shows).unique second.shows
    rw [← Option.some_inj, ← first.ofMeasure?_suffix, ← second.ofMeasure?_suffix, values, suffixes]
  · exact congrArg render

end Angle
end CssValue
