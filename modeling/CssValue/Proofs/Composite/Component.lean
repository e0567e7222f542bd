import CssValue.Box.Border
import CssValue.Motion.Animation
import CssValue.Motion.Transition
import CssValue.Proofs.Paint.ColorText
import CssValue.Proofs.Text.Parts

/-!
# Components of composite values

The values that composite values are written from have balanced parentheses and no separator outside
of them, and so they can stand between separators.  Numbers, keywords and calls are like this by
themselves.  The texts that a value takes from outside have to be: the expressions of calculations,
the digits of hexadecimal colors and the names of properties.
-/

namespace CssValue

variable {mark : Char}

/-! ### Words and numbers -/

/-- Letters, digits and hyphens are neither parentheses nor separators. -/
theorem Text.sealed_word {word : String} (separator : IsSeparator mark)
    (named : word.toList.all isNameCharacter) : Sealed mark word.toList := by
  have other : isNameCharacter mark = false := by rcases separator with rfl | rfl <;> rfl
  have apart : ∀ {c outside : Char}, c ∈ word.toList → isNameCharacter outside = false →
      c ≠ outside := by
    rintro c outside member foreign rfl
    rw [List.all_eq_true.mp named c member] at foreign
    cases foreign
  apply sealed_of_plain
  intro c member
  exact ⟨apart member rfl, apart member rfl, apart member other⟩

/-- A natural number can stand between separators. -/
theorem sealed_render_nat (separator : Text.IsSeparator mark) (n : Nat) :
    Text.Sealed mark (render n).toList := by
  rw [toList_render_nat]
  apply sealed_of_isNumeral separator
  intro c member
  exact isNumeral_of_isDigit (isDigit_of_mem_digits member)

/-- A time can stand between separators. -/
theorem Time.sealed_render (separator : Text.IsSeparator mark) (time : Time) :
    Text.Sealed mark (render time).toList := by
  have measured : ∀ (value : Binary64) {unit : String}, unit.toList.all isNameCharacter →
      Text.Sealed mark (value.text ++ unit).toList := by
    intro value unit named
    rw [String.toList_append]
    exact (value.sealed_text separator).append (Text.sealed_word separator named)
  cases time with
  | seconds value => exact measured value (by decide : "s".toList.all isNameCharacter)
  | milliseconds value => exact measured value (by decide : "ms".toList.all isNameCharacter)

theorem IterationCount.sealed_render (separator : Text.IsSeparator mark)
    (iterations : IterationCount) : Text.Sealed mark (render iterations).toList := by
  cases iterations with
  | finite count => exact count.sealed_text separator
  | infinite => exact Text.sealed_word separator (by decide)

/-- The commas of a timing function stand inside its parentheses. -/
theorem TimingFunction.sealed_render (separator : Text.IsSeparator mark)
    (timing : TimingFunction) : Text.Sealed mark (render timing).toList := by
  cases timing with
  | cubicBezier x1 y1 x2 y2 =>
      refine Text.sealed_functional (Text.sealed_word separator (by decide)) ?_ separator.ne_opening
      apply Text.balanced_listed
      intro part member
      have number : ∀ x : Binary64, Text.Balanced (render x).toList :=
        fun x => (x.sealed_text separator).balanced
      simp only [List.mem_cons, List.not_mem_nil, or_false] at member
      rcases member with rfl | rfl | rfl | rfl <;> exact number _
  | steps count position =>
      refine Text.sealed_functional (Text.sealed_word separator (by decide)) ?_ separator.ne_opening
      apply Text.balanced_listed
      intro part member
      simp only [List.mem_cons, List.not_mem_nil, or_false] at member
      rcases member with rfl | rfl
      · exact (sealed_render_nat separator count).balanced
      · cases position <;> decide
  | _ => exact Text.sealed_word separator (by decide)

/-! ### Values with texts from outside -/

namespace Color

/-- The text behind the number signs of a hexadecimal color has balanced parentheses and keeps the
mark inside of them, as digits do. -/
def Tame (mark : Char) : Color → Prop
  | hex text => Text.Sealed mark (Hex.bare text)
  | named _ | rgb _ _ _ | rgba _ _ _ _ | hsl _ _ _ | hsla _ _ _ _ | hwb _ _ _ | lab _ _ _
  | lch _ _ _ | system _ | currentColor | transparent | wide _ => True

instance : DecidablePred (Tame mark)
  | hex text => inferInstanceAs (Decidable (Text.Sealed mark (Hex.bare text)))
  | named _ | rgb _ _ _ | rgba _ _ _ _ | hsl _ _ _ | hsla _ _ _ _ | hwb _ _ _ | lab _ _ _
  | lch _ _ _ | system _ | currentColor | transparent | wide _ => inferInstanceAs (Decidable True)

/-- The keywords among colors are written with the characters of names. -/
theorem words_named : ∀ word ∈ words, (render word).toList.all isNameCharacter := by
  decide +kernel

/-- A color can stand between separators if the text of a hexadecimal color can. -/
theorem sealed_render {color : Color} (separator : Text.IsSeparator mark)
    (tame : color.Tame mark) : Text.Sealed mark (render color).toList := by
  cases color.form with
  | word listed => exact Text.sealed_word separator (words_named color listed)
  | hex text digits =>
      subst digits
      have sign : Text.Sealed mark ['#'] := by rcases separator with rfl | rfl <;> decide
      change Text.Sealed mark (String.ofList (['#'] ++ Hex.bare text)).toList
      rw [String.toList_ofList]
      exact sign.append tame
  | call call called =>
      rw [render_eq_text called]
      exact (readable_call called).sealed_text separator

end Color

namespace BorderWidth

/-- The parentheses in the text of a calculation are balanced. -/
def Tame : BorderWidth → Prop
  | length value => value.Tame
  | thin | medium | thick => True

instance : DecidablePred Tame
  | length value => inferInstanceAs (Decidable value.Tame)
  | thin | medium | thick => inferInstanceAs (Decidable True)

theorem sealed_render {width : BorderWidth} (separator : Text.IsSeparator mark)
    (tame : width.Tame) : Text.Sealed mark (render width).toList := by
  cases width with
  | length value => exact value.sealed_render separator tame
  | thin | medium | thick => exact Text.sealed_word separator (by decide)

end BorderWidth

namespace TransitionProperty

/-- The name of a property has balanced parentheses and keeps the mark inside of them. -/
def Tame (mark : Char) : TransitionProperty → Prop
  | custom name => Text.Sealed mark name.toList
  | all | none => True

instance : DecidablePred (Tame mark)
  | custom name => inferInstanceAs (Decidable (Text.Sealed mark name.toList))
  | all | none => inferInstanceAs (Decidable True)

theorem sealed_render {property : TransitionProperty} (separator : Text.IsSeparator mark)
    (tame : property.Tame mark) : Text.Sealed mark (render property).toList := by
  have nothing : Text.Sealed mark "none".toList := Text.sealed_word separator (by decide)
  cases property with
  | all => exact Text.sealed_word separator (by decide)
  | none => exact nothing
  | custom name =>
      change Text.Sealed mark (Text.orIfBlank "none" name).toList
      unfold Text.orIfBlank
      split
      · exact nothing
      · exact tame

end TransitionProperty
end CssValue
