import CssValue.Proofs.Quantity.Measure

/-!
# Lengths told by their text

The text of a length is a number with a unit or a percent sign behind it, a keyword, or a `calc()`.
No keyword begins as a number does, and only a `calc()` has a parenthesis.  Each length therefore
has a text of its own.  No length is written as a number is, and if the parentheses of a calculation
are balanced, then the text of a length can stand between separators.
-/

namespace CssValue.Length

/-! ### The forms of a text -/

/-- The lengths that are keywords. -/
def words : List Length :=
  (Keyword.all : List SizeKeyword).map keyword ++ (Keyword.all : List WideKeyword).map wide

theorem words_distinct : (words.map render).Nodup := by decide

/-- No keyword begins as a number does. -/
theorem startsNumeral_word : ∀ word ∈ words, startsNumeral (render word).toList = false := by
  decide +kernel

/-- No keyword ends as a number does. -/
theorem endsNumeral_word : ∀ word ∈ words, endsNumeral (render word).toList = false := by
  decide +kernel

theorem parenthesis_not_mem_word : ∀ word ∈ words, '(' ∉ (render word).toList := by decide +kernel

/-- Keywords have neither separators nor parentheses that are left open. -/
theorem sealed_word {mark : Char} (separator : Text.IsSeparator mark) :
    ∀ word ∈ words, Text.Sealed mark (render word).toList := by
  rcases separator with rfl | rfl <;> decide +kernel

/-- The length of a number and the suffix behind it. -/
def ofMeasure? (value : Binary64) (suffix : String) : Option Length :=
  if suffix = "%" then some (percentage value)
  else ((Keyword.all : List LengthUnit).find? (render · == suffix)).map (dimension value)

/-- How a length is written: a number with a suffix, a keyword, or a `calc()`. -/
inductive Form (length : Length) : Prop where
  | measure (value : Binary64) (suffix : String)
      (shows : Measure.Shows (render length) value suffix)
      (read : ofMeasure? value suffix = some length)
  | word (listed : length ∈ words)
  | calculation (expression : String) (same : length = .calculation expression)

theorem form (length : Length) : Form length := by
  cases length with
  | dimension value unit =>
      refine .measure value (render unit) ⟨?_, rfl⟩ ?_
      · cases unit <;> decide
      · cases unit <;> rfl
  | percentage value => exact .measure value "%" ⟨by decide, rfl⟩ rfl
  | keyword keyword =>
      have listed : keyword ∈ (Keyword.all : List SizeKeyword) := by cases keyword <;> decide
      exact .word (List.mem_append_left _ (List.mem_map_of_mem listed))
  | calculation expression => exact .calculation expression rfl
  | wide keyword =>
      have listed : keyword ∈ (Keyword.all : List WideKeyword) := by cases keyword <;> decide
      exact .word (List.mem_append_right _ (List.mem_map_of_mem listed))

variable {first second length word : Length} {value : Binary64} {suffix expression : String}

theorem parenthesis_mem_calculation (expression : String) :
    '(' ∈ (render (calculation expression)).toList :=
  Text.parenthesis_mem_functional "calc" expression

/-- A keyword is not written as a number with a suffix is, since it does not begin as one. -/
theorem word_ne_measure (listed : word ∈ words)
    (shows : Measure.Shows (render length) value suffix) : render word ≠ render length := by
  intro same
  have starts := shows.startsNumeral
  rw [← same, startsNumeral_word word listed] at starts
  exact Bool.false_ne_true starts

/-- A keyword has no parenthesis, and so is not written as a `calc()` is. -/
theorem word_ne_calculation (listed : word ∈ words) (expression : String) :
    render word ≠ render (calculation expression) := fun same =>
  parenthesis_not_mem_word word listed (same ▸ parenthesis_mem_calculation expression)

/-- A number with a suffix has no parenthesis either. -/
theorem measure_ne_calculation (shows : Measure.Shows (render length) value suffix)
    (expression : String) : render length ≠ render (calculation expression) := fun same =>
  shows.parenthesis_not_mem (same ▸ parenthesis_mem_calculation expression)

/-- Lengths that are written alike are the same. -/
theorem eq_of_render_eq (same : render first = render second) : first = second := by
  cases first.form with
  | measure value suffix shows read =>
      cases second.form with
      | measure otherValue otherSuffix otherShows otherRead =>
          obtain ⟨values, suffixes⟩ := (same ▸ shows).unique otherShows
          rw [← Option.some_inj, ← read, ← otherRead, values, suffixes]
      | word listed => exact (word_ne_measure listed shows same.symm).elim
      | calculation expression calculated =>
          exact (measure_ne_calculation shows expression (calculated ▸ same)).elim
  | word listed =>
      cases second.form with
      | measure value suffix shows read => exact (word_ne_measure listed shows same).elim
      | word otherListed => exact List.inj_on_of_nodup_map words_distinct listed otherListed same
      | calculation expression calculated =>
          exact (word_ne_calculation listed expression (calculated ▸ same)).elim
  | calculation expression calculated =>
      subst calculated
      cases second.form with
      | measure value suffix shows read =>
          exact (measure_ne_calculation shows expression same.symm).elim
      | word listed => exact (word_ne_calculation listed expression same.symm).elim
      | calculation otherExpression calculated =>
          subst calculated
          have arguments := Text.functional_inj (by decide) (by decide) same
          rw [arguments.2]

/-- The number and the suffix that a text shows give the length that is written so. -/
theorem ofMeasure?_of_shows (shows : Measure.Shows (render length) value suffix) :
    ofMeasure? value suffix = some length := by
  cases length.form with
  | measure otherValue otherSuffix otherShows read =>
      obtain ⟨values, suffixes⟩ := shows.unique otherShows
      rw [values, suffixes, read]
  | word listed => exact (word_ne_measure listed shows rfl).elim
  | calculation expression calculated =>
      exact (measure_ne_calculation shows expression (by rw [calculated])).elim

/-- **The text of a length tells the length.** Lengths that are written alike are of one shape, with
the same number, unit, keyword or expression.  However the text of a length is taken apart into a
number and a unit or percent sign, these two give the length. -/
theorem text_tells_length :
    (∀ first second : Length, render first = render second ↔ first = second) ∧
      ∀ (length : Length) (value : Binary64) (suffix : String), suffix ∈ Measure.suffixes →
        render length = value.text ++ suffix → ofMeasure? value suffix = some length :=
  ⟨fun _ _ => ⟨eq_of_render_eq, congrArg render⟩,
    fun _ _ _ listed written => ofMeasure?_of_shows ⟨listed, written⟩⟩

/-- The text `infin` is an infinity in inches. -/
theorem text_tells_length_infinite :
    "in" ∈ Measure.suffixes ∧
      render (dimension (.infinity false) .inch) = (Binary64.infinity false).text ++ "in" ∧
      ofMeasure? (.infinity false) "in" = some (dimension (.infinity false) .inch) := by
  have listed : "in" ∈ Measure.suffixes := by decide
  exact ⟨listed, rfl, text_tells_length.2 _ _ _ listed rfl⟩

/-! ### Tame lengths -/

/-- The parentheses in the text of a calculation are balanced. -/
def Tame : Length → Prop
  | calculation expression => Text.Balanced expression.toList
  | dimension _ _ | percentage _ | keyword _ | wide _ => True

instance : DecidablePred Tame
  | calculation expression => inferInstanceAs (Decidable (Text.Balanced expression.toList))
  | dimension _ _ | percentage _ | keyword _ | wide _ => inferInstanceAs (Decidable True)

/-- The text of a tame length has balanced parentheses and no separator outside of them. -/
theorem sealed_render {mark : Char} (separator : Text.IsSeparator mark) (tame : length.Tame) :
    Text.Sealed mark (render length).toList := by
  cases length.form with
  | measure value suffix shows read => exact shows.sealed separator
  | word listed => exact sealed_word separator length listed
  | calculation expression calculated =>
      subst calculated
      have named : Text.Sealed mark "calc".toList := by rcases separator with rfl | rfl <;> decide
      exact Text.sealed_functional named tame separator.ne_opening

/-- A unit, a percent sign, a keyword or a parenthesis ends the text of a length. -/
theorem endsNumeral_render (length : Length) : endsNumeral (render length).toList = false := by
  cases length.form with
  | measure value suffix shows read => exact shows.endsNumeral
  | word listed => exact endsNumeral_word length listed
  | calculation expression calculated =>
      subst calculated
      change endsNumeral (Text.functional "calc" expression).toList = false
      rw [Text.toList_functional, List.append_cons, ← List.append_assoc,
        endsNumeral_append_of_ne_nil _ (by decide)]
      rfl

/-- No length is written as a number is. -/
theorem render_ne_number (length : Length) (x : Binary64) : render length ≠ render x := by
  intro same
  have ends : endsNumeral (render x).toList = true := Binary64.endsNumeral_text x
  rw [← same, endsNumeral_render] at ends
  exact Bool.false_ne_true ends

end CssValue.Length
