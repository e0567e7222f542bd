import CssValue.Proofs.Binary64.Characters
import CssValue.Proofs.Text.Parts
import CssValue.Text.Blank

/-!
# Visible texts

A text is visible if some character of it is not white space.  Whatever is put together from texts
is visible as soon as one of them is.  A functional notation is visible by its parentheses, a text
that ends as numbers do by its last character, and a text with a fallback if the fallback is.
-/

namespace CssValue.Text

/-- Some character of the text is not white space. -/
def Visible (text : String) : Prop := ∃ c ∈ text.toList, isWhiteSpace c = false

variable {text part : String} {parts : List String}

/-- A text is visible just when it is not blank. -/
theorem visible_iff_not_blank : Visible text ↔ isBlank text = false := by
  simp only [Visible, isBlank, List.all_eq_false, Bool.not_eq_true]

instance : Decidable (Visible text) := decidable_of_iff _ visible_iff_not_blank.symm

/-! ### Joined texts -/

theorem Visible.append_left (visible : Visible text) (back : String) : Visible (text ++ back) := by
  obtain ⟨c, written, shown⟩ := visible
  refine ⟨c, ?_, shown⟩
  rw [String.toList_append]
  exact List.mem_append_left _ written

theorem Visible.append_right (front : String) (visible : Visible text) :
    Visible (front ++ text) := by
  obtain ⟨c, written, shown⟩ := visible
  refine ⟨c, ?_, shown⟩
  rw [String.toList_append]
  exact List.mem_append_right _ written

/-- Joined parts are visible as soon as one of them is. -/
theorem visible_intercalate (separator : String) (listed : part ∈ parts) (visible : Visible part) :
    Visible (separator.intercalate parts) := by
  obtain ⟨c, written, shown⟩ := visible
  exact ⟨c, mem_intercalate listed written, shown⟩

/-- A functional notation is visible by its parentheses. -/
theorem visible_functional (name arguments : String) : Visible (functional name arguments) :=
  ⟨'(', parenthesis_mem_functional name arguments, rfl⟩

/-- A list that may be `none` is visible if its parts, however they are joined, make it so. -/
theorem visible_orNone {join : List String → String} (joined : parts ≠ [] → Visible (join parts)) :
    Visible (orNone join parts) := by
  by_cases present : parts = []
  · rw [present]
    have word : isBlank "none" = false := rfl
    exact visible_iff_not_blank.mpr word
  · rw [orNone_of_ne_nil present]
    exact joined present

/-- A list of visible parts is visible, also when it is empty and written `none`. -/
theorem visible_orNone_intercalate (separator : String) (visible : ∀ part ∈ parts, Visible part) :
    Visible (orNone separator.intercalate parts) := by
  apply visible_orNone
  intro present
  have first := List.head_mem present
  exact visible_intercalate separator first (visible _ first)

/-- A text with a visible fallback for blank ones is visible. -/
theorem visible_orIfBlank {fallback : String} (text : String) (visible : Visible fallback) :
    Visible (orIfBlank fallback text) := by
  unfold orIfBlank
  split
  case isTrue => exact visible
  case isFalse shown => exact visible_iff_not_blank.mpr (Bool.eq_false_iff.mpr shown)

/-! ### Digits -/

theorem isWhiteSpace_of_isDigit {c : Char} (digit : c.isDigit) : isWhiteSpace c = false := by
  obtain ⟨lowest, highest⟩ : 48 ≤ c.toNat ∧ c.toNat ≤ 57 := by
    simpa [Char.isDigit, UInt32.le_iff_toNat_le] using digit
  have apart : ∀ range ∈ whiteSpaceRanges, range.2 < 48 ∨ 57 < range.1 := by decide
  apply List.any_eq_false.mpr
  intro range listed inside
  have bounds := Bool.and_eq_true_iff.mp inside
  simp only [decide_eq_true_eq] at bounds
  have outside := apart range listed
  omega

/-- A text that ends as a number does is visible. -/
theorem visible_of_endsNumeral (ends : endsNumeral text.toList) : Visible text := by
  obtain ⟨c, last, final⟩ := (Option.any_eq_true _ _).mp ends
  refine ⟨c, List.mem_of_getLast? last, ?_⟩
  rcases Bool.or_eq_true_iff.mp final with digit | letter
  · exact isWhiteSpace_of_isDigit digit
  · have letters : c ∈ ['N', 'f'] := List.contains_iff_mem.mp letter
    simp only [List.mem_cons, List.not_mem_nil, or_false] at letters
    rcases letters with rfl | rfl <;> rfl

end CssValue.Text
