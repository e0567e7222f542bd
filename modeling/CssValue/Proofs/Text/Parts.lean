import CssValue.Proofs.Text.Cut
import CssValue.Proofs.Text.Nesting

/-!
# Texts put together from parts

Parts that are sealed against a separator are read back from the text that joins them.  Such a text
is sealed against a mark in its turn if its parts and the separators between them are, and a list of
parts that all show some character is `none` only if it is empty.
-/

namespace CssValue.Text

variable {mark : Char} {parts : List String}

/-- Sealed pieces with a sealed separator between them are sealed. -/
theorem Sealed.intercalate {separator : List Char} {pieces : List (List Char)}
    (between : Sealed mark separator) (seals : ∀ piece ∈ pieces, Sealed mark piece) :
    Sealed mark (separator.intercalate pieces) := by
  induction pieces with
  | nil => exact ⟨rfl, List.not_mem_nil⟩
  | cons piece rest ih =>
      obtain ⟨first, later⟩ := List.forall_mem_cons.mp seals
      cases rest with
      | nil => rwa [List.intercalate_singleton]
      | cons next others =>
          rw [List.intercalate_cons_cons]
          exact (first.append between).append (ih later)

/-- Parts with spaces between them can stand in a list with commas. -/
theorem sealed_spaced (seals : ∀ part ∈ parts, Sealed ',' part.toList) :
    Sealed ',' (spaced parts).toList := by
  rw [toList_spaced]
  apply Sealed.intercalate (by decide)
  intro piece listed
  obtain ⟨part, member, rfl⟩ := List.mem_map.mp listed
  exact seals part member

/-- Two parts with a space between them are sealed against a comma if both parts are. -/
theorem sealed_pair {first second : String} (left : Sealed ',' first.toList)
    (right : Sealed ',' second.toList) : Sealed ',' (spaced [first, second]).toList :=
  sealed_spaced (List.forall_mem_cons.mpr ⟨left, List.forall_mem_singleton.mpr right⟩)

theorem balanced_spaced (balanced : ∀ part ∈ parts, Balanced part.toList) :
    Balanced (spaced parts).toList := by
  rw [toList_spaced]
  apply Balanced.intercalate (by decide)
  intro piece listed
  obtain ⟨part, member, rfl⟩ := List.mem_map.mp listed
  exact balanced part member

theorem balanced_listed (balanced : ∀ part ∈ parts, Balanced part.toList) :
    Balanced (listed parts).toList := by
  rw [toList_listed]
  apply Balanced.intercalate (by decide)
  intro piece listed
  obtain ⟨part, member, rfl⟩ := List.mem_map.mp listed
  exact balanced part member

/-- Sealed parts that are separated by spaces are split at the spaces outside of parentheses. -/
theorem splitOutside_spaced (present : parts ≠ [])
    (seals : ∀ part ∈ parts, Sealed ' ' part.toList) : splitOutside " " (spaced parts) = parts :=
  splitOutside_intercalate (rfl : " ".toList = [' ']) present seals

/-- Sealed parts that are separated by commas are split at the commas outside of parentheses. -/
theorem splitOutside_listed (present : parts ≠ [])
    (seals : ∀ part ∈ parts, Sealed ',' part.toList) : splitOutside ", " (listed parts) = parts :=
  splitOutside_intercalate (rfl : ", ".toList = [',', ' ']) present seals

/-! ### Lists that may be empty -/

/-- A list with a part in it is written as its parts. -/
theorem orNone_of_ne_nil {join : List String → String} (present : parts ≠ []) :
    orNone join parts = join parts := by
  rw [orNone, List.isEmpty_eq_false_iff.mpr present, if_neg Bool.false_ne_true]

/-- The characters of a part are among those of the text that joins it to others. -/
theorem mem_intercalate {separator : String} {part : String} {c : Char} (listed : part ∈ parts)
    (written : c ∈ part.toList) : c ∈ (separator.intercalate parts).toList := by
  rw [String.toList_intercalate]
  induction parts with
  | nil => exact (List.not_mem_nil listed).elim
  | cons first rest ih =>
      cases rest with
      | nil =>
          rw [List.mem_singleton.mp listed] at written
          simpa only [List.map_cons, List.map_nil, List.intercalate_singleton] using written
      | cons next others =>
          simp only [List.map_cons, List.intercalate_cons_cons, List.mem_append] at ih ⊢
          rcases List.mem_cons.mp listed with rfl | later
          · exact Or.inl (Or.inl written)
          · exact Or.inr (ih later)

/-- If every part shows a mark that `none` does not, then only the empty list is `none`. -/
theorem orNone_eq_none_iff {separator : String} (foreign : mark ∉ "none".toList)
    (marked : ∀ part ∈ parts, mark ∈ part.toList) :
    orNone separator.intercalate parts = "none" ↔ parts = [] := by
  cases parts with
  | nil => exact iff_of_true rfl rfl
  | cons part rest =>
      have present : part :: rest ≠ [] := List.cons_ne_nil part rest
      refine iff_of_false (fun same => ?_) present
      have first : mark ∈ part.toList := marked part List.mem_cons_self
      rw [orNone_of_ne_nil present] at same
      exact foreign (same ▸ mem_intercalate List.mem_cons_self first)

/-- A text of two parts or more has a space in it. -/
theorem mem_spaced (first second : String) (rest : List String) :
    ' ' ∈ (spaced (first :: second :: rest)).toList := by
  rw [toList_spaced, List.map_cons, List.map_cons, List.intercalate_cons_cons]
  exact List.mem_append_left _ (List.mem_append_right _ (List.mem_singleton_self ' '))

/-! ### Lists of values -/

section Lists

variable {α : Type} [Render α] {elements : List α}

theorem map_render_ne_nil (present : elements ≠ []) : elements.map render ≠ [] :=
  mt List.map_eq_nil_iff.mp present

theorem sealed_of_mem_map_render
    (seals : ∀ element ∈ elements, Sealed mark (render element).toList) :
    ∀ part ∈ elements.map render, Sealed mark part.toList := List.forall_mem_map.mpr seals

/-- The texts of the elements are read back from the text of a list that may be `none`. -/
theorem splitOutside_orNone {separator : String} {more : List Char}
    (starts : separator.toList = mark :: more) (present : elements ≠ [])
    (seals : ∀ element ∈ elements, Sealed mark (render element).toList) :
    splitOutside separator (orNone separator.intercalate (elements.map render)) =
      elements.map render := by
  rw [orNone_of_ne_nil (map_render_ne_nil present)]
  exact splitOutside_intercalate starts (map_render_ne_nil present) (sealed_of_mem_map_render seals)

/-- Where every element shows a mark that `none` has not, only the empty list is written `none`. -/
theorem orNone_render_eq_none_iff {separator : String} (foreign : mark ∉ "none".toList)
    (marked : ∀ element ∈ elements, mark ∈ (render element).toList) :
    orNone separator.intercalate (elements.map render) = "none" ↔ elements = [] :=
  (orNone_eq_none_iff foreign (List.forall_mem_map.mpr marked)).trans List.map_eq_nil_iff

end Lists

/-! ### Optional parts -/

section Optional

variable {α : Type} [Render α] {value : Option α}

/-- An optional part is sealed if it is absent or its value is sealed. -/
theorem sealed_of_mem_part (seals : ∀ present ∈ value, Sealed mark (render present).toList) :
    ∀ text ∈ part value, Sealed mark text.toList := by
  intro text member
  obtain ⟨present, listed, rfl⟩ := List.mem_map.mp member
  exact seals present (Option.mem_toList.mp listed)

/-- An optional side is sealed if its value is; an absent side is written `0`. -/
theorem sealed_side (separator : IsSeparator mark)
    (seals : ∀ present ∈ value, Sealed mark (render present).toList) :
    Sealed mark (side value).toList := by
  cases value with
  | some present => exact seals present rfl
  | none =>
      change Sealed mark "0".toList
      rcases separator with rfl | rfl <;> decide

end Optional

/-! ### Functional notation -/

/-- What stands between the first parenthesis of a text and its last character. -/
def interior (text : String) : String := String.ofList (cut '(' text.toList).2.dropLast

/-- What stands between the outermost parentheses of a functional notation is its arguments. -/
theorem interior_functional {name arguments : String} (plain : '(' ∉ name.toList) :
    interior (functional name arguments) = arguments := by
  rw [interior, toList_functional, cut_append _ plain, List.dropLast_concat, String.ofList_toList]

/-- The text is the functional notation of a name, and the parts stand between the commas directly
inside its parentheses. -/
structure IsCall (text name : String) (parts : List String) : Prop where
  written : text = functional name (interior text)
  split : splitOutside ", " (interior text) = parts

/-- A functional notation with sealed arguments is a call with these arguments. -/
theorem isCall_listed {name : String} (plain : '(' ∉ name.toList) (present : parts ≠ [])
    (seals : ∀ part ∈ parts, Sealed ',' part.toList) :
    IsCall (functional name (listed parts)) name parts where
  written := by rw [interior_functional plain]
  split := by rw [interior_functional plain, splitOutside_listed present seals]

end CssValue.Text
