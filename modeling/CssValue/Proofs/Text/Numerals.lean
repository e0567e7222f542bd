import CssValue.Proofs.Binary64.Characters
import CssValue.Text.Render
import Mathlib.Data.List.Forall2

/-!
# Numbers written in a text

A text writes numbers in their order, each in full and apart from what stands before and behind it:
no digit, point or sign touches the text of a number.  A gap is a text that keeps the numbers on its
two sides apart, such as a unit, the separator of a list or the end of a functional notation.
-/

namespace CssValue.Text

/-- A digit, a point or a sign, as in the positional notation of a number. -/
def isPositionalCharacter (c : Char) : Bool := c.isDigit || "-.".toList.contains c

/-- A number may stand before the text. -/
def beginsApart (text : List Char) : Bool := text.head?.all (!isPositionalCharacter ·)

/-- A number may stand behind the text. -/
def endsApart (text : List Char) : Bool := text.getLast?.all (!isPositionalCharacter ·)

/-- The numbers are finite, and the text writes them in this order, each apart from the rest of the
text.  What the text says besides is left open. -/
inductive WritesNumbers : List Char → List Binary64 → Prop
  | plain (text : List Char) : WritesNumbers text []
  | number {x : Binary64} {front back : List Char} {numbers : List Binary64} (finite : x.isFinite)
      (before : endsApart front) (behind : beginsApart back) (later : WritesNumbers back numbers) :
      WritesNumbers (front ++ (x.text.toList ++ back)) (x :: numbers)

/-- The text keeps numbers on both of its sides apart. -/
structure IsGap (gap : List Char) : Prop where
  present : gap ≠ []
  begins : beginsApart gap
  ends : endsApart gap

instance (gap : List Char) : Decidable (IsGap gap) :=
  decidable_of_iff (gap ≠ [] ∧ beginsApart gap ∧ endsApart gap)
    ⟨fun ⟨present, begins, ends⟩ => ⟨present, begins, ends⟩,
      fun ⟨present, begins, ends⟩ => ⟨present, begins, ends⟩⟩

variable {text other front back gap : List Char} {numbers others : List Binary64}

/-! ### Texts side by side -/

/-- A number may stand before two texts if it may stand before either. -/
theorem beginsApart_append (begins : beginsApart front) (laterBegins : beginsApart back) :
    beginsApart (front ++ back) := by
  cases front with
  | nil => exact laterBegins
  | cons c rest => exact begins

/-- Whether a number may stand behind a text is decided by what stands last in it. -/
theorem endsApart_append_of_ne_nil (front : List Char) (present : back ≠ []) :
    endsApart (front ++ back) = endsApart back := by
  unfold endsApart
  rw [List.getLast?_append, List.getLast?_eq_some_getLast present, Option.some_or]

/-- A number may stand behind two texts if it may stand behind either. -/
theorem endsApart_append (ends : endsApart front) (laterEnds : endsApart back) :
    endsApart (front ++ back) := by
  by_cases empty : back = []
  · rwa [empty, List.append_nil]
  · rwa [endsApart_append_of_ne_nil front empty]

/-- A number may stand before a gap, whatever follows it. -/
theorem IsGap.beginsApart_append (between : IsGap gap) (back : List Char) :
    beginsApart (gap ++ back) := by
  obtain ⟨present, begins, _⟩ := between
  cases gap with
  | nil => exact (present rfl).elim
  | cons c rest => exact begins

namespace WritesNumbers

/-- A text that a number may stand behind can be put in front. -/
theorem prepend (writes : WritesNumbers text numbers) (ends : endsApart front) :
    WritesNumbers (front ++ text) numbers := by
  cases writes with
  | plain text => exact .plain _
  | number finite before behind later =>
      rw [← List.append_assoc]
      exact .number finite (endsApart_append ends before) behind later

/-- Texts with a gap between them write the numbers of both. -/
theorem join (writes : WritesNumbers text numbers) (between : IsGap gap)
    (otherWrites : WritesNumbers other others) :
    WritesNumbers (text ++ (gap ++ other)) (numbers ++ others) := by
  induction writes with
  | plain text =>
      have ends : endsApart (text ++ gap) := by
        rw [endsApart_append_of_ne_nil text between.present]
        exact between.ends
      rw [← List.append_assoc]
      exact otherWrites.prepend ends
  | number finite before behind later ih =>
      have apart := beginsApart_append behind (between.beginsApart_append other)
      rw [List.append_assoc, List.append_assoc]
      exact .number finite before apart ih

/-- A gap behind a text adds no number. -/
theorem append (writes : WritesNumbers text numbers) (behind : IsGap gap) :
    WritesNumbers (text ++ gap) numbers := by
  have joined := writes.join behind (.plain [])
  rwa [List.append_nil, List.append_nil] at joined

end WritesNumbers

/-! ### Numbers, lists and functional notations -/

/-- The text of a number writes this number. -/
theorem writesNumbers_text {x : Binary64} (finite : x.isFinite) :
    WritesNumbers x.text.toList [x] := by
  have nothing : endsApart [] := rfl
  have alone := WritesNumbers.number finite nothing rfl (.plain [])
  rwa [List.append_nil, List.nil_append] at alone

/-- Each part writes the numbers of its own list. -/
def EachWrites (parts : List String) (lists : List (List Binary64)) : Prop :=
  List.Forall₂ (fun part numbers => WritesNumbers part.toList numbers) parts lists

variable {parts : List String} {lists : List (List Binary64)}

/-- Parts with a gap between them write the numbers of all parts, in order. -/
theorem writesNumbers_intercalate {separator : String} (between : IsGap separator.toList)
    (each : EachWrites parts lists) :
    WritesNumbers (separator.intercalate parts).toList lists.flatten := by
  rw [String.toList_intercalate]
  induction each with
  | nil => exact .plain _
  | @cons part numbers rest others writes laterEach ih =>
      cases laterEach with
      | nil =>
          rw [List.map_cons, List.map_nil, List.intercalate_singleton, List.flatten_cons,
            List.flatten_nil, List.append_nil]
          exact writes
      | cons next later =>
          rw [List.map_cons, List.map_cons, List.intercalate_cons_cons, List.append_assoc]
          exact writes.join between ih

theorem writesNumbers_spaced (each : EachWrites parts lists) :
    WritesNumbers (spaced parts).toList lists.flatten :=
  writesNumbers_intercalate (by decide) each

theorem writesNumbers_listed (each : EachWrites parts lists) :
    WritesNumbers (listed parts).toList lists.flatten :=
  writesNumbers_intercalate (by decide) each

/-- The functional notation writes the numbers of its arguments, even behind a name that ends in a
digit. -/
theorem writesNumbers_functional (name : String) {arguments : String}
    (writes : WritesNumbers arguments.toList numbers) :
    WritesNumbers (functional name arguments).toList numbers := by
  have opening : endsApart (name.toList ++ ['(']) := by
    rw [endsApart_append_of_ne_nil _ (List.cons_ne_nil _ _)]
    rfl
  rw [toList_functional, List.append_cons]
  exact (writes.append (by decide)).prepend opening

end CssValue.Text
