import CssValue.Proofs.Text.Parts
import Mathlib.Data.List.Chain

/-!
# Tidy texts

In a tidy text every separator has something on both of its sides.  Whether a text is tidy depends
only on the characters that stand side by side, and so it is settled piece by piece.  A firm text
may stand between any two characters; firm parts with separators between them make a firm text, and
so does the functional notation around a tidy text.
-/

namespace CssValue.Text

instance : DecidablePred IsSeparator := fun mark =>
  inferInstanceAs (Decidable (mark = ' ' ∨ mark = ','))

/-- No separator stands at an end of the text, directly inside a parenthesis, or next to another
separator.  A comma and the space behind it count as one separator. -/
structure Tidy (text : String) : Prop where
  begins : ∀ mark ∈ text.toList.head?, ¬ IsSeparator mark
  ends : ∀ mark ∈ text.toList.getLast?, ¬ IsSeparator mark
  opens : ∀ mark, ['(', mark] <:+: text.toList → ¬ IsSeparator mark
  closes : ∀ mark, [mark, ')'] <:+: text.toList → ¬ IsSeparator mark
  parts : ∀ left right, [left, right] <:+: text.toList → IsSeparator left → IsSeparator right →
    left = ',' ∧ right = ' '

/-- The two characters may stand side by side in a tidy text. -/
structure Fits (left right : Char) : Prop where
  opens : left = '(' → ¬ IsSeparator right
  closes : right = ')' → ¬ IsSeparator left
  parts : IsSeparator left → IsSeparator right → left = ',' ∧ right = ' '

instance (left right : Char) : Decidable (Fits left right) :=
  decidable_of_iff ((left = '(' → ¬ IsSeparator right) ∧ (right = ')' → ¬ IsSeparator left) ∧
      (IsSeparator left → IsSeparator right → left = ',' ∧ right = ' '))
    ⟨fun ⟨opens, closes, parts⟩ => ⟨opens, closes, parts⟩,
      fun ⟨opens, closes, parts⟩ => ⟨opens, closes, parts⟩⟩

/-- The text may stand between two characters. -/
def Spans (left : Char) (text : List Char) (right : Char) : Prop :=
  (left :: (text ++ [right])).IsChain Fits

instance (left : Char) (text : List Char) (right : Char) : Decidable (Spans left text right) :=
  inferInstanceAs (Decidable (List.IsChain Fits _))

/-- The text may stand between a space and a comma, and so between any two characters. -/
def Firm (text : String) : Prop := Spans ' ' text.toList ','

instance (text : String) : Decidable (Firm text) :=
  inferInstanceAs (Decidable (Spans ' ' text.toList ','))

variable {left middle right c : Char} {front back characters : List Char}
  {text name arguments separator : String} {parts : List String}

/-! ### Characters side by side -/

/-- Behind a character that neither opens nor separates anything may follow. -/
theorem fits_of_left (notOpening : left ≠ '(') (other : ¬ IsSeparator left) (right : Char) :
    Fits left right :=
  ⟨fun opening => (notOpening opening).elim, fun _ => other,
    fun separator => (other separator).elim⟩

/-- Before a character that neither closes nor separates anything may stand. -/
theorem fits_of_right (notClosing : right ≠ ')') (other : ¬ IsSeparator right) (left : Char) :
    Fits left right :=
  ⟨fun _ => other, fun closing => (notClosing closing).elim,
    fun _ separator => (other separator).elim⟩

/-- No separator may follow an opening parenthesis, and everything else may. -/
theorem fits_opening_iff : Fits '(' c ↔ ¬ IsSeparator c := by
  constructor
  · exact fun fits => fits.opens rfl
  · intro other
    exact ⟨fun _ => other, fun _ => by decide, fun _ separator => (other separator).elim⟩

/-- No separator may stand before a closing parenthesis, and everything else may. -/
theorem fits_closing_iff : Fits c ')' ↔ ¬ IsSeparator c := by
  constructor
  · exact fun fits => fits.closes rfl
  · intro other
    exact ⟨fun _ => by decide, fun _ => other, fun separator => (other separator).elim⟩

/-- Behind a space neither a closing parenthesis nor a separator may follow. -/
theorem fits_space_iff : Fits ' ' c ↔ c ≠ ')' ∧ ¬ IsSeparator c := by
  have space : IsSeparator ' ' := Or.inl rfl
  constructor
  · intro fits
    refine ⟨fun closing => fits.closes closing space, fun separator => ?_⟩
    exact absurd (fits.parts space separator).1 (by decide)
  · rintro ⟨notClosing, other⟩
    exact fits_of_right notClosing other ' '

/-- Before a comma neither an opening parenthesis nor a separator may stand. -/
theorem fits_comma_iff : Fits c ',' ↔ c ≠ '(' ∧ ¬ IsSeparator c := by
  have comma : IsSeparator ',' := Or.inr rfl
  constructor
  · intro fits
    refine ⟨fun opening => fits.opens opening comma, fun separator => ?_⟩
    exact absurd (fits.parts separator comma).2 (by decide)
  · rintro ⟨notOpening, other⟩
    exact fits_of_left notOpening other ','

/-- What may follow a space may follow every character. -/
theorem Fits.of_space (fits : Fits ' ' c) (left : Char) : Fits left c := by
  obtain ⟨notClosing, other⟩ := fits_space_iff.mp fits
  exact fits_of_right notClosing other left

/-- What may stand before a comma may stand before every character. -/
theorem Fits.of_comma (fits : Fits c ',') (right : Char) : Fits c right := by
  obtain ⟨notOpening, other⟩ := fits_comma_iff.mp fits
  exact fits_of_left notOpening other right

/-! ### Characters in a row -/

/-- A text fits its place one character at a time. -/
theorem spans_cons : Spans left (c :: characters) right ↔ Fits left c ∧ Spans c characters right :=
  List.isChain_cons_cons

/-- A text fits its place if its characters fit behind the left one and the last of them fits the
right one. -/
theorem spans_iff : Spans left characters right ↔
    (left :: characters).IsChain Fits ∧ ∀ c ∈ (left :: characters).getLast?, Fits c right := by
  rw [Spans, ← List.cons_append, List.isChain_append]
  simp

/-- Two texts meet at a character that both of them fit. -/
theorem Spans.append (first : Spans left front middle) (second : Spans middle back right) :
    Spans left (front ++ middle :: back) right := by
  rw [Spans, List.append_assoc, List.cons_append, ← List.cons_append, List.isChain_split]
  exact ⟨first, second⟩

/-- A text may stand between two characters by its own and by what its ends are next to. -/
theorem spans_of_isChain (chain : characters.IsChain Fits)
    (begins : ∀ c ∈ characters.head?, Fits left c) (ends : ∀ c ∈ characters.getLast?, Fits c right)
    (empty : characters = [] → Fits left right) : Spans left characters right := by
  cases characters with
  | nil => exact List.isChain_pair.mpr (empty rfl)
  | cons c rest =>
      rw [spans_iff, List.getLast?_cons_cons]
      exact ⟨List.isChain_cons_cons.mpr ⟨begins c rfl, chain⟩, ends⟩

theorem Tidy.isChain (tidy : Tidy text) : text.toList.IsChain Fits := by
  refine (List.isChain_isInfix text.toList).imp ?_
  intro left right beside
  exact ⟨fun opening => tidy.opens right (opening ▸ beside),
    fun closing => tidy.closes left (closing ▸ beside), tidy.parts left right beside⟩

/-- A comma may follow a tidy text that does not end in an opening parenthesis. -/
theorem Tidy.fits_comma (tidy : Tidy text) (closed : text.toList.getLast? ≠ some '(') :
    ∀ c ∈ text.toList.getLast?, Fits c ',' := by
  intro c last
  exact fits_comma_iff.mpr ⟨fun opening => closed (opening ▸ last), tidy.ends c last⟩

/-- A text is tidy if its characters may stand side by side, in the parentheses around it. -/
theorem tidy_iff_spans : Tidy text ↔ Spans '(' text.toList ')' := by
  constructor
  · intro tidy
    apply spans_of_isChain tidy.isChain
    · exact fun c starts => fits_opening_iff.mpr (tidy.begins c starts)
    · exact fun c ends => fits_closing_iff.mpr (tidy.ends c ends)
    · exact fun _ => by decide
  · intro spans
    rw [Spans, List.isChain_cons, List.isChain_append] at spans
    obtain ⟨before, inside, -, behind⟩ := spans
    have beside : ∀ {left right}, [left, right] <:+: text.toList → Fits left right :=
      fun pair => List.isChain_pair.mp <| List.IsChain.infix inside pair
    refine ⟨?_, ?_, ?_, ?_, ?_⟩
    · intro first starts
      apply fits_opening_iff.mp
      apply before
      rw [List.head?_append, Option.mem_def.mp starts, Option.some_or]
      exact rfl
    · intro last ends
      exact fits_closing_iff.mp (behind last ends ')' rfl)
    · exact fun mark pair => (beside pair).opens rfl
    · exact fun mark pair => (beside pair).closes rfl
    · exact fun left right pair => (beside pair).parts

instance (text : String) : Decidable (Tidy text) := decidable_of_iff _ tidy_iff_spans.symm

example : Tidy "f(a, b) c" ∧ ¬ Tidy "f(a, )" ∧ ¬ Tidy "a,, b" := by decide

/-! ### Firm texts -/

/-- A firm text fits between any two characters. -/
theorem Firm.spans (firm : Firm text) (left right : Char) : Spans left text.toList right := by
  have chain : (left :: (text.toList ++ [','])).IsChain Fits :=
    List.IsChain.imp_head (fun fits => fits.of_space left) firm
  obtain ⟨inside, behind⟩ := spans_iff.mp chain
  exact spans_iff.mpr ⟨inside, fun c last => (behind c last).of_comma right⟩

theorem Firm.tidy (firm : Firm text) : Tidy text := tidy_iff_spans.mpr (firm.spans '(' ')')

/-- A character that is neither a parenthesis nor a separator. -/
structure Plain (c : Char) : Prop where
  opening : c ≠ '('
  closing : c ≠ ')'
  separator : ¬ IsSeparator c

/-- A class of characters is plain if parentheses and separators are not in it. -/
theorem plain_of_class {inClass : Char → Bool} (member : inClass c)
    (excluded : ['(', ')', ' ', ','].any inClass = false) : Plain c := by
  have other : ∀ mark ∈ ['(', ')', ' ', ','], c ≠ mark := by
    rintro mark listed rfl
    exact List.any_eq_false.mp excluded c listed member
  simp only [List.forall_mem_cons] at other
  obtain ⟨opening, closing, space, comma, _⟩ := other
  exact ⟨opening, closing, fun separator => separator.elim space comma⟩

theorem Plain.fits_left (plain : Plain c) (left : Char) : Fits left c :=
  fits_of_right plain.closing plain.separator left

theorem Plain.fits_right (plain : Plain c) (right : Char) : Fits c right :=
  fits_of_left plain.opening plain.separator right

/-- Plain characters stand between two characters that fit each other. -/
theorem spans_of_plain (plain : ∀ c ∈ characters, Plain c) (fits : Fits left right) :
    Spans left characters right := by
  induction characters generalizing left with
  | nil => exact List.isChain_pair.mpr fits
  | cons c rest ih =>
      obtain ⟨first, later⟩ := List.forall_mem_cons.mp plain
      exact spans_cons.mpr ⟨first.fits_left left, ih later (first.fits_right right)⟩

theorem firm_of_plain (present : text.toList ≠ []) (plain : ∀ c ∈ text.toList, Plain c) :
    Firm text := by
  obtain ⟨c, rest, written⟩ := List.exists_cons_of_ne_nil present
  rw [written] at plain
  obtain ⟨first, later⟩ := List.forall_mem_cons.mp plain
  rw [Firm, written]
  exact spans_cons.mpr ⟨first.fits_left ' ', spans_of_plain later (first.fits_right ',')⟩

/-- Firm texts side by side are firm. -/
theorem Firm.append {first second : String} (front : Firm first) (back : Firm second) :
    Firm (first ++ second) := by
  rw [Firm, String.toList_append]
  cases written : second.toList with
  | nil =>
      rw [List.append_nil]
      exact front
  | cons c rest =>
      rw [Firm, written, spans_cons] at back
      exact (front.spans ' ' c).append back.2

/-- Firm parts with spaces or commas between them are firm, as long as there is a part. -/
theorem firm_intercalate (known : separator = " " ∨ separator = ", ") (present : parts ≠ [])
    (firm : ∀ part ∈ parts, Firm part) : Firm (separator.intercalate parts) := by
  rw [Firm, String.toList_intercalate]
  induction parts with
  | nil => exact (present rfl).elim
  | cons part rest ih =>
      obtain ⟨first, later⟩ := List.forall_mem_cons.mp firm
      cases rest with
      | nil =>
          rw [List.map_singleton, List.intercalate_singleton]
          exact first
      | cons next others =>
          have joined := ih (List.cons_ne_nil _ _) later
          simp only [List.map_cons, List.intercalate_cons_cons, List.append_assoc] at joined ⊢
          rcases known with rfl | rfl
          · exact (first.spans ' ' ' ').append joined
          · have between : Spans ',' [] ' ' := by decide
            exact (first.spans ' ' ',').append (between.append joined)

theorem firm_spaced (present : parts ≠ []) (firm : ∀ part ∈ parts, Firm part) :
    Firm (spaced parts) := firm_intercalate (Or.inl rfl) present firm

theorem firm_pair {first second : String} (front : Firm first) (back : Firm second) :
    Firm (spaced [first, second]) :=
  firm_spaced (List.cons_ne_nil _ _)
    (List.forall_mem_cons.mpr ⟨front, List.forall_mem_singleton.mpr back⟩)

theorem firm_listed (present : parts ≠ []) (firm : ∀ part ∈ parts, Firm part) :
    Firm (listed parts) := firm_intercalate (Or.inr rfl) present firm

/-- The functional notation of a firm name is firm around every tidy text, even an empty one. -/
theorem firm_functional (named : Firm name) (tidy : Tidy arguments) :
    Firm (functional name arguments) := by
  rw [Firm, toList_functional]
  exact (named.spans ' ' '(').append ((tidy_iff_spans.mp tidy).append (by decide))

theorem firm_call (named : Firm name) (firm : Firm arguments) : Firm (functional name arguments) :=
  firm_functional named firm.tidy

end CssValue.Text
