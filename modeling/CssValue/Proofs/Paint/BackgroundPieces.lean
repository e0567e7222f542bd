import CssValue.Proofs.Paint.BackgroundWords
import Mathlib.Data.List.Basic

/-!
# Backgrounds split into their pieces

The spaces outside of parentheses divide the text of a background into the words of the parts that
are set.  A slash is among them only in front of a size, where the two words of a position stand
before it: a position that is absent there is written as the initial one.

All this is about texts from outside whose parentheses are balanced.  A parenthesis that the text of
a color leaves open hides the spaces behind it.
-/

namespace CssValue

open Text (Sealed splitOutside)

namespace Image

/-- The parentheses in the texts from outside are balanced, and the colors have no space outside of
them. -/
def Closed : Image → Prop
  | url address => Text.Balanced address.toList
  | none => True
  | gradient blend => (gradient blend).Tame

/-- The parentheses of a closed image keep its spaces inside. -/
theorem sealed_render {image : Image} (closed : image.Closed) :
    Sealed ' ' (render image).toList := by
  cases image with
  | url address =>
      have quote : Text.Balanced "'".toList := rfl
      refine Text.sealed_functional (by decide) ?_ (by decide)
      rw [String.toList_append, String.toList_append]
      exact (quote.append closed).append quote
  | none => exact Text.sealed_word (Or.inl rfl) rfl
  | gradient blend => exact sealed_gradient closed

theorem slash_ne_render (image : Image) : "/" ≠ render image := by
  have other : ∀ name arguments, "/" ≠ Text.functional name arguments := by
    intro name arguments same
    have opened := Text.parenthesis_mem_functional name arguments
    rw [← same] at opened
    exact absurd opened (by decide)
  cases image with
  | url address => exact other "url" _
  | none => decide
  | gradient blend => exact other blend.functionName _

end Image

namespace BackgroundShorthand

/-- The parentheses in the texts from outside are balanced, and the colors have no space outside of
them. -/
structure Closed (shorthand : BackgroundShorthand) : Prop where
  color : ∀ color ∈ shorthand.color, color.Tame ' '
  image : ∀ image ∈ shorthand.image, image.Closed
  position : ∀ position ∈ shorthand.position, position.Tame
  size : ∀ size ∈ shorthand.size, size.Tame

variable {shorthand : BackgroundShorthand}

/-! ### Pieces -/

/-- The words of a closed background keep their spaces in parentheses. -/
theorem sealed_of_mem_words (closed : shorthand.Closed) :
    ∀ word ∈ shorthand.words, Sealed ' ' word.toList := by
  simp only [words, firstWords, List.forall_mem_append]
  refine ⟨⟨?_, ?_, ?_⟩, ?_, ?_⟩
  · exact fun word member => (ordinary_of_mem_color closed.color word member).seals
  · exact Text.sealed_of_mem_part fun image present =>
      image.sealed_render (closed.image image present)
  · exact fun word member => (ordinary_of_mem_positionWords closed.position word member).seals
  · intro word member
    rcases mem_sizeWords closed.size word member with rfl | ordinary
    · exact sealed_mark "/" List.mem_cons_self
    · exact ordinary.seals
  · exact fun word member => sealed_mark word (List.mem_cons_of_mem _ (mem_lastWords word member))

/-- A closed background is split into its words at the spaces outside of parentheses. -/
theorem splitOutside_render (closed : shorthand.Closed) (set : shorthand ≠ empty) :
    splitOutside " " (render shorthand) = shorthand.words := by
  rw [render_eq_spaced_words set]
  exact Text.splitOutside_spaced (words_ne_nil set) (sealed_of_mem_words closed)

theorem splitOutside_render_empty : splitOutside " " (render empty) = ["none"] := by
  decide

/-! ### The slash -/

/-- No word in front of the size is a slash. -/
theorem slash_not_mem_firstWords (closed : shorthand.Closed) : "/" ∉ shorthand.firstWords := by
  have slash : "/" ∈ marks := List.mem_cons_self
  simp only [firstWords, List.mem_append, not_or]
  refine ⟨?_, ?_, ?_⟩
  · exact fun member => (ordinary_of_mem_color closed.color _ member).unmarked slash
  · intro member
    obtain ⟨image, _, written⟩ := List.mem_map.mp member
    exact image.slash_ne_render written.symm
  · exact fun member => (ordinary_of_mem_positionWords closed.position _ member).unmarked slash

theorem slash_not_mem_lastWords (shorthand : BackgroundShorthand) :
    "/" ∉ shorthand.lastWords := by
  have other : "/" ∉ finalWords := by decide
  exact fun member => other (mem_lastWords _ member)

/-- A background without a size has no slash among its words. -/
theorem slash_not_mem_words_of_size_eq_none (closed : shorthand.Closed)
    (absent : shorthand.size = none) : "/" ∉ shorthand.words := by
  have nothing : shorthand.sizeWords = [] := by rw [sizeWords, absent]; rfl
  rw [words, nothing, List.nil_append, List.mem_append, not_or]
  exact ⟨slash_not_mem_firstWords closed, slash_not_mem_lastWords shorthand⟩

/-- In front of a size there stand a slash and, in front of that, a position. -/
theorem words_of_size (size : BackgroundSize) (present : shorthand.size = some size) :
    shorthand.words = shorthand.firstWords ++ "/" :: (size.words ++ shorthand.lastWords) := by
  have slash : shorthand.sizeWords = "/" :: size.words := by rw [sizeWords, present]; simp
  rw [words, slash, List.cons_append]

/-- Next to a size a position is written in any case, if only the initial one. -/
theorem writtenPosition_of_size (present : shorthand.size ≠ none) :
    shorthand.writtenPosition = some (shorthand.position.getD .initial) := by
  obtain ⟨size, written⟩ := Option.ne_none_iff_exists'.mp present
  rw [writtenPosition, written]
  cases shorthand.position <;> rfl

/-- A slash is a word just once, and so the words in front of it are those of the first parts. -/
theorem eq_firstWords_of_slash (closed : shorthand.Closed) {front back : List String}
    (split : shorthand.words = front ++ "/" :: back) :
    shorthand.size ≠ none ∧ front = shorthand.firstWords := by
  have member : "/" ∈ shorthand.words := by
    rw [split]
    exact List.mem_append_right _ List.mem_cons_self
  have present : shorthand.size ≠ none := fun absent =>
    slash_not_mem_words_of_size_eq_none closed absent member
  obtain ⟨size, written⟩ := Option.ne_none_iff_exists'.mp present
  have sizeOrdinary : ∀ word ∈ size.words, Ordinary word := size.ordinary (closed.size size written)
  have behind : "/" ∉ size.words ++ shorthand.lastWords := by
    rw [List.mem_append, not_or]
    exact ⟨fun listed => (sizeOrdinary _ listed).unmarked List.mem_cons_self,
      slash_not_mem_lastWords shorthand⟩
  rw [words_of_size size written] at split
  exact ⟨present, ((List.append_cons_inj_of_notMem
    (slash_not_mem_firstWords closed) behind).mp split).1.symm⟩

/-- The two words before a slash are those of the position. -/
theorem exists_position_before_slash (closed : shorthand.Closed) {front back : List String}
    (split : shorthand.words = front ++ "/" :: back) :
    ∃ before x y, front = before ++ [x, y] ∧
      (shorthand.position.getD .initial).parts = [x, y] := by
  obtain ⟨present, whole⟩ := eq_firstWords_of_slash closed split
  have pair : ∃ x y, (shorthand.position.getD .initial).parts = [x, y] := by
    cases shorthand.position.getD .initial <;> exact ⟨_, _, rfl⟩
  obtain ⟨x, y, parts⟩ := pair
  refine ⟨Text.part shorthand.color ++ Text.part shorthand.image, x, y, ?_, parts⟩
  rw [whole, firstWords, positionWords, writtenPosition_of_size present, Option.toList_some,
    List.flatMap_singleton, parts, List.append_assoc]

/-- The position that a size needs may as well be given. -/
theorem render_with_position (present : shorthand.size ≠ none) :
    render shorthand =
      render { shorthand with position := some (shorthand.position.getD .initial) } := by
  have written := writtenPosition_of_size present
  change Text.orNone Text.spaced shorthand.parts = Text.orNone Text.spaced _
  rw [parts, written]
  rfl

/-- The pieces of a background: the words of just those parts that are set, in their order, with a
slash in front of a size only, and right before it the two words of the position, which is the
initial one if there is none. -/
structure SplitsIntoParts (shorthand : BackgroundShorthand) (pieces : List String) : Prop where
  parts : shorthand ≠ empty → pieces =
    Text.part shorthand.color ++ Text.part shorthand.image ++ shorthand.positionWords ++
      shorthand.sizeWords ++ Text.part shorthand.tiling ++ Text.part shorthand.attachment ++
      Text.part shorthand.origin ++ Text.part shorthand.clip
  slash : "/" ∈ pieces ↔ shorthand.size ≠ none
  before : ∀ front back, pieces = front ++ "/" :: back → ∃ first x y, front = first ++ [x, y] ∧
    (shorthand.position.getD .initial).parts = [x, y]

/-- **A background is split into its pieces.** Where the parentheses of the texts from outside are
balanced, the spaces outside of them divide the text into the pieces of the parts that are set.  The
position that stands in front of a size without one is the initial one, and giving it changes
nothing.  With no part set the text is `none`. -/
theorem splits_into_pieces (closed : shorthand.Closed) :
    SplitsIntoParts shorthand (splitOutside " " (render shorthand)) ∧
      Position.initial.parts = ["0.0%", "0.0%"] ∧
      (shorthand.size ≠ none → shorthand.position = none →
        render shorthand = render { shorthand with position := some .initial }) ∧
      (shorthand = empty → render shorthand = "none") := by
  have filled : shorthand.size ≠ none → shorthand.position = none →
      render shorthand = render { shorthand with position := some .initial } := by
    intro present absent
    have given := render_with_position present
    rwa [absent, Option.getD_none] at given
  refine ⟨?_, rfl, filled, fun same => by rw [same]; rfl⟩
  by_cases set : shorthand = empty
  · rw [set, splitOutside_render_empty]
    refine ⟨fun other => (other rfl).elim, iff_of_false (by decide) fun present => present rfl, ?_⟩
    intro front back split
    have slash : "/" ∈ ["none"] := by
      rw [split]
      exact List.mem_append_right _ List.mem_cons_self
    exact absurd slash (by decide)
  · rw [splitOutside_render closed set]
    refine ⟨fun _ => ?_, ⟨?_, ?_⟩, fun _ _ => exists_position_before_slash closed⟩
    · simp only [words, firstWords, lastWords, List.append_assoc]
    · exact fun member absent => slash_not_mem_words_of_size_eq_none closed absent member
    · intro present
      obtain ⟨size, written⟩ := Option.ne_none_iff_exists'.mp present
      rw [words_of_size size written]
      exact List.mem_append_right _ List.mem_cons_self

/-- The slashes of an address and of a calculation are no pieces. -/
theorem splits_into_pieces_slashes :
    let shorthand : BackgroundShorthand := { empty with
      color := some (.hex "#fff"), image := some (.url "a/b"),
      size := some (.explicit (.calculation "(1px + 2%) / 3") .auto), clip := some .text }
    shorthand.Closed ∧ splitOutside " " (render shorthand) =
      ["#fff", "url('a/b')", "0.0%", "0.0%", "/", "calc((1px + 2%) / 3)", "auto", "text"] := by
  intro shorthand
  have closed : shorthand.Closed := by
    refine ⟨?_, ?_, fun _ absent => (Option.some_ne_none _ absent.symm).elim, ?_⟩
    · exact fun _ present => Option.some.inj present ▸ (by decide : (Color.hex "#fff").Tame ' ')
    · exact fun _ present => Option.some.inj present ▸ (by decide : Text.Balanced "a/b".toList)
    · have tame : (Length.calculation "(1px + 2%) / 3").Tame := by decide
      exact fun _ present => Option.some.inj present ▸ ⟨tame, trivial⟩
  have set : shorthand ≠ empty := by simp [shorthand, empty]
  exact ⟨closed, (splits_into_pieces closed).1.parts set⟩

/-- A parenthesis that a color opens hides the slash and all other pieces, and one that the color of
a gradient closes cuts the gradient into pieces. -/
theorem stray_parenthesis_misplaces_pieces :
    let first : BackgroundShorthand := { empty with
      color := some (.hex "("), size := some (.fit .cover) }
    let second : BackgroundShorthand := { empty with
      image := some (.gradient (.linear (.degrees 0) [⟨.hex ")", []⟩, ⟨.transparent, []⟩])) }
    ("(" ≠ "" ∧ ' ' ∉ "(".toList ∧ ")" ≠ "" ∧ ' ' ∉ ")".toList) ∧
      splitOutside " " (render first) = ["#( 0.0% 0.0% / cover"] ∧
      ¬ SplitsIntoParts first (splitOutside " " (render first)) ∧
      splitOutside " " (render second) = ["linear-gradient(0.0deg, #),", "transparent)"] ∧
      ¬ SplitsIntoParts second (splitOutside " " (render second)) := by
  intro first second
  have hidden : splitOutside " " (render first) = ["#( 0.0% 0.0% / cover"] := by decide
  have divided : splitOutside " " (render second) =
      ["linear-gradient(0.0deg, #),", "transparent)"] := by decide
  refine ⟨by decide, hidden, fun splits => ?_, divided, fun splits => ?_⟩
  · have slash := splits.slash.mpr (by simp [first])
    rw [hidden] at slash
    exact absurd slash (by decide)
  · have parts := splits.parts (by simp [second, empty])
    rw [divided] at parts
    exact absurd parts (by decide)

end BackgroundShorthand
end CssValue
