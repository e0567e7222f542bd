import CssValue.Proofs.Paint.BackgroundWords

/-!
# Backgrounds told by their text

The parts of a background are written one after another, and what is absent leaves no mark.  All the
same their words tell them apart: a slash and the keywords behind it divide the words, an image is
known by its name, and color and position are known by the number of their words.  Only the boxes of
origin and clip are written alike, so that a single box may belong to either of the two.
-/

namespace CssValue.BackgroundShorthand

open Text (calledName)

/-! ### Equal words -/

variable {shorthand first second : BackgroundShorthand}

/-- A position is two words, and so the number of words tells whether there is a color. -/
theorem length_positionWords (shorthand : BackgroundShorthand) :
    shorthand.positionWords.length = 0 ∨ shorthand.positionWords.length = 2 := by
  unfold positionWords
  cases shorthand.writtenPosition with
  | none => exact Or.inl rfl
  | some position => cases position <;> exact Or.inr rfl

theorem length_part_le {α : Type} [Render α] (value : Option α) :
    (Text.part value).length ≤ 1 := by
  cases value with
  | none => exact Nat.zero_le 1
  | some value => exact Nat.le_refl 1

/-- An image is found by its name among the words in front of the size. -/
theorem filter_firstWords (tame : shorthand.Tame) :
    shorthand.firstWords.filter (calledName · ∈ imageNames) = Text.part shorthand.image ∧
      shorthand.firstWords.filter (calledName · ∉ imageNames) =
        Text.part shorthand.color ++ shorthand.positionWords := by
  have color : ∀ word ∈ Text.part shorthand.color, calledName word ∉ imageNames :=
    fun word member => (ordinary_of_mem_color tame.color word member).noImage
  have image : ∀ word ∈ Text.part shorthand.image, calledName word ∈ imageNames :=
    forall_mem_image tame fun _ => Image.calledName_mem
  have position : ∀ word ∈ shorthand.positionWords, calledName word ∉ imageNames :=
    fun word member => (ordinary_of_mem_positionWords tame.position word member).noImage
  constructor
  · rw [firstWords, List.filter_append, List.filter_append,
      List.filter_eq_nil_iff.mpr (by simpa using color),
      List.filter_eq_self.mpr (by simpa using image),
      List.filter_eq_nil_iff.mpr (by simpa using position), List.append_nil, List.nil_append]
  · rw [firstWords, List.filter_append, List.filter_append,
      List.filter_eq_self.mpr (by simpa using color),
      List.filter_eq_nil_iff.mpr (by simpa using image),
      List.filter_eq_self.mpr (by simpa using position), List.nil_append]

/-- The same first words are those of the same color, image and position. -/
theorem firstWords_inj (firstTame : first.Tame) (secondTame : second.Tame)
    (same : first.firstWords = second.firstWords) :
    Text.part first.color = Text.part second.color ∧
      Text.part first.image = Text.part second.image ∧
        first.positionWords = second.positionWords := by
  obtain ⟨image, others⟩ := filter_firstWords firstTame
  obtain ⟨otherImage, otherOthers⟩ := filter_firstWords secondTame
  have rest : Text.part first.color ++ first.positionWords =
      Text.part second.color ++ second.positionWords := by rw [← others, ← otherOthers, same]
  have colors : (Text.part first.color).length = (Text.part second.color).length := by
    have total := congrArg List.length rest
    have atMost := length_part_le first.color
    have otherAtMost := length_part_le second.color
    have even := length_positionWords first
    have otherEven := length_positionWords second
    rw [List.length_append, List.length_append] at total
    omega
  obtain ⟨color, position⟩ := List.append_inj rest colors
  exact ⟨color, by rw [← image, ← otherImage, same], position⟩

/-- The same last words are those of the same repetition and attachment and of the same boxes. -/
theorem lastWords_inj (same : first.lastWords = second.lastWords) :
    Text.part first.tiling = Text.part second.tiling ∧
      Text.part first.attachment = Text.part second.attachment ∧
        Text.part first.origin ++ Text.part first.clip =
          Text.part second.origin ++ Text.part second.clip := by
  have boxes : ∀ shorthand : BackgroundShorthand,
      ∀ word ∈ (Text.part shorthand.origin ++ Text.part shorthand.clip).head?,
        word ∉ attachmentWords := by
    have apart : ∀ word ∈ boxWords, word ∉ attachmentWords := by decide
    exact fun shorthand word starts => apart word (mem_boxWords word (List.mem_of_mem_head? starts))
  have behind : ∀ shorthand : BackgroundShorthand,
      ∀ word ∈ (Text.part shorthand.attachment ++
        (Text.part shorthand.origin ++ Text.part shorthand.clip)).head?, word ∉ tilingWords := by
    have apart : ∀ word ∈ attachmentWords ++ boxWords, word ∉ tilingWords := by decide
    intro shorthand word starts
    apply apart
    rcases List.mem_append.mp (List.mem_of_mem_head? starts) with attachment | box
    · exact List.mem_append_left _ (Keyword.mem_table_of_mem_part word attachment)
    · exact List.mem_append_right _ (mem_boxWords word box)
  obtain ⟨tiling, rest⟩ := Text.append_inj_of_forall Keyword.mem_table_of_mem_part
    Keyword.mem_table_of_mem_part (behind first) (behind second) same
  obtain ⟨attachment, boxes⟩ := Text.append_inj_of_forall Keyword.mem_table_of_mem_part
    Keyword.mem_table_of_mem_part (boxes first) (boxes second) rest
  exact ⟨tiling, attachment, boxes⟩

/-- A slash or a keyword is the first word that is not in front of the size. -/
theorem mem_marks_of_mem_head? : ∀ word ∈ (shorthand.sizeWords ++ shorthand.lastWords).head?,
    word ∈ marks := by
  intro word starts
  unfold sizeWords at starts
  cases written : shorthand.size with
  | none =>
      rw [written] at starts
      exact List.mem_cons_of_mem _ (mem_lastWords word (List.mem_of_mem_head? starts))
  | some size =>
      rw [written] at starts
      obtain rfl := Option.some.inj starts
      exact List.mem_cons_self

/-- No word in front of the size marks a place. -/
theorem not_mem_marks_of_mem_firstWords (tame : shorthand.Tame) :
    ∀ word ∈ shorthand.firstWords, word ∉ marks := by
  refine List.forall_mem_append.mpr ⟨?_, List.forall_mem_append.mpr ⟨?_, ?_⟩⟩
  · exact fun word member => (ordinary_of_mem_color tame.color word member).unmarked
  · exact forall_mem_image tame fun _ => Image.not_mem_marks
  · exact fun word member => (ordinary_of_mem_positionWords tame.position word member).unmarked

/-- No word of a size stands for a part behind it. -/
theorem not_mem_finalWords_of_mem_sizeWords (tame : shorthand.Tame) :
    ∀ word ∈ shorthand.sizeWords, word ∉ finalWords := by
  intro word member
  rcases mem_sizeWords tame.size word member with rfl | ordinary
  · decide
  · exact fun final => ordinary.unmarked (List.mem_cons_of_mem _ final)

/-- A slash and the keywords behind it divide the words. -/
theorem words_inj (firstTame : first.Tame) (secondTame : second.Tame)
    (same : first.words = second.words) : first.firstWords = second.firstWords ∧
      first.sizeWords = second.sizeWords ∧ first.lastWords = second.lastWords := by
  obtain ⟨front, rest⟩ := Text.append_inj_of_forall
    (not_mem_marks_of_mem_firstWords firstTame) (not_mem_marks_of_mem_firstWords secondTame)
    (fun word starts => not_not_intro (mem_marks_of_mem_head? word starts))
    (fun word starts => not_not_intro (mem_marks_of_mem_head? word starts)) same
  obtain ⟨size, last⟩ := Text.append_inj_of_forall
    (not_mem_finalWords_of_mem_sizeWords firstTame) (not_mem_finalWords_of_mem_sizeWords secondTame)
    (fun word starts => not_not_intro (mem_lastWords word (List.mem_of_mem_head? starts)))
    (fun word starts => not_not_intro (mem_lastWords word (List.mem_of_mem_head? starts))) rest
  exact ⟨front, size, last⟩

/-! ### Backgrounds that agree -/

/-- The first background has an origin and no clip and the second one a clip and no origin, and the
two boxes are written alike. -/
def SwapsBox (first second : BackgroundShorthand) : Prop :=
  first.clip = none ∧ second.origin = none ∧ first.origin ≠ none ∧
    first.origin.map render = second.clip.map render

/-- The backgrounds are the same, as far as their parts are written.  A position that is absent next
to a size counts as the initial one, and a single box may be either of origin and clip. -/
structure Agrees (first second : BackgroundShorthand) : Prop where
  color : first.color.map render = second.color.map render
  image : first.image.map render = second.image.map render
  position : first.writtenPosition.map render = second.writtenPosition.map render
  size : first.size.map render = second.size.map render
  tiling : first.tiling = second.tiling
  attachment : first.attachment = second.attachment
  boxes : first.origin = second.origin ∧ first.clip = second.clip ∨
    SwapsBox first second ∨ SwapsBox second first

/-- The texts of two boxes tell which they are, but not whether a single one is the origin or the
clip. -/
theorem boxes_iff :
    Text.part first.origin ++ Text.part first.clip =
        Text.part second.origin ++ Text.part second.clip ↔
      (first.origin = second.origin ∧ first.clip = second.clip) ∨
        SwapsBox first second ∨ SwapsBox second first := by
  have origins : ∀ {box other : BackgroundOrigin}, render box = render other ↔ box = other :=
    Keyword.render_inj
  have clips : ∀ {box other : BackgroundClip}, render box = render other ↔ box = other :=
    Keyword.render_inj
  unfold SwapsBox
  cases first.origin <;> cases first.clip <;> cases second.origin <;> cases second.clip <;>
    simp [Text.part, origins, clips]
  exact eq_comm

theorem part_keyword_inj {α : Type} [Keyword α] [LawfulKeyword α] {value other : Option α} :
    Text.part value = Text.part other ↔ value = other := by
  have alike : Function.Injective (Option.map (render : α → String)) :=
    Option.map_injective fun _ _ => Keyword.render_inj.mp
  rw [Text.part_inj, alike.eq_iff]

/-- Tame backgrounds with the same words agree. -/
theorem agrees_of_words_eq (firstTame : first.Tame) (secondTame : second.Tame)
    (same : first.words = second.words) : Agrees first second := by
  obtain ⟨front, size, last⟩ := words_inj firstTame secondTame same
  obtain ⟨color, image, position⟩ := firstWords_inj firstTame secondTame front
  obtain ⟨tiling, attachment, boxes⟩ := lastWords_inj last
  refine ⟨Text.part_inj.mp color, Text.part_inj.mp image, ?_, ?_, part_keyword_inj.mp tiling,
    part_keyword_inj.mp attachment, boxes_iff.mp boxes⟩
  · refine Text.map_render_eq_of_words_eq Text.spaced (fun position => ?_) (fun _ => rfl) position
    cases position <;> exact List.cons_ne_nil _ _
  · refine Text.map_render_eq_of_words_eq (fun words => Text.spaced words.tail)
      (fun _ => List.cons_ne_nil _ _) (fun size => ?_) size
    exact size.render_eq_spaced.symm

/-- Backgrounds that agree are written alike. -/
theorem Agrees.render_eq (agrees : Agrees first second) : render first = render second := by
  have boxes := boxes_iff.mpr agrees.boxes
  have parts : first.parts = second.parts := by
    simp only [parts, List.append_assoc, Text.part_inj.mpr agrees.color,
      Text.part_inj.mpr agrees.image, Text.part_inj.mpr agrees.position,
      Text.part_inj.mpr agrees.size, agrees.tiling, agrees.attachment, boxes]
  change Text.orNone Text.spaced first.parts = Text.orNone Text.spaced second.parts
  rw [parts]

/-- **The text of a background tells its parts.** Of backgrounds that set some part, whose texts
from outside are balanced and whose image is not `none`, just those are written alike that agree:
they set the same parts, and these are written alike, but that a single box may be the origin of
the one and the clip of the other. -/
theorem text_tells_parts (firstTame : first.Tame) (secondTame : second.Tame)
    (firstSet : first ≠ empty) (secondSet : second ≠ empty) :
    render first = render second ↔ Agrees first second := by
  constructor
  · intro same
    rw [render_eq_spaced_words firstSet, render_eq_spaced_words secondSet] at same
    apply agrees_of_words_eq firstTame secondTame
    exact Text.eq_of_spaced_eq (isWord_of_mem_words firstTame) (isWord_of_mem_words secondTame)
      (words_ne_nil firstSet) (words_ne_nil secondSet) same
  · exact Agrees.render_eq

/-- Number signs and an initial position are not seen in the text, and a parenthesis in an address
does not matter. -/
theorem text_tells_parts_initial_position :
    let first : BackgroundShorthand := { empty with
      color := some (.hex "#fff"), image := some (.url "a (b"), size := some (.fit .cover) }
    let second : BackgroundShorthand := { first with
      color := some (.hex "fff"), position := some .initial }
    (first.Tame ∧ second.Tame ∧ first ≠ empty ∧ second ≠ empty) ∧
      render first = "#fff url('a (b') 0.0% 0.0% / cover" ∧ render first = render second ∧
        Agrees first second := by
  intro first second
  have firstTame : first.Tame := by
    refine ⟨?_, ?_, ?_, ?_⟩
    all_goals rintro _ ⟨⟩
    · exact (by decide : (Color.hex "#fff").Tame ' ')
    · exact (by decide : '\'' ∉ "a (b".toList)
    · exact trivial
  have secondTame : second.Tame := by
    refine ⟨?_, ?_, ?_, ?_⟩
    all_goals rintro _ ⟨⟩
    · exact (by decide : (Color.hex "fff").Tame ' ')
    · exact (by decide : '\'' ∉ "a (b".toList)
    · exact ⟨trivial, trivial⟩
    · exact trivial
  have firstSet : first ≠ empty := by simp [first, empty]
  have secondSet : second ≠ empty := by simp [second, empty]
  have same : render first = render second := rfl
  exact ⟨⟨firstTame, secondTame, firstSet, secondSet⟩, rfl, same,
    (text_tells_parts firstTame secondTame firstSet secondSet).mp same⟩

/-- A background with only an origin is written as one with only a clip. -/
theorem lone_box_is_ambiguous :
    let first : BackgroundShorthand := { empty with origin := some .borderBox }
    let second : BackgroundShorthand := { empty with clip := some .borderBox }
    (first.Tame ∧ second.Tame ∧ first ≠ empty ∧ second ≠ empty) ∧
      render first = "border-box" ∧ render second = "border-box" ∧
        first.origin.map render ≠ second.origin.map render ∧
          first.clip.map render ≠ second.clip.map render := by
  intro first second
  have firstTame : first.Tame := by constructor <;> rintro _ ⟨⟩
  have secondTame : second.Tame := by constructor <;> rintro _ ⟨⟩
  have firstSet : first ≠ empty := by simp [first, empty]
  have secondSet : second ≠ empty := by simp [second, empty]
  exact ⟨⟨firstTame, secondTame, firstSet, secondSet⟩, rfl, rfl, by simp [first, second, empty],
    by simp [first, second, empty]⟩

end CssValue.BackgroundShorthand
