import CssValue.Paint.Background
import CssValue.Proofs.Composite.ListValue
import CssValue.Proofs.Text.KeywordTable
import CssValue.Proofs.Text.Words

/-!
# The words of a background

A background is written as the words of its parts.  A slash in front of the size and the keywords
behind it mark a place, and an image is known by the name in front of its parentheses.  All other
words, which are those of colors, positions and sizes, are ordinary.
-/

namespace CssValue

open Text (Sealed IsWord calledName)

/-! ### Words that mark a place -/

namespace BackgroundShorthand

def tilingWords : List String := (Keyword.all : List BackgroundRepeat).map render

def attachmentWords : List String := (Keyword.all : List BackgroundAttachment).map render

/-- The boxes of an origin are among those of a clip. -/
def boxWords : List String := (Keyword.all : List BackgroundClip).map render

/-- The words behind position and size. -/
def finalWords : List String := tilingWords ++ (attachmentWords ++ boxWords)

/-- The words that may come next behind a position: a size begins with a slash. -/
def marks : List String := "/" :: finalWords

/-- The names in front of the parentheses of an image. -/
def imageNames : List String := ["url", "linear-gradient", "radial-gradient", "conic-gradient"]

/-- No mark begins as a number does. -/
theorem startsNumeral_mark : ∀ mark ∈ marks, startsNumeral mark.toList = false := by decide

theorem parenthesis_not_mem_mark : ∀ mark ∈ marks, '(' ∉ mark.toList := by decide

theorem head?_mark_ne_numberSign : ∀ mark ∈ marks, mark.toList.head? ≠ some '#' := by decide

theorem sealed_mark : ∀ mark ∈ marks, Sealed ' ' mark.toList := by decide

theorem calledName_mark_ne_url : ∀ mark ∈ marks, calledName mark ≠ "url" := by decide

/-- No name of an image begins as a number does. -/
theorem startsNumeral_imageName : ∀ name ∈ imageNames, startsNumeral name.toList = false := by
  decide

theorem parenthesis_not_mem_imageName : ∀ name ∈ imageNames, '(' ∉ name.toList := by decide

theorem head?_imageName_ne_numberSign : ∀ name ∈ imageNames, name.toList.head? ≠ some '#' := by
  decide

theorem isWord_of_mem_marks {mark : String} (listed : mark ∈ marks) : IsWord mark :=
  .closed (sealed_mark mark listed) (calledName_mark_ne_url mark listed)

end BackgroundShorthand

open BackgroundShorthand

/-! ### Ordinary words -/

/-- The text is a word that neither marks a place nor is an image. -/
structure Ordinary (text : String) : Prop where
  seals : Sealed ' ' text.toList
  unmarked : text ∉ marks
  noImage : calledName text ∉ imageNames

instance (text : String) : Decidable (Ordinary text) :=
  decidable_of_iff (Sealed ' ' text.toList ∧ text ∉ marks ∧ calledName text ∉ imageNames)
    ⟨fun ⟨seals, unmarked, noImage⟩ => ⟨seals, unmarked, noImage⟩,
      fun ⟨seals, unmarked, noImage⟩ => ⟨seals, unmarked, noImage⟩⟩

variable {text : String}

/-- Ordinary words are words. -/
theorem Ordinary.isWord (ordinary : Ordinary text) : IsWord text :=
  .closed ordinary.seals fun url => ordinary.noImage (url ▸ List.mem_cons_self)

/-- A text with a parenthesis is no mark. -/
theorem not_mem_marks_of_parenthesis (opened : '(' ∈ text.toList) : text ∉ marks :=
  fun member => parenthesis_not_mem_mark text member opened

/-- A number with a suffix is ordinary, since neither marks nor images begin as numbers do. -/
theorem Measure.Shows.ordinary {value : Binary64} {suffix : String}
    (shows : Measure.Shows text value suffix) : Ordinary text where
  seals := shows.sealed (Or.inl rfl)
  unmarked member := by
    have starts := startsNumeral_mark text member
    rw [shows.startsNumeral] at starts
    cases starts
  noImage member := by
    rw [Text.calledName_of_not_mem shows.parenthesis_not_mem] at member
    have starts := startsNumeral_imageName text member
    rw [shows.startsNumeral] at starts
    cases starts

theorem Length.words_ordinary : ∀ word ∈ words, Ordinary (render word) := by decide +kernel

theorem Color.words_ordinary : ∀ word ∈ words, Ordinary (render word) := by decide +kernel

/-- A tame length is an ordinary word. -/
theorem Length.ordinary {length : Length} (tame : length.Tame) : Ordinary (render length) := by
  have seals := length.sealed_render (Or.inl rfl : Text.IsSeparator ' ') tame
  cases length.form with
  | measure value suffix shows read => exact shows.ordinary
  | word listed => exact words_ordinary length listed
  | calculation expression calculated =>
      subst calculated
      refine ⟨seals, not_mem_marks_of_parenthesis (parenthesis_mem_calculation expression), ?_⟩
      change calledName (Text.functional "calc" expression) ∉ imageNames
      rw [Text.calledName_functional (by decide)]
      decide

/-- A tame color is an ordinary word. -/
theorem Color.ordinary {color : Color} (tame : color.Tame ' ') : Ordinary (render color) := by
  have seals := color.sealed_render (Or.inl rfl) tame
  cases color.form with
  | word listed => exact words_ordinary color listed
  | hex text digits =>
      subst digits
      have starts := head?_render_hex text
      refine ⟨seals, fun member => head?_mark_ne_numberSign _ member starts, fun member => ?_⟩
      exact head?_imageName_ne_numberSign _ member (Text.head?_calledName starts (by decide))
  | call call called =>
      have written := render_eq_text called
      have plain := (readable_call called).not_mem_name (rfl : isNameCharacter '(' = false)
      refine ⟨seals, not_mem_marks_of_parenthesis ?_, ?_⟩
      · rw [written]
        exact Text.parenthesis_mem_functional _ _
      · rw [written, Call.text, Text.calledName_functional plain]
        cases color <;> cases called <;> simp only <;> decide

/-- The words of a tame position are ordinary. -/
theorem Position.ordinary {position : Position} (tame : position.Tame) :
    ∀ word ∈ position.parts, Ordinary word := by
  have horizontal : ∀ keyword : HorizontalKeyword, Ordinary (render keyword) := by
    intro keyword
    cases keyword <;> decide
  have vertical : ∀ keyword : VerticalKeyword, Ordinary (render keyword) := by
    intro keyword
    cases keyword <;> decide
  have pair : ∀ {first second : String}, Ordinary first → Ordinary second →
      ∀ word ∈ [first, second], Ordinary word := fun first second =>
    List.forall_mem_cons.mpr ⟨first, List.forall_mem_singleton.mpr second⟩
  cases position with
  | keywords x y => exact pair (horizontal x) (vertical y)
  | lengths x y => exact pair (x.ordinary tame.1) (y.ordinary tame.2)
  | keywordLength x y => exact pair (horizontal x) (y.ordinary tame)
  | lengthKeyword x y => exact pair (x.ordinary tame) (vertical y)

namespace BackgroundSize

/-- The words of a size, behind its slash. -/
def words : BackgroundSize → List String
  | .fit kind => [render kind]
  | .explicit width height => [render width, render height]

/-- The parentheses of the calculations are balanced. -/
def Tame : BackgroundSize → Prop
  | .fit _ => True
  | .explicit width height => width.Tame ∧ height.Tame

/-- A size is written as its words. -/
theorem render_eq_spaced (size : BackgroundSize) : render size = Text.spaced size.words := by
  cases size <;> rfl

/-- The words of a tame size are ordinary. -/
theorem ordinary {size : BackgroundSize} (tame : size.Tame) :
    ∀ word ∈ size.words, Ordinary word := by
  cases size with
  | fit kind =>
      have word : Ordinary (render kind) := by cases kind <;> decide
      exact List.forall_mem_singleton.mpr word
  | explicit width height =>
      exact List.forall_mem_cons.mpr
        ⟨width.ordinary tame.1, List.forall_mem_singleton.mpr (height.ordinary tame.2)⟩

end BackgroundSize

/-! ### Images -/

namespace Image

/-- The image is an address without a quote, or a gradient whose texts from outside are balanced and
have no space outside of parentheses in a color. -/
def Tame : Image → Prop
  | .url address => '\'' ∉ address.toList
  | .none => False
  | .gradient blend => blend.TameGeometry ∧
      ∀ stop ∈ blend.stops, stop.color.Tame ' ' ∧ ∀ position ∈ stop.positions, position.Tame

/-- An image is a call of one of the names of images. -/
theorem exists_call {image : Image} (tame : image.Tame) :
    ∃ name ∈ imageNames, ∃ arguments, render image = Text.functional name arguments := by
  cases image with
  | url address => exact ⟨"url", by decide, _, rfl⟩
  | none => exact tame.elim
  | gradient gradient =>
      refine ⟨gradient.functionName, ?_, _, rfl⟩
      cases gradient <;> simp only [Gradient.functionName] <;> decide

/-- A tame image calls one of the names of images. -/
theorem calledName_mem {image : Image} (tame : image.Tame) :
    calledName (render image) ∈ imageNames := by
  obtain ⟨name, listed, arguments, written⟩ := exists_call tame
  rwa [written, Text.calledName_functional (parenthesis_not_mem_imageName name listed)]

/-- No tame image marks a place. -/
theorem not_mem_marks {image : Image} (tame : image.Tame) : render image ∉ marks := by
  obtain ⟨name, _, arguments, written⟩ := exists_call tame
  apply not_mem_marks_of_parenthesis
  rw [written]
  exact Text.parenthesis_mem_functional name arguments

/-- The parentheses of a gradient keep the spaces of its geometry and of its colors inside. -/
theorem sealed_gradient {gradient : Gradient} (tame : (Image.gradient gradient).Tame) :
    Sealed ' ' (render gradient).toList := by
  obtain ⟨geometry, stops⟩ := tame
  have space : Text.IsSeparator ' ' := Or.inl rfl
  have named : Sealed ' ' gradient.functionName.toList := by
    cases gradient <;> simp only [Gradient.functionName] <;> decide
  refine Text.sealed_functional named ?_ space.ne_opening
  apply Text.balanced_listed
  intro part member
  rcases List.mem_cons.mp member with rfl | written
  · exact (Gradient.sealed_geometry geometry).balanced
  · obtain ⟨stop, listed, rfl⟩ := List.mem_map.mp written
    obtain ⟨color, positions⟩ := stops stop listed
    apply Text.balanced_spaced
    intro part member
    rcases List.mem_cons.mp member with rfl | written
    · exact (stop.color.sealed_render space color).balanced
    · obtain ⟨position, placed, rfl⟩ := List.mem_map.mp written
      exact (position.sealed_render space (positions position placed)).balanced

/-- A tame image is a word, even with spaces in its address. -/
theorem isWord {image : Image} (tame : image.Tame) : IsWord (render image) := by
  cases image with
  | url address => exact .quoted address tame rfl
  | none => exact tame.elim
  | gradient gradient =>
      have named : '(' ∉ gradient.functionName.toList ∧ gradient.functionName ≠ "url" := by
        cases gradient <;> simp only [Gradient.functionName] <;> decide
      refine .closed (sealed_gradient tame) ?_
      change calledName (Text.functional gradient.functionName _) ≠ "url"
      rw [Text.calledName_functional named.1]
      exact named.2

end Image

/-! ### Words of a shorthand -/

namespace BackgroundShorthand

/-- The texts from outside in the parts are balanced and have no space outside of parentheses, that
of an address has no quote, and the image is not `none`. -/
structure Tame (shorthand : BackgroundShorthand) : Prop where
  color : ∀ color ∈ shorthand.color, color.Tame ' '
  image : ∀ image ∈ shorthand.image, image.Tame
  position : ∀ position ∈ shorthand.position, position.Tame
  size : ∀ size ∈ shorthand.size, size.Tame

variable (shorthand : BackgroundShorthand)

def positionWords : List String := shorthand.writtenPosition.toList.flatMap Position.parts

def sizeWords : List String := shorthand.size.toList.flatMap fun size => "/" :: size.words

open Text in
/-- The words in front of the size. -/
def firstWords : List String :=
  part shorthand.color ++ (part shorthand.image ++ shorthand.positionWords)

open Text in
/-- The words behind the size. -/
def lastWords : List String :=
  part shorthand.tiling ++ (part shorthand.attachment ++
    (part shorthand.origin ++ part shorthand.clip))

/-- The words of all parts in their order. -/
def words : List String := shorthand.firstWords ++ (shorthand.sizeWords ++ shorthand.lastWords)

open Text in
/-- The words of each part that is set. -/
def groups : List (List String) :=
  (part shorthand.color).map ([·]) ++ (part shorthand.image).map ([·]) ++
    shorthand.writtenPosition.toList.map Position.parts ++
    shorthand.size.toList.map (fun size => "/" :: size.words) ++
    (part shorthand.tiling).map ([·]) ++ (part shorthand.attachment).map ([·]) ++
    (part shorthand.origin).map ([·]) ++ (part shorthand.clip).map ([·])

theorem spaced_slash (size : BackgroundSize) :
    Text.spaced ("/" :: size.words) = Text.spaced ["/", render size] := by
  have present : ∀ group ∈ [["/"], size.words], group ≠ [] := by
    cases size <;> simp [BackgroundSize.words]
  have groups := Text.spaced_flatten (List.cons_ne_nil _ _) present
  rw [size.render_eq_spaced]
  simpa using groups.symm

/-- The groups of words are written as the parts are. -/
theorem map_spaced_groups : shorthand.groups.map Text.spaced = shorthand.parts := by
  have single : ∀ texts : List String, (texts.map ([·])).map Text.spaced = texts := by
    intro texts
    simp [Function.comp_def]
  have position : (shorthand.writtenPosition.toList.map Position.parts).map Text.spaced =
      Text.part shorthand.writtenPosition := List.map_map
  have size : (shorthand.size.toList.map fun size => "/" :: size.words).map Text.spaced =
      (Text.part shorthand.size).map fun size => Text.spaced ["/", size] := by
    rw [Text.part, List.map_map, List.map_map]
    exact List.map_congr_left fun size _ => spaced_slash size
  simp only [groups, parts, List.map_append, single, position, size]

/-- The words are those of the groups, in order. -/
theorem flatten_groups : shorthand.groups.flatten = shorthand.words := by
  have single : ∀ texts : List String, (texts.map ([·])).flatten = texts :=
    List.flatMap_singleton'
  simp only [groups, words, firstWords, lastWords, positionWords, sizeWords, List.flatMap_def,
    List.flatten_append, single, List.append_assoc]

/-- A part that is set has a word. -/
theorem ne_nil_of_mem_groups : ∀ group ∈ shorthand.groups, group ≠ [] := by
  have single : ∀ texts : List String, ∀ group ∈ texts.map ([·]), group ≠ [] :=
    fun texts => List.forall_mem_map.mpr fun text _ => List.cons_ne_nil text []
  have position : ∀ group ∈ shorthand.writtenPosition.toList.map Position.parts, group ≠ [] := by
    refine List.forall_mem_map.mpr fun position _ => ?_
    cases position <;> exact List.cons_ne_nil _ _
  have size : ∀ group ∈ shorthand.size.toList.map fun size => "/" :: size.words, group ≠ [] :=
    List.forall_mem_map.mpr fun _ _ => List.cons_ne_nil _ _
  simp only [groups, List.forall_mem_append]
  exact ⟨⟨⟨⟨⟨⟨⟨single _, single _⟩, position⟩, size⟩, single _⟩, single _⟩, single _⟩, single _⟩

variable {shorthand}

/-- A background without groups has no parts. -/
theorem eq_empty_of_groups_eq_nil (nothing : shorthand.groups = []) : shorthand = empty := by
  obtain ⟨color, image, position, size, tiling, attachment, origin, clip⟩ := shorthand
  simp only [groups, Text.part, List.append_eq_nil_iff, List.map_eq_nil_iff,
    Option.toList_eq_nil_iff, writtenPosition] at nothing
  obtain ⟨⟨⟨⟨⟨⟨⟨rfl, rfl⟩, written⟩, rfl⟩, rfl⟩, rfl⟩, rfl⟩, rfl⟩ := nothing
  cases position with
  | none => rfl
  | some position => cases written

/-- A background with some part set is written as its words with spaces between them. -/
theorem render_eq_spaced_words (set : shorthand ≠ empty) :
    render shorthand = Text.spaced shorthand.words := by
  have present : shorthand.groups ≠ [] := mt eq_empty_of_groups_eq_nil set
  have parts : shorthand.parts ≠ [] := by
    rw [← map_spaced_groups]
    exact mt List.map_eq_nil_iff.mp present
  change Text.orNone Text.spaced shorthand.parts = _
  rw [Text.orNone_of_ne_nil parts, ← map_spaced_groups,
    Text.spaced_flatten present shorthand.ne_nil_of_mem_groups, flatten_groups]

/-- A background with a part has a word. -/
theorem words_ne_nil (set : shorthand ≠ empty) : shorthand.words ≠ [] := by
  have present : shorthand.groups ≠ [] := mt eq_empty_of_groups_eq_nil set
  rw [← flatten_groups]
  intro empty
  have first := List.head_mem present
  exact shorthand.ne_nil_of_mem_groups _ first (List.flatten_eq_nil_iff.mp empty _ first)

/-! ### Places of the words -/

/-- The word of a tame color is ordinary. -/
theorem ordinary_of_mem_color (tame : ∀ color ∈ shorthand.color, color.Tame ' ') :
    ∀ word ∈ Text.part shorthand.color, Ordinary word := by
  intro word member
  obtain ⟨color, present, rfl⟩ := List.mem_map.mp member
  exact color.ordinary (tame color (Option.mem_toList.mp present))

/-- The words of a tame position are ordinary, those of the initial one included. -/
theorem ordinary_of_mem_positionWords (tame : ∀ position ∈ shorthand.position, position.Tame) :
    ∀ word ∈ shorthand.positionWords, Ordinary word := by
  have written : ∀ position ∈ shorthand.writtenPosition, position.Tame := by
    intro position present
    rw [writtenPosition, Option.orElse_eq_orElse, Option.orElse_eq_or, Option.mem_def,
      Option.or_eq_some_iff] at present
    rcases present with own | ⟨_, initial⟩
    · exact tame position own
    · obtain ⟨_, _, rfl⟩ := Option.map_eq_some_iff.mp initial
      exact ⟨trivial, trivial⟩
  intro word member
  obtain ⟨position, present, listed⟩ := List.mem_flatMap.mp member
  exact Position.ordinary (written position (Option.mem_toList.mp present)) word listed

/-- What holds of the texts of tame images holds of the image of a tame background. -/
theorem forall_mem_image {Holds : String → Prop} (tame : shorthand.Tame)
    (holds : ∀ image : Image, image.Tame → Holds (render image)) :
    ∀ word ∈ Text.part shorthand.image, Holds word := by
  intro word member
  obtain ⟨image, present, rfl⟩ := List.mem_map.mp member
  exact holds image (tame.image image (Option.mem_toList.mp present))

/-- The words of a size are its slash and ordinary words. -/
theorem mem_sizeWords (tame : ∀ size ∈ shorthand.size, size.Tame) :
    ∀ word ∈ shorthand.sizeWords, word = "/" ∨ Ordinary word := by
  intro word member
  obtain ⟨size, present, listed⟩ := List.mem_flatMap.mp member
  have sizeTame := tame size (Option.mem_toList.mp present)
  rcases List.mem_cons.mp listed with slash | behind
  · exact Or.inl slash
  · exact Or.inr (BackgroundSize.ordinary sizeTame word behind)

/-- Origin and clip are written with the words of boxes. -/
theorem mem_boxWords : ∀ word ∈ Text.part shorthand.origin ++ Text.part shorthand.clip,
    word ∈ boxWords := by
  have boxes : ∀ box ∈ (Keyword.all : List BackgroundOrigin).map render, box ∈ boxWords := by decide
  refine List.forall_mem_append.mpr ⟨fun word member => ?_, Keyword.mem_table_of_mem_part⟩
  exact boxes word (Keyword.mem_table_of_mem_part word member)

/-- The words behind the size are those of tiling, attachment and boxes. -/
theorem mem_lastWords : ∀ word ∈ shorthand.lastWords, word ∈ finalWords := by
  refine List.forall_mem_append.mpr ⟨?_, List.forall_mem_append.mpr ⟨?_, ?_⟩⟩
  · exact fun word member => List.mem_append_left _ (Keyword.mem_table_of_mem_part word member)
  · exact fun word member =>
      List.mem_append_right _ (List.mem_append_left _ (Keyword.mem_table_of_mem_part word member))
  · exact fun word member =>
      List.mem_append_right _ (List.mem_append_right _ (mem_boxWords word member))

/-- All words of a tame background are words. -/
theorem isWord_of_mem_words (tame : shorthand.Tame) : ∀ word ∈ shorthand.words, IsWord word := by
  simp only [words, firstWords, List.forall_mem_append]
  refine ⟨⟨?_, ?_, ?_⟩, ?_, ?_⟩
  · exact fun word member => (ordinary_of_mem_color tame.color word member).isWord
  · exact forall_mem_image tame fun _ => Image.isWord
  · exact fun word member => (ordinary_of_mem_positionWords tame.position word member).isWord
  · intro word member
    rcases mem_sizeWords tame.size word member with rfl | ordinary
    · exact isWord_of_mem_marks List.mem_cons_self
    · exact ordinary.isWord
  · intro word member
    exact isWord_of_mem_marks (List.mem_cons_of_mem _ (mem_lastWords word member))

end BackgroundShorthand
end CssValue
