import CssValue.Proofs.Composite.ListValue
import CssValue.Proofs.Effect.TransformText
import CssValue.Proofs.Text.Tidy

/-!
# Separators that separate

A value is written from texts of its own, which are firm, and from texts from outside.  If the texts
from outside are tidy, then so is the text of a list, a function or a shorthand: what is absent is
left out with its separator.  The one exception is a repetition of no tracks, which has a comma and
a space before its closing parenthesis.
-/

namespace CssValue

open Text (Tidy Firm Plain)

/-! ### Texts from outside -/

/-- A text from outside, by what is next to it where it is written. -/
inductive OutsideText where
  /-- The text stands by itself, or in parentheses of its own. -/
  | enclosed (text : String)
  /-- The text follows a number sign. -/
  | digits (text : String)
  /-- The text stands between separators. -/
  | name (text : String)

namespace OutsideText

/-- The text is tidy, and no parenthesis at an end of it faces a separator. -/
def Proper : OutsideText → Prop
  | enclosed text => Tidy text
  | digits text => Tidy text ∧ text.toList.getLast? ≠ some '('
  | name text => Tidy text ∧ text.toList.head? ≠ some ')' ∧ text.toList.getLast? ≠ some '('

instance : DecidablePred Proper
  | enclosed text => inferInstanceAs (Decidable (Tidy text))
  | digits text => inferInstanceAs (Decidable (Tidy text ∧ text.toList.getLast? ≠ some '('))
  | name text => inferInstanceAs (Decidable
      (Tidy text ∧ text.toList.head? ≠ some ')' ∧ text.toList.getLast? ≠ some '('))

end OutsideText

/-- Types whose values hold texts from outside. -/
class HoldsTexts (α : Type) where
  /-- The texts from outside, as they were given. -/
  texts : α → List OutsideText

export HoldsTexts (texts)

/-- All texts from outside in the value are proper. -/
def TextsProper {α : Type} [HoldsTexts α] (value : α) : Prop := ∀ text ∈ texts value, text.Proper

instance {α : Type} [HoldsTexts α] (value : α) : Decidable (TextsProper value) :=
  inferInstanceAs (Decidable (∀ text ∈ texts value, text.Proper))

namespace HoldsTexts

instance {α : Type} [HoldsTexts α] : HoldsTexts (List α) := ⟨List.flatMap texts⟩

instance {α : Type} [HoldsTexts α] : HoldsTexts (Option α) := ⟨fun value => texts value.toList⟩

instance : HoldsTexts Length where
  texts
    | .calculation expression => [.enclosed expression]
    | .dimension _ _ | .percentage _ | .keyword _ | .wide _ => []

instance : HoldsTexts Color where
  texts
    | .hex text => [.digits text]
    | .named _ | .rgb _ _ _ | .rgba _ _ _ _ | .hsl _ _ _ | .hsla _ _ _ _ | .hwb _ _ _
    | .lab _ _ _ | .lch _ _ _ | .system _ | .currentColor | .transparent | .wide _ => []

instance : HoldsTexts Argument where
  texts
    | .length value => texts value
    | .integer _ | .number _ | .angle _ => []

instance : HoldsTexts Position where
  texts
    | .keywords _ _ => []
    | .lengths x y => texts [x, y]
    | .keywordLength _ y => texts y
    | .lengthKeyword x _ => texts x

instance : HoldsTexts RadialSize where
  texts
    | .explicit width height => texts [width, height]
    | .closestSide | .farthestSide | .closestCorner | .farthestCorner => []

instance : HoldsTexts GradientStop := ⟨fun stop => texts stop.color ++ texts stop.positions⟩

instance : HoldsTexts Gradient where
  texts
    | .linear _ stops => texts stops
    | .radial _ size position stops => texts size ++ texts position ++ texts stops
    | .conic _ position stops => texts position ++ texts stops

instance : HoldsTexts GridTrack where
  texts
    | .minmax least most => texts [least, most]
    | .length length => texts length
    | .fitContent limit => texts limit
    | .fraction _ | .auto => []

instance : HoldsTexts GridTemplate where
  texts
    | .none => []
    | .tracks tracks | .repeated _ tracks => texts tracks
    | .custom text => [.enclosed text]

instance : HoldsTexts ClipPoint := ⟨fun point => texts [point.x, point.y]⟩

instance : HoldsTexts ClipPath where
  texts
    | .circle radius center => texts radius ++ texts center
    | .ellipse radiusX radiusY center => texts [radiusX, radiusY] ++ texts center
    | .inset top right bottom left round => texts [top, right, bottom, left] ++ texts round
    | .polygon points => texts points
    | .custom text => [.enclosed text]
    | .none | .wide _ => []

instance : HoldsTexts TransformFunction := ⟨fun function => texts function.values⟩

instance : HoldsTexts Transform := ⟨fun transform => texts transform.functions⟩

instance : HoldsTexts FilterFunction where
  texts
    | .blur radius => texts radius
    | .dropShadow offsetX offsetY blurRadius color =>
      texts [offsetX, offsetY, blurRadius] ++ texts color
    | .url reference => [.enclosed reference]
    | .brightness _ | .contrast _ | .grayscale _ | .hueRotate _ | .invert _ | .opacity _
    | .saturate _ | .sepia _ => []

instance : HoldsTexts Filter := ⟨fun filter => texts filter.functions⟩

instance : HoldsTexts Shadow where
  texts shadow :=
    texts [shadow.offsetX, shadow.offsetY, shadow.blurRadius, shadow.spreadRadius] ++
      texts shadow.color

instance : HoldsTexts BoxShadow := ⟨fun boxShadow => texts boxShadow.shadows⟩

instance : HoldsTexts TextShadow where
  texts shadow := texts [shadow.offsetX, shadow.offsetY, shadow.blurRadius] ++ texts shadow.color

instance : HoldsTexts TextShadows := ⟨fun textShadows => texts textShadows.shadows⟩

instance : HoldsTexts TransitionProperty where
  texts
    | .custom name => [.name name]
    | .all | .none => []

instance : HoldsTexts Transition := ⟨fun transition => texts transition.property⟩

instance : HoldsTexts Transitions := ⟨fun list => texts list.transitions⟩

end HoldsTexts

/-! ### Numbers and words -/

/-- The characters of numbers are plain. -/
theorem plain_of_isNumeral {c : Char} (numeral : isNumeral c) : Plain c :=
  Text.plain_of_class numeral (by decide)

/-- A keyword is firm. -/
theorem firm_word {word : String} (present : word.toList ≠ [])
    (named : word.toList.all isNameCharacter) : Firm word :=
  Text.firm_of_plain present fun c member =>
    Text.plain_of_class (List.all_eq_true.mp named c member) (by decide)

/-- A text of the characters of numbers is firm. -/
theorem firm_numeral {text : String} (ends : endsNumeral text.toList)
    (numeral : ∀ c ∈ text.toList, isNumeral c) : Firm text := by
  apply Text.firm_of_plain
  · intro empty
    rw [empty] at ends
    cases ends
  · exact fun c member => plain_of_isNumeral (numeral c member)

theorem firm_number (x : Binary64) : Firm x.text :=
  firm_numeral x.endsNumeral_text fun _ => Binary64.isNumeral_of_mem_text

/-- A whole number is firm. -/
theorem firm_int (n : Int) : Firm (render n) := by
  apply firm_numeral
  · rw [toList_render_int]
    exact Decimal.endsNumeral_exponentText n
  · rw [toList_render_int]
    exact fun c => Decimal.isNumeral_of_mem_exponentText

theorem firm_nat (n : Nat) : Firm (render n) := by
  apply firm_numeral
  · rw [toList_render_nat]
    exact endsNumeral_toDigits n
  · rw [toList_render_nat]
    exact fun c member => isNumeral_of_isDigit (isDigit_of_mem_digits member)

/-- Units are firm. -/
theorem Measure.suffixes_firm : ∀ suffix ∈ suffixes, Firm suffix := by decide +kernel

/-- A number with a suffix is firm. -/
theorem Measure.Shows.firm {text suffix : String} {value : Binary64}
    (shows : Shows text value suffix) : Firm text := by
  rw [shows.written]
  exact (firm_number value).append (suffixes_firm suffix shows.listed)

/-- A number sign before the digits of a color keeps what is in front of them away. -/
theorem Color.firm_hex {text : String} (proper : (OutsideText.digits text).Proper) :
    Firm (render (hex text)) := by
  obtain ⟨tidy, ends⟩ := proper
  obtain ⟨signs, written⟩ : Hex.bare text <:+ text.toList := List.dropWhile_suffix _
  have sign : Plain '#' := ⟨by decide, by decide, by decide⟩
  change Text.Spans ' ' (String.ofList ('#' :: Hex.bare text)).toList ','
  rw [String.toList_ofList, Text.spans_cons]
  refine ⟨sign.fits_left ' ', Text.spans_of_isChain ?_ ?_ ?_ ?_⟩
  · exact tidy.isChain.suffix ⟨signs, written⟩
  · exact fun c _ => sign.fits_right c
  · intro c last
    apply tidy.fits_comma ends
    rw [← written, List.getLast?_append, Option.mem_def.mp last, Option.some_or]
    exact rfl
  · exact fun _ => sign.fits_right ','

theorem Length.words_firm : ∀ word ∈ words, Firm (render word) := by decide +kernel

theorem Color.words_firm : ∀ word ∈ words, Firm (render word) := by decide +kernel

/-! ### Firm texts -/

/-- Types whose values have a firm text, if the texts from outside in them are proper. -/
class RendersFirmly (α : Type) [Render α] [HoldsTexts α] : Prop where
  firm : ∀ {value : α}, TextsProper value → Firm (render value)

export RendersFirmly (firm)

section Lists

variable {α : Type} [Render α] [HoldsTexts α] [RendersFirmly α] {elements : List α}

/-- The texts of proper elements are firm. -/
theorem firm_map_render (proper : TextsProper elements) :
    ∀ part ∈ elements.map render, Firm part := by
  intro part listed
  obtain ⟨element, member, rfl⟩ := List.mem_map.mp listed
  apply firm
  intro text held
  exact proper text (List.mem_flatMap_of_mem member held)

/-- A list of proper elements is firm, also when it is empty and written `none`. -/
theorem firm_orNone {separator : String} (known : separator = " " ∨ separator = ", ")
    (proper : TextsProper elements) :
    Firm (Text.orNone separator.intercalate (elements.map render)) := by
  by_cases present : elements.map render = []
  · rw [present]
    exact (by decide : Firm "none")
  · rw [Text.orNone_of_ne_nil present]
    exact Text.firm_intercalate known present (firm_map_render proper)

end Lists

namespace RendersFirmly

instance : RendersFirmly Length where
  firm {length} proper := by
    cases length.form with
    | measure value suffix shows read => exact shows.firm
    | word listed => exact Length.words_firm length listed
    | calculation expression calculated =>
        subst calculated
        exact Text.firm_functional (by decide) (proper _ List.mem_cons_self)

instance : RendersFirmly Argument where
  firm {argument} proper := by
    cases argument with
    | integer value => exact firm_int value
    | number value => exact firm_number value
    | length value =>
        change Firm (render value)
        exact firm proper
    | angle value => exact value.shows.firm

/-- The notations of colors take no texts from outside. -/
instance : RendersFirmly Color where
  firm {color} proper := by
    cases color.form with
    | word listed => exact Color.words_firm color listed
    | hex text digits =>
        subst digits
        exact Color.firm_hex (proper _ List.mem_cons_self)
    | call call called =>
        have readable := Color.readable_call called
        have named : call.name.toList ≠ [] := by
          cases color <;> cases called <;> simp only <;> decide
        have known : TextsProper call.arguments := by
          cases color <;> cases called <;> exact List.forall_mem_nil _
        have arguments := firm_map_render known
        rw [Color.render_eq_text called]
        apply Text.firm_call (firm_word named readable.named)
        exact Text.firm_intercalate readable.separated (Text.map_render_ne_nil readable.present)
          arguments

/-- The fields of a shadow: some lengths, and then a color. -/
theorem firm_lengths_color {lengths : List Length} {color : Color}
    (proper : ∀ text ∈ texts lengths ++ texts color, text.Proper) :
    ∀ part ∈ lengths.map render ++ [render color], Firm part := by
  obtain ⟨lengthsProper, colorProper⟩ := List.forall_mem_append.mp proper
  exact List.forall_mem_append.mpr
    ⟨firm_map_render lengthsProper, List.forall_mem_singleton.mpr (firm colorProper)⟩

instance : RendersFirmly Position where
  firm {position} proper := by
    have horizontal : ∀ keyword : HorizontalKeyword, Firm (render keyword) := by
      intro keyword
      cases keyword <;> decide
    have vertical : ∀ keyword : VerticalKeyword, Firm (render keyword) := by
      intro keyword
      cases keyword <;> decide
    cases position with
    | keywords x y => exact Text.firm_pair (horizontal x) (vertical y)
    | lengths x y => exact Text.firm_spaced (List.cons_ne_nil _ _) (firm_map_render proper)
    | keywordLength x y => exact Text.firm_pair (horizontal x) (firm proper)
    | lengthKeyword x y => exact Text.firm_pair (firm proper) (vertical y)

instance : RendersFirmly RadialSize where
  firm {size} proper := by
    cases size with
    | explicit width height =>
        exact Text.firm_spaced (List.cons_ne_nil _ _) (firm_map_render proper)
    | _ => decide

instance : RendersFirmly GradientStop where
  firm {stop} proper := by
    obtain ⟨color, positions⟩ := List.forall_mem_append.mp proper
    apply Text.firm_spaced (List.cons_ne_nil _ _)
    exact List.forall_mem_cons.mpr ⟨firm color, firm_map_render positions⟩

/-- What a gradient says before its colors is words, an angle, a size and a position. -/
theorem firm_geometry {gradient : Gradient} (proper : TextsProper gradient) :
    Firm gradient.geometry := by
  cases gradient with
  | linear angle stops => exact angle.shows.firm
  | radial shape size position stops =>
      obtain ⟨extent, _⟩ := List.forall_mem_append.mp proper
      obtain ⟨sizeProper, positionProper⟩ := List.forall_mem_append.mp extent
      apply Text.firm_spaced (List.cons_ne_nil _ _)
      intro part member
      simp only [List.mem_cons, List.not_mem_nil, or_false] at member
      rcases member with rfl | rfl | rfl | rfl
      · cases shape <;> decide
      · exact firm sizeProper
      · decide
      · exact firm positionProper
  | conic angle position stops =>
      obtain ⟨positionProper, _⟩ := List.forall_mem_append.mp proper
      apply Text.firm_spaced (List.cons_ne_nil _ _)
      intro part member
      simp only [List.mem_cons, List.not_mem_nil, or_false] at member
      rcases member with rfl | rfl | rfl | rfl
      · decide
      · exact angle.shows.firm
      · decide
      · exact firm positionProper

instance : RendersFirmly Gradient where
  firm {gradient} proper := by
    have named : Firm gradient.functionName := by
      cases gradient <;> simp only [Gradient.functionName] <;> decide
    have stops : TextsProper gradient.stops := by
      cases gradient with
      | linear _ _ => exact proper
      | radial _ _ _ _ | conic _ _ _ => exact (List.forall_mem_append.mp proper).2
    apply Text.firm_call named
    apply Text.firm_listed (List.cons_ne_nil _ _)
    exact List.forall_mem_cons.mpr ⟨firm_geometry proper, firm_map_render stops⟩

/-! ### Tracks and shapes -/

instance : RendersFirmly GridTrack where
  firm {track} proper := by
    cases track with
    | fraction share => exact (firm_number share).append (by decide : Firm "fr")
    | minmax least most =>
        apply Text.firm_call (by decide)
        exact Text.firm_listed (List.cons_ne_nil _ _) (firm_map_render proper)
    | auto => decide
    | length length =>
        change Firm (render length)
        exact firm proper
    | fitContent limit =>
        have limitProper : TextsProper limit := proper
        exact Text.firm_call (by decide) (firm limitProper)

instance : RendersFirmly ClipPoint where
  firm proper := Text.firm_spaced (List.cons_ne_nil _ _) (firm_map_render proper)

/-! ### Functions -/

instance : RendersFirmly TransformFunction where
  firm {function} proper := by
    have named : Firm function.name := by
      cases function <;> simp only [TransformFunction.name] <;> decide
    have present := Text.map_render_ne_nil function.values_ne_nil
    rw [TransformFunction.render_eq_text]
    exact Text.firm_call named (Text.firm_listed present (firm_map_render proper))

instance : RendersFirmly Transform where
  firm {transform} proper := by
    rw [Transform.render_eq_functions]
    exact firm_orNone (Or.inl rfl) proper

theorem firm_percentageText (fraction : Binary64) : Firm fraction.percentageText := by
  have written : fraction.percentageText.toList = (fraction * 100).hundredthsText.toList ++ ['%'] :=
    String.toList_append
  apply Text.firm_of_plain
  · rw [written]
    exact List.concat_ne_nil _ _
  · intro c member
    rw [written, List.mem_append, List.mem_singleton] at member
    rcases member with number | rfl
    · exact plain_of_isNumeral (isNumeral_of_mem_hundredthsText number)
    · exact ⟨by decide, by decide, by decide⟩

instance : RendersFirmly FilterFunction where
  firm {function} proper := by
    have named : Firm function.name := by
      cases function <;> simp only [FilterFunction.name] <;> decide
    apply Text.firm_functional named
    cases function with
    | blur radius =>
        have radiusProper : TextsProper radius := proper
        exact (firm radiusProper).tidy
    | dropShadow offsetX offsetY blurRadius color =>
        exact (Text.firm_spaced (List.cons_ne_nil _ _) (firm_lengths_color proper)).tidy
    | hueRotate angle => exact angle.shows.firm.tidy
    | url reference => exact proper _ List.mem_cons_self
    | brightness amount | contrast amount | grayscale amount | invert amount | opacity amount
    | saturate amount | sepia amount => exact (firm_percentageText amount).tidy

instance : RendersFirmly Filter where
  firm proper := firm_orNone (Or.inl rfl) proper

/-! ### Shadows and transitions -/

instance : RendersFirmly Shadow where
  firm {shadow} proper := by
    have word : ∀ part ∈ (if shadow.inset then ["inset"] else []), Firm part := by
      split
      · exact List.forall_mem_singleton.mpr (by decide)
      · exact List.forall_mem_nil _
    apply Text.firm_spaced (List.append_ne_nil_of_right_ne_nil _ (List.cons_ne_nil _ _))
    exact List.forall_mem_append.mpr ⟨word, firm_lengths_color proper⟩

instance : RendersFirmly BoxShadow where
  firm proper := firm_orNone (Or.inr rfl) proper

instance : RendersFirmly TextShadow where
  firm proper := Text.firm_spaced (List.cons_ne_nil _ _) (firm_lengths_color proper)

instance : RendersFirmly TextShadows where
  firm proper := firm_orNone (Or.inr rfl) proper

theorem firm_time (time : Time) : Firm (render time) := by
  cases time with
  | seconds value => exact (firm_number value).append (by decide : Firm "s")
  | milliseconds value => exact (firm_number value).append (by decide : Firm "ms")

/-- A timing function is firm. -/
theorem firm_timing (timing : TimingFunction) : Firm (render timing) := by
  cases timing with
  | cubicBezier x1 y1 x2 y2 =>
      apply Text.firm_call (by decide)
      apply Text.firm_listed (List.cons_ne_nil _ _)
      exact List.forall_mem_map.mpr fun x (_ : x ∈ [x1, y1, x2, y2]) => firm_number x
  | steps count position =>
      have place : Firm (render position) := by cases position <;> decide
      apply Text.firm_call (by decide)
      apply Text.firm_listed (List.cons_ne_nil _ _)
      exact List.forall_mem_cons.mpr ⟨firm_nat count, List.forall_mem_singleton.mpr place⟩
  | _ => decide

/-- A name from outside is written between separators, unless it is blank. -/
theorem firm_name {name : String} (proper : (OutsideText.name name).Proper) :
    Firm (Text.orIfBlank "none" name) := by
  obtain ⟨tidy, begins, ends⟩ := proper
  unfold Text.orIfBlank
  split
  case isTrue => decide
  case isFalse shown =>
    have present : name.toList ≠ [] := by
      intro empty
      rw [Text.isBlank, empty] at shown
      exact shown rfl
    apply Text.spans_of_isChain tidy.isChain
    · intro c first
      exact Text.fits_space_iff.mpr ⟨fun closing => begins (closing ▸ first), tidy.begins c first⟩
    · exact tidy.fits_comma ends
    · exact fun empty => (present empty).elim

instance : RendersFirmly TransitionProperty where
  firm {property} proper := by
    cases property with
    | all | none => decide
    | custom name => exact firm_name (proper _ List.mem_cons_self)

instance : RendersFirmly Transition where
  firm {transition} proper := by
    have propertyProper : TextsProper transition.property := proper
    apply Text.firm_spaced (List.append_ne_nil_of_left_ne_nil (List.cons_ne_nil _ _) _)
    intro part member
    rcases List.mem_append.mp member with field | delay
    · simp only [List.mem_cons, List.not_mem_nil, or_false] at field
      rcases field with rfl | rfl | rfl
      · exact firm propertyProper
      · exact firm_time transition.duration
      · exact firm_timing transition.timing
    · obtain ⟨time, _, rfl⟩ := List.mem_map.mp delay
      exact firm_time time

instance : RendersFirmly Transitions where
  firm proper := firm_orNone (Or.inr rfl) proper

end RendersFirmly

/-! ### Templates and clipping paths -/

theorem firm_count (count : RepeatCount) : Firm (render count) := by
  cases count with
  | count count => exact firm_nat count
  | autoFill | autoFit => decide

/-- A whole text from outside is tidy, though it may not be firm. -/
theorem tidy_orIfBlank {text : String} (tidy : Tidy text) : Tidy (Text.orIfBlank "none" text) := by
  unfold Text.orIfBlank
  split
  · decide
  · exact tidy

/-- The comma behind the count is written even if no track follows it. -/
theorem GridTemplate.untidy_repeated (count : RepeatCount) :
    ¬ Tidy (render (repeated count [])) := by
  intro tidy
  have dangling : [' ', ')'] <:+: (render (repeated count [])).toList := by
    change [' ', ')'] <:+: (Text.functional "repeat" (Text.listed [render count, ""])).toList
    refine ⟨"repeat(".toList ++ (render count).toList ++ [','], [], ?_⟩
    simp
  exact tidy.closes ' ' dangling (Or.inl rfl)

/-- A template is tidy unless it repeats no tracks. -/
theorem GridTemplate.tidy_render_iff {template : GridTemplate} (proper : TextsProper template) :
    Tidy (render template) ↔ ∀ count, template ≠ .repeated count [] := by
  cases template with
  | none => exact iff_of_true (by decide) (by simp)
  | tracks tracks =>
      have list : Firm (render (GridTemplate.tracks tracks)) := firm_orNone (Or.inl rfl) proper
      exact iff_of_true list.tidy (by simp)
  | repeated count tracks =>
      by_cases empty : tracks = []
      · subst empty
        exact iff_of_false (untidy_repeated count) (by simp)
      · have group : Firm (Text.spaced (tracks.map render)) :=
          Text.firm_spaced (Text.map_render_ne_nil empty) (firm_map_render proper)
        have arguments : Firm (Text.listed [render count, Text.spaced (tracks.map render)]) := by
          apply Text.firm_listed (List.cons_ne_nil _ _)
          exact List.forall_mem_cons.mpr ⟨firm_count count, List.forall_mem_singleton.mpr group⟩
        exact iff_of_true (Text.firm_call (by decide) arguments).tidy (by simp [empty])
  | custom text => exact iff_of_true (tidy_orIfBlank (proper _ List.mem_cons_self)) (by simp)

/-- An optional part is written behind a word of its own. -/
theorem firm_of_mem_part {α : Type} [Render α] [HoldsTexts α] [RendersFirmly α] {value : Option α}
    {word : String} (wordFirm : Firm word) (proper : TextsProper value) :
    ∀ part ∈ (Text.part value).map fun text => Text.spaced [word, text], Firm part := by
  intro part listed
  obtain ⟨text, member, rfl⟩ := List.mem_map.mp listed
  exact Text.firm_pair wordFirm (firm_map_render proper text member)

/-- A clip path of proper texts is tidy, even without points. -/
theorem ClipPath.tidy_render {path : ClipPath} (proper : TextsProper path) :
    Tidy (render path) := by
  have call : ∀ {name : String} {parts : List String}, Firm name → parts ≠ [] →
      (∀ part ∈ parts, Firm part) → Tidy (Text.functional name (Text.spaced parts)) :=
    fun named present firm => (Text.firm_call named (Text.firm_spaced present firm)).tidy
  cases path with
  | none => decide
  | circle radius center =>
      obtain ⟨radiusProper, centerProper⟩ := List.forall_mem_append.mp proper
      apply call (by decide) (List.cons_ne_nil _ _)
      exact List.forall_mem_cons.mpr
        ⟨firm radiusProper, firm_of_mem_part (by decide) centerProper⟩
  | ellipse radiusX radiusY center =>
      obtain ⟨radii, centerProper⟩ := List.forall_mem_append.mp proper
      apply call (by decide) (List.cons_ne_nil _ _)
      exact List.forall_mem_append.mpr
        ⟨firm_map_render radii, firm_of_mem_part (by decide) centerProper⟩
  | inset top right bottom left round =>
      obtain ⟨edges, roundProper⟩ := List.forall_mem_append.mp proper
      apply call (by decide) (List.cons_ne_nil _ _)
      exact List.forall_mem_append.mpr
        ⟨firm_map_render edges, firm_of_mem_part (by decide) roundProper⟩
  | polygon points =>
      change Tidy (Text.orNone (fun parts => Text.functional "polygon" (Text.listed parts)) _)
      by_cases empty : points = []
      · subst empty
        decide
      · rw [Text.orNone_of_ne_nil (Text.map_render_ne_nil empty)]
        have list := Text.firm_listed (Text.map_render_ne_nil empty) (firm_map_render proper)
        exact (Text.firm_call (by decide) list).tidy
  | custom text => exact tidy_orIfBlank (proper _ List.mem_cons_self)
  | wide keyword =>
      have word : Firm (render keyword) := by cases keyword <;> decide
      exact word.tidy

/-! ### Absent parts -/

open Text in
/-- What is absent is written as if there were no place for it. -/
structure OmitsAbsent : Prop where
  colors : ∀ gradient : Gradient, gradient.stops = [] →
    render gradient = functional gradient.functionName gradient.geometry
  positions : ∀ color : Color, render (GradientStop.ofColor color) = render color
  circle : ∀ radius : Length, render (ClipPath.circle radius none) =
    functional "circle" (render radius)
  ellipse : ∀ radiusX radiusY : Length, render (ClipPath.ellipse radiusX radiusY none) =
    functional "ellipse" (spaced [render radiusX, render radiusY])
  inset : ∀ top right bottom left : Length, render (ClipPath.inset top right bottom left none) =
    functional "inset" (spaced [render top, render right, render bottom, render left])
  translate : ∀ x : Length, render (TransformFunction.translate x none) =
    functional "translate" (render x)
  scale : ∀ x : Binary64, render (TransformFunction.scale x none) = functional "scale" (render x)
  skew : ∀ x : Angle, render (TransformFunction.skew x none) = functional "skew" (render x)
  delay : ∀ (property : TransitionProperty) (duration : Time) (timing : TimingFunction),
    render (Transition.mk property duration timing none) =
      spaced [render property, render duration, render timing]
  transforms : ∀ transform : Transform, transform.functions = [] → render transform = "none"
  lists : ∀ text ∈ [render (GridTemplate.tracks []), render (ClipPath.polygon []),
    render (Filter.mk []), render (BoxShadow.mk []), render (TextShadows.mk []),
    render (Transitions.mk [])], text = "none"

/-- In every value of parts an absent part leaves nothing in the text. -/
theorem omitsAbsent : OmitsAbsent where
  colors gradient empty := by
    change Text.functional _ (Text.listed (gradient.geometry :: gradient.stops.map render)) = _
    rw [empty]
    rfl
  positions _ := rfl
  circle _ := rfl
  ellipse _ _ := rfl
  inset _ _ _ _ := rfl
  translate _ := rfl
  scale _ := rfl
  skew _ := rfl
  delay _ _ _ := rfl
  transforms transform empty := by
    rw [Transform.render_eq_functions, empty]
    rfl
  lists := by
    intro text listed
    simp only [List.mem_cons, List.not_mem_nil, or_false] at listed
    rcases listed with rfl | rfl | rfl | rfl | rfl | rfl <;> rfl

/-! ### All values with separators -/

/-- The values that are written as a list, or as functions with their arguments. -/
inductive PartedValue where
  | gradient (value : Gradient)
  | template (value : GridTemplate)
  | clipPath (value : ClipPath)
  | transform (value : Transform)
  | filter (value : Filter)
  | boxShadow (value : BoxShadow)
  | textShadows (value : TextShadows)
  | transitions (value : Transitions)

namespace PartedValue

instance : Render PartedValue where
  render
    | gradient value | template value | clipPath value | transform value | filter value
    | boxShadow value | textShadows value | transitions value => render value

instance : HoldsTexts PartedValue where
  texts
    | gradient value | template value | clipPath value | transform value | filter value
    | boxShadow value | textShadows value | transitions value => texts value

end PartedValue

/-- **No separator dangles, but for one.** If its texts from outside are proper, then the text of a
value neither begins nor ends with a separator, has none directly inside a parenthesis and no two of
them in a row, unless the value is a grid template that repeats no tracks.  Absent parts and all
other empty lists leave nothing behind. -/
theorem separators_separate {value : PartedValue} (proper : TextsProper value) :
    (Tidy (render value) ↔ ∀ count, value ≠ .template (.repeated count [])) ∧ OmitsAbsent := by
  refine ⟨?_, omitsAbsent⟩
  have tidy : ∀ {α : Type} [Render α] [HoldsTexts α] [RendersFirmly α] (part : α),
      TextsProper part → Tidy (render part) := fun _ proper => (firm proper).tidy
  cases value with
  | template template =>
      change Tidy (render template) ↔ _
      rw [GridTemplate.tidy_render_iff proper]
      simp
  | gradient gradient => exact iff_of_true (tidy gradient proper) (by simp)
  | clipPath path => exact iff_of_true (ClipPath.tidy_render proper) (by simp)
  | transform transform => exact iff_of_true (tidy transform proper) (by simp)
  | filter filter => exact iff_of_true (tidy filter proper) (by simp)
  | boxShadow boxShadow => exact iff_of_true (tidy boxShadow proper) (by simp)
  | textShadows textShadows => exact iff_of_true (tidy textShadows proper) (by simp)
  | transitions list => exact iff_of_true (tidy list proper) (by simp)

/-- Calculations, digits, references and names from outside, with separators of their own. -/
theorem separators_separate_nested :
    let calculation := Length.calculation "min(1px, 2em) * 3"
    let values : List PartedValue :=
      [.gradient (.radial .circle .closestSide .center
          [⟨.hex "#fff", [calculation, .zero]⟩, ⟨.rgb 1 2 3, []⟩]),
        .template (.repeated .autoFill [.minmax calculation .auto]),
        .clipPath (.inset .zero .auto calculation .zero (some calculation)),
        .transform (.compound [.none, .function (.translate calculation none)]),
        .filter ⟨[.url "a(b, c) d", .blur calculation]⟩,
        .boxShadow ⟨[⟨calculation, .zero, .zero, .zero, .hex "##1a2b3c", true⟩]⟩,
        .textShadows ⟨[⟨calculation, .zero, .zero, .transparent⟩]⟩,
        .transitions ⟨[⟨.custom "--tint", .seconds 0, .ease, none⟩]⟩]
    ∀ value ∈ values, TextsProper value ∧ Tidy (render value) := by
  intro calculation values
  have proper : ∀ value ∈ values, TextsProper value := by decide
  have several : ∀ value ∈ values, ∀ count, value ≠ .template (.repeated count []) := by
    simp [values]
  intro value listed
  have valueProper := proper value listed
  exact ⟨valueProper, (separators_separate valueProper).1.mpr (several value listed)⟩

/-- A repetition of no tracks takes no text from outside, and it has a separator that parts nothing
from anything. -/
theorem repetition_of_no_tracks_is_untidy :
    TextsProper (GridTemplate.repeated (.count 2) []) ∧
      render (GridTemplate.repeated (.count 2) []) = "repeat(2, )" ∧
        ¬ Tidy (render (GridTemplate.repeated (.count 2) [])) := by
  have proper : TextsProper (GridTemplate.repeated (.count 2) []) := List.forall_mem_nil _
  exact ⟨proper, rfl, by decide⟩

end CssValue
