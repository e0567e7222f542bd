import CssValue.Proofs.Equality.CanonicalText
import CssValue.Proofs.Effect.TransformChain
import CssValue.Proofs.Quantity.Call
import CssValue.Proofs.Text.KeywordTable
import CssValue.Proofs.Text.Visible

/-!
# No text is blank

Every value has a visible text.  What can be missing from a value, the elements of a list and the
parts of a shorthand, has a keyword in its place, as has a text from outside that is blank.
-/

namespace CssValue

open Text (Visible)

/-- Types whose values all have a visible text. -/
class RendersVisibly (α : Type) [Render α] : Prop where
  visible : ∀ value : α, Visible (render value)

export RendersVisibly (visible)

section Parts

variable {α : Type} [Render α] [RendersVisibly α]

/-- Spaced parts with a visible value in front are visible. -/
theorem visible_spaced_cons (first : α) (rest : List String) :
    Visible (Text.spaced (render first :: rest)) :=
  Text.visible_intercalate " " List.mem_cons_self (visible first)

/-- A list of visible values is visible, also when it is empty and written `none`. -/
theorem visible_orNone_render (separator : String) (elements : List α) :
    Visible (Text.orNone separator.intercalate (elements.map render)) := by
  apply Text.visible_orNone_intercalate
  exact List.forall_mem_map.mpr fun element _ => visible element

end Parts

namespace RendersVisibly

/-! ### Numbers and words -/

instance : RendersVisibly Binary64 where
  visible x := Text.visible_of_endsNumeral x.endsNumeral_text

instance : RendersVisibly Int where
  visible n := by
    apply Text.visible_of_endsNumeral
    rw [toList_render_int]
    exact Decimal.endsNumeral_exponentText n

instance : RendersVisibly Nat where
  visible n := by
    apply Text.visible_of_endsNumeral
    rw [toList_render_nat]
    exact endsNumeral_toDigits n

instance (priority := low) {α : Type} [Keyword α] [LawfulKeyword α] : RendersVisibly α where
  visible keyword := by
    have listed := LawfulKeyword.mem_all keyword
    exact Text.visible_iff_not_blank.mpr (LawfulKeyword.tokens_shown keyword listed)

/-! ### Quantities -/

instance : RendersVisibly Length where
  visible length := by
    cases length with
    | dimension value unit => exact (visible value).append_left (render unit)
    | percentage value => exact (visible value).append_left "%"
    | keyword keyword => exact visible keyword
    | calculation expression => exact Text.visible_functional "calc" expression
    | wide keyword => exact visible keyword

instance : RendersVisibly Angle where
  visible angle := by cases angle <;> exact (visible _).append_left _

instance : RendersVisibly Time where
  visible time := by cases time <;> exact (visible _).append_left _

/-! ### Colors and images -/

instance : RendersVisibly Color where
  visible color := by
    cases color with
    | named name => exact visible name
    | hex text =>
        refine ⟨'#', ?_, rfl⟩
        change '#' ∈ (String.ofList ('#' :: Hex.bare text)).toList
        rw [String.toList_ofList]
        exact List.mem_cons_self
    | system color => exact visible color
    | currentColor | transparent => decide
    | wide keyword => exact visible keyword
    | _ => exact Text.visible_functional _ _

instance : RendersVisibly Position where
  visible position := by cases position <;> exact visible_spaced_cons _ _

instance : RendersVisibly GradientStop where
  visible stop := visible_spaced_cons stop.color _

instance : RendersVisibly RadialSize where
  visible size := by
    cases size with
    | explicit width height => exact visible_spaced_cons width _
    | _ => decide

instance : RendersVisibly Gradient where
  visible gradient := Text.visible_functional gradient.functionName _

instance : RendersVisibly Image where
  visible image := by
    cases image with
    | url url => exact Text.visible_functional "url" _
    | none => decide
    | gradient gradient => exact visible gradient

/-! ### Backgrounds -/

instance : RendersVisibly BackgroundSize where
  visible size := by
    cases size with
    | fit fit => exact visible fit
    | explicit width height => exact visible_spaced_cons width _

/-- A size comes behind a slash, and every other part is the text of a value. -/
instance : RendersVisibly BackgroundShorthand where
  visible shorthand := by
    have seen : ∀ {α : Type} [Render α] [RendersVisibly α] (value : Option α),
        ∀ text ∈ Text.part value, Visible text := by
      intro α _ _ value
      exact List.forall_mem_map.mpr fun present _ => visible present
    apply Text.visible_orNone_intercalate
    simp only [BackgroundShorthand.parts, List.forall_mem_append]
    refine ⟨⟨⟨⟨⟨⟨⟨seen _, seen _⟩, seen _⟩, ?_⟩, seen _⟩, seen _⟩, seen _⟩, seen _⟩
    intro text member
    obtain ⟨size, _, rfl⟩ := List.mem_map.mp member
    exact Text.visible_intercalate " " List.mem_cons_self (by decide)

instance : RendersVisibly Background where
  visible background := by
    cases background with
    | color value | image value | position value | size value | tiling value | attachment value
    | origin value | clip value | composite value | shorthand value | wide value =>
        exact visible value

/-! ### Positions of replaced content -/

instance : RendersVisibly PositionValue where
  visible value := by
    cases value with
    | length value | keyword value => exact visible value

instance : RendersVisibly ObjectPosition where
  visible position := by
    cases position with
    | one value => exact visible value
    | two x y => exact visible_spaced_cons x _
    | wide keyword => exact visible keyword

/-! ### Effects -/

instance : RendersVisibly TransformFunction where
  visible function := Text.visible_functional function.name _

/-- However deep a transform nests, what is written is the list of its functions. -/
instance : RendersVisibly Transform where
  visible transform := by
    rw [Transform.render_eq_functions]
    exact visible_orNone_render " " transform.functions

instance : RendersVisibly ClipPoint where
  visible point := visible_spaced_cons point.x _

instance : RendersVisibly ClipPath where
  visible path := by
    cases path with
    | none => decide
    | circle radius center => exact Text.visible_functional "circle" _
    | ellipse radiusX radiusY center => exact Text.visible_functional "ellipse" _
    | inset top right bottom left round => exact Text.visible_functional "inset" _
    | polygon points =>
        apply Text.visible_orNone
        intro _
        exact Text.visible_functional "polygon" _
    | custom text => exact Text.visible_orIfBlank text (by decide)
    | wide keyword => exact visible keyword

instance : RendersVisibly FilterFunction where
  visible function := Text.visible_functional function.name _

instance : RendersVisibly Filter where
  visible filter := visible_orNone_render " " filter.functions

instance : RendersVisibly Shadow where
  visible shadow := by
    apply Text.visible_intercalate " " _ (visible shadow.color)
    exact List.mem_append_right _ (by simp)

instance : RendersVisibly BoxShadow where
  visible boxShadow := visible_orNone_render ", " boxShadow.shadows

instance : RendersVisibly TextShadow where
  visible shadow := visible_spaced_cons shadow.offsetX _

instance : RendersVisibly TextShadows where
  visible textShadows := visible_orNone_render ", " textShadows.shadows

/-! ### Grids -/

instance : RendersVisibly RepeatCount where
  visible count := by
    cases count with
    | count count => exact visible count
    | autoFill | autoFit => decide

instance : RendersVisibly GridTrack where
  visible track := by
    cases track with
    | fraction share => exact (visible share).append_left "fr"
    | minmax least most => exact Text.visible_functional "minmax" _
    | auto => decide
    | length length => exact visible length
    | fitContent limit => exact Text.visible_functional "fit-content" _

instance : RendersVisibly GridTemplate where
  visible template := by
    cases template with
    | none => decide
    | tracks tracks => exact visible_orNone_render " " tracks
    | repeated count tracks => exact Text.visible_functional "repeat" _
    | custom text => exact Text.visible_orIfBlank text (by decide)

instance : RendersVisibly GridTemplateAreas where
  visible areas := by
    cases areas with
    | none => decide
    | areas rows =>
        apply Text.visible_orNone_intercalate
        intro row member
        obtain ⟨cells, _, rfl⟩ := List.mem_map.mp member
        exact Visible.append_right _ (by decide)
    | custom text => exact Text.visible_orIfBlank text (by decide)

instance : RendersVisibly GridAuto where
  visible size := by
    cases size with
    | auto => decide
    | length length => exact visible length
    | minmax least most => exact Text.visible_functional "minmax" _
    | fitContent limit => exact Text.visible_functional "fit-content" _

instance : RendersVisibly GridGap where
  visible gap := by
    change Visible (if gap.row == gap.column then render gap.row else _)
    split
    · exact visible gap.row
    · exact visible_spaced_cons gap.row _

instance : RendersVisibly GridLine where
  visible line := by
    cases line with
    | auto => decide
    | span count => exact Text.visible_intercalate " " List.mem_cons_self (by decide)
    | line number => exact visible number
    | named name => exact Text.visible_orIfBlank name (by decide)

instance : RendersVisibly GridPlacement where
  visible placement :=
    Text.visible_intercalate " / " List.mem_cons_self (visible placement.start)

instance : RendersVisibly GridArea where
  visible area := by
    cases area with
    | auto => decide
    | lines rowStart columnStart rowEnd columnEnd =>
        exact Text.visible_intercalate " / " List.mem_cons_self (visible rowStart)
    | named name => exact Text.visible_orIfBlank name (by decide)

/-! ### Motion -/

instance : RendersVisibly TimingFunction where
  visible timing := by
    cases timing with
    | cubicBezier x1 y1 x2 y2 => exact Text.visible_functional "cubic-bezier" _
    | steps count position => exact Text.visible_functional "steps" _
    | _ => decide

instance : RendersVisibly IterationCount where
  visible count := by
    cases count with
    | finite count => exact visible count
    | infinite => decide

/-- The name may be blank, but the duration behind it is not. -/
instance : RendersVisibly Animation where
  visible animation :=
    Text.visible_intercalate " " (List.mem_cons_of_mem _ List.mem_cons_self)
      (visible animation.duration)

instance : RendersVisibly KeyframeSelector where
  visible selector := by
    cases selector with
    | fromStart | toEnd => decide
    | percentage value => exact (visible value).append_left "%"

instance : RendersVisibly KeyframeProperty where
  visible property := Visible.append_right _ (by decide : Visible ";")

instance : RendersVisibly Keyframes where
  visible keyframes := by
    have mark : Visible "@keyframes " := by decide
    exact Text.visible_intercalate "\n" List.mem_cons_self
      ((mark.append_left keyframes.name).append_left _)

instance : RendersVisibly TransitionProperty where
  visible property := by
    cases property with
    | all | none => decide
    | custom name => exact Text.visible_orIfBlank name (by decide)

instance : RendersVisibly Transition where
  visible transition := visible_spaced_cons transition.property _

instance : RendersVisibly Transitions where
  visible list := visible_orNone_render ", " list.transitions

/-! ### Boxes -/

instance : RendersVisibly BorderWidth where
  visible width := by
    cases width with
    | length length => exact visible length
    | thin | medium | thick => decide

/-- Four sides are visible, since an absent one is written `0`. -/
theorem visible_fourSides {α : Type} [Render α] [RendersVisibly α]
    (first second third fourth : Option α) :
    Visible (Text.fourSides first second third fourth) := by
  apply Text.visible_intercalate " " List.mem_cons_self
  cases first with
  | none => exact (by decide : Visible "0")
  | some side => exact visible side

instance : RendersVisibly BorderRadius where
  visible radius := by
    cases radius with
    | all radius => exact visible radius
    | corners topLeft topRight bottomRight bottomLeft => exact visible_fourSides _ _ _ _

instance : RendersVisibly Border where
  visible border := by
    cases border with
    | shorthand width style color => exact visible_spaced_cons width _
    | width value | style value | color value | radius value | wide value => exact visible value

instance : RendersVisibly Outline where
  visible outline := visible_spaced_cons outline.style _

instance : RendersVisibly BoxEdges where
  visible edges := by
    cases edges with
    | all length => exact visible length
    | horizontal length => exact Text.visible_intercalate " " List.mem_cons_self (by decide)
    | vertical length => exact visible_spaced_cons length _
    | edges top right bottom left => exact visible_fourSides _ _ _ _

end RendersVisibly

/-- Every kind of value is written visibly. -/
theorem Kind.rendersVisibly : ∀ kind ∈ Kind.all, RendersVisibly kind.Carrier := by
  simp only [all, List.forall_mem_cons]
  and_intros
  all_goals first | exact List.forall_mem_nil _ | infer_instance

/-- **No value is written as a blank text.** The text of every value, whatever numbers, lists and
texts it holds, shows a character that is not white space.  The values that are written as a text
from outside are written as this very text, if it shows such a character. -/
theorem no_text_is_blank :
    (∀ kind ∈ Kind.all, ∀ value : kind.Carrier,
      ∃ c ∈ (render value).toList, Text.isWhiteSpace c = false) ∧
      ∀ text : String, (∃ c ∈ text.toList, Text.isWhiteSpace c = false) →
        render (GridTemplate.custom text) = text ∧ render (GridTemplateAreas.custom text) = text ∧
          render (ClipPath.custom text) = text ∧ render (TransitionProperty.custom text) = text ∧
          render (GridLine.named text) = text ∧ render (GridArea.named text) = text := by
  constructor
  · intro kind listed value
    have shown := Kind.rendersVisibly kind listed
    exact shown.visible value
  · intro text shows
    have verbatim : ∀ fallback : String, Text.orIfBlank fallback text = text := fun fallback =>
      Text.orIfBlank_of_not_blank (Text.visible_iff_not_blank.mp shows)
    exact ⟨verbatim "none", verbatim "none", verbatim "none", verbatim "none", verbatim "auto",
      verbatim "auto"⟩

/-- An animation is named by an ideographic space, and an area by a word between two of them. -/
theorem no_text_is_blank_ideographic_space :
    (⟨Animation⟩ ∈ Kind.all ∧
        ∃ c ∈ (render (Animation.ofName "\u3000" .zero)).toList, Text.isWhiteSpace c = false) ∧
      (∃ c ∈ "\u3000main\u3000".toList, Text.isWhiteSpace c = false) ∧
      render (GridArea.named "\u3000main\u3000") = "\u3000main\u3000" := by
  have listed : ⟨Animation⟩ ∈ Kind.all := by simp [Kind.all]
  have shows : ∃ c ∈ "\u3000main\u3000".toList, Text.isWhiteSpace c = false :=
    ⟨'m', by decide, rfl⟩
  obtain ⟨seen, verbatim⟩ := no_text_is_blank
  obtain ⟨_, _, _, _, _, area⟩ := verbatim "\u3000main\u3000" shows
  exact ⟨⟨listed, seen ⟨Animation⟩ listed (Animation.ofName "\u3000" .zero)⟩, shows, area⟩

end CssValue
