import CssValue.Box.Edges
import CssValue.Effect.Shadow
import CssValue.Proofs.Composite.Component

/-!
# Shorthands read back

The fields of a shorthand are written in a fixed order with spaces between them, and their own
spaces are inside of parentheses.  Split at the spaces outside, the text gives the texts of the
fields: no field is lost or moved, and an optional one is there just when it is set.
-/

namespace CssValue

variable {mark : Char}

/-! ### Fields -/

namespace Shadow

/-- The texts of the fields, after the word `inset` for an inner shadow. -/
def fields (shadow : Shadow) : List String :=
  (if shadow.inset then ["inset"] else []) ++
    [render shadow.offsetX, render shadow.offsetY, render shadow.blurRadius,
      render shadow.spreadRadius, render shadow.color]

/-- The parentheses of the calculations are balanced, and the color is tame. -/
structure Tame (mark : Char) (shadow : Shadow) : Prop where
  offsetX : shadow.offsetX.Tame
  offsetY : shadow.offsetY.Tame
  blurRadius : shadow.blurRadius.Tame
  spreadRadius : shadow.spreadRadius.Tame
  color : shadow.color.Tame mark

theorem sealed_fields {shadow : Shadow} (separator : Text.IsSeparator mark)
    (tame : shadow.Tame mark) : ∀ field ∈ shadow.fields, Text.Sealed mark field.toList := by
  intro field member
  rcases List.mem_append.mp member with word | field
  · split at word
    · rw [List.mem_singleton.mp word]
      exact Text.sealed_word separator (by decide)
    · exact (List.not_mem_nil word).elim
  · simp only [List.mem_cons, List.not_mem_nil, or_false] at field
    rcases field with rfl | rfl | rfl | rfl | rfl
    · exact Length.sealed_render separator tame.offsetX
    · exact Length.sealed_render separator tame.offsetY
    · exact Length.sealed_render separator tame.blurRadius
    · exact Length.sealed_render separator tame.spreadRadius
    · exact Color.sealed_render separator tame.color

end Shadow

namespace TextShadow

/-- The texts of the fields. -/
def fields (shadow : TextShadow) : List String :=
  [render shadow.offsetX, render shadow.offsetY, render shadow.blurRadius, render shadow.color]

/-- The parentheses of the calculations are balanced, and the color is tame. -/
structure Tame (mark : Char) (shadow : TextShadow) : Prop where
  offsetX : shadow.offsetX.Tame
  offsetY : shadow.offsetY.Tame
  blurRadius : shadow.blurRadius.Tame
  color : shadow.color.Tame mark

theorem sealed_fields {shadow : TextShadow} (separator : Text.IsSeparator mark)
    (tame : shadow.Tame mark) : ∀ field ∈ shadow.fields, Text.Sealed mark field.toList := by
  intro field member
  simp only [fields, List.mem_cons, List.not_mem_nil, or_false] at member
  rcases member with rfl | rfl | rfl | rfl
  · exact Length.sealed_render separator tame.offsetX
  · exact Length.sealed_render separator tame.offsetY
  · exact Length.sealed_render separator tame.blurRadius
  · exact Color.sealed_render separator tame.color

end TextShadow

namespace Transition

/-- The texts of the fields, with that of the delay if there is one. -/
def fields (transition : Transition) : List String :=
  [render transition.property, render transition.duration, render transition.timing] ++
    Text.part transition.delay

theorem sealed_fields {transition : Transition} (separator : Text.IsSeparator mark)
    (tame : transition.property.Tame mark) :
    ∀ field ∈ transition.fields, Text.Sealed mark field.toList := by
  intro field member
  rcases List.mem_append.mp member with field | delay
  · simp only [List.mem_cons, List.not_mem_nil, or_false] at field
    rcases field with rfl | rfl | rfl
    · exact transition.property.sealed_render separator tame
    · exact transition.duration.sealed_render separator
    · exact transition.timing.sealed_render separator
  · apply Text.sealed_of_mem_part _ field delay
    intro time _
    exact time.sealed_render separator

end Transition

/-- The fields of an animation can stand between separators if its name can. -/
theorem Animation.sealed_fields {animation : Animation} (separator : Text.IsSeparator mark)
    (named : Text.Sealed mark animation.name.toList) :
    ∀ field ∈ [animation.name, render animation.duration, render animation.timing,
      render animation.delay, render animation.iterations, render animation.direction,
      render animation.fill, render animation.playState], Text.Sealed mark field.toList := by
  intro field member
  simp only [List.mem_cons, List.not_mem_nil, or_false] at member
  rcases member with rfl | rfl | rfl | rfl | rfl | rfl | rfl | rfl
  · exact named
  · exact animation.duration.sealed_render separator
  · exact animation.timing.sealed_render separator
  · exact animation.delay.sealed_render separator
  · exact animation.iterations.sealed_render separator
  · exact Text.sealed_word separator (by cases animation.direction <;> decide)
  · exact Text.sealed_word separator (by cases animation.fill <;> decide)
  · exact Text.sealed_word separator (by cases animation.playState <;> decide)

/-- A line of a border or an outline is written from its width and style and its color, if it is
set, in either order of the first two. -/
theorem sealed_line {width : BorderWidth} (style : BorderStyle) {color : Option Color}
    (separator : Text.IsSeparator mark) (widthTame : width.Tame)
    (colorTame : ∀ present ∈ color, present.Tame mark) :
    Text.Sealed mark (render width).toList ∧ Text.Sealed mark (render style).toList ∧
      ∀ field ∈ Text.part color, Text.Sealed mark field.toList := by
  refine ⟨width.sealed_render separator widthTame, ?_, ?_⟩
  · exact Text.sealed_word separator (by cases style <;> decide)
  · apply Text.sealed_of_mem_part
    intro present member
    exact present.sealed_render separator (colorTame present member)

/-- Four sides are split at the spaces outside of parentheses. -/
theorem splitOutside_fourSides {first second third fourth : Option Length}
    (tame : ∀ side ∈ [first, second, third, fourth], ∀ length ∈ side, length.Tame) :
    Text.splitOutside " " (Text.fourSides first second third fourth) =
      [first, second, third, fourth].map Text.side := by
  apply Text.splitOutside_spaced (List.cons_ne_nil _ _)
  intro text listed
  have written : text ∈ [first, second, third, fourth].map Text.side := listed
  obtain ⟨side, member, rfl⟩ := List.mem_map.mp written
  apply Text.sealed_side (Or.inl rfl)
  intro length present
  exact length.sealed_render (Or.inl rfl) (tame side member length present)

/-- **A shorthand is split into its fields.** The spaces outside of parentheses are those between
the fields, which stand in their order: the four edges of a box and the four corners clockwise, with
`0` for an absent one; the lengths and the color of a shadow, behind `inset` for an inner one; the
eight fields of an animation; the fields of a transition with its delay if it has one; width and
style of a border, style and width of an outline, with the color if it is set. -/
theorem splits_into_fields :
    (∀ shadow : Shadow, shadow.Tame ' ' →
      Text.splitOutside " " (render shadow) =
        (if shadow.inset then ["inset"] else []) ++
          [render shadow.offsetX, render shadow.offsetY, render shadow.blurRadius,
            render shadow.spreadRadius, render shadow.color]) ∧
      (∀ shadow : TextShadow, shadow.Tame ' ' →
        Text.splitOutside " " (render shadow) =
          [render shadow.offsetX, render shadow.offsetY, render shadow.blurRadius,
            render shadow.color]) ∧
      (∀ topLeft topRight bottomRight bottomLeft : Option Length,
        (∀ corner ∈ [topLeft, topRight, bottomRight, bottomLeft], ∀ length ∈ corner, length.Tame) →
        Text.splitOutside " "
            (render (BorderRadius.corners topLeft topRight bottomRight bottomLeft)) =
          [topLeft, topRight, bottomRight, bottomLeft].map (·.elim "0" render)) ∧
      (∀ top right bottom left : Option Length,
        (∀ edge ∈ [top, right, bottom, left], ∀ length ∈ edge, length.Tame) →
        Text.splitOutside " " (render (BoxEdges.edges top right bottom left)) =
          [top, right, bottom, left].map (·.elim "0" render)) ∧
      (∀ animation : Animation, Text.Sealed ' ' animation.name.toList →
        Text.splitOutside " " (render animation) =
          [animation.name, render animation.duration, render animation.timing,
            render animation.delay, render animation.iterations, render animation.direction,
            render animation.fill, render animation.playState]) ∧
      (∀ transition : Transition, transition.property.Tame ' ' →
        Text.splitOutside " " (render transition) =
          [render transition.property, render transition.duration, render transition.timing] ++
            transition.delay.toList.map render) ∧
      (∀ outline : Outline, outline.width.Tame → (∀ color ∈ outline.color, color.Tame ' ') →
        Text.splitOutside " " (render outline) =
          [render outline.style, render outline.width] ++ outline.color.toList.map render) ∧
      (∀ (width : BorderWidth) (style : BorderStyle) (color : Option Color), width.Tame →
        (∀ present ∈ color, present.Tame ' ') →
        Text.splitOutside " " (render (Border.shorthand width style color)) =
          [render width, render style] ++ color.toList.map render) := by
  have space : Text.IsSeparator ' ' := Or.inl rfl
  have side : ∀ side : Option Length, Text.side side = side.elim "0" render := by
    intro side
    cases side <;> rfl
  refine ⟨?_, ?_, ?_, ?_, ?_, ?_, ?_, ?_⟩
  · intro shadow tame
    have present : shadow.fields ≠ [] := List.append_ne_nil_of_right_ne_nil _ (List.cons_ne_nil _ _)
    exact Text.splitOutside_spaced present (Shadow.sealed_fields space tame)
  · intro shadow tame
    exact Text.splitOutside_spaced (List.cons_ne_nil _ _) (TextShadow.sealed_fields space tame)
  · intro topLeft topRight bottomRight bottomLeft tame
    simp only [← side]
    exact splitOutside_fourSides tame
  · intro top right bottom left tame
    simp only [← side]
    exact splitOutside_fourSides tame
  · intro animation named
    exact Text.splitOutside_spaced (List.cons_ne_nil _ _) (Animation.sealed_fields space named)
  · intro transition tame
    exact Text.splitOutside_spaced (List.cons_ne_nil _ _) (Transition.sealed_fields space tame)
  · intro outline widthTame colorTame
    obtain ⟨width, style, color⟩ := sealed_line outline.style space widthTame colorTame
    apply Text.splitOutside_spaced (List.cons_ne_nil _ _)
    exact List.forall_mem_cons.mpr ⟨style, List.forall_mem_cons.mpr ⟨width, color⟩⟩
  · intro width style color widthTame colorTame
    obtain ⟨width, style, color⟩ := sealed_line style space widthTame colorTame
    apply Text.splitOutside_spaced (List.cons_ne_nil _ _)
    exact List.forall_mem_cons.mpr ⟨width, List.forall_mem_cons.mpr ⟨style, color⟩⟩

/-- The spaces in calculations, colors and timing functions part nothing, and absent sides count. -/
theorem splits_into_fields_nested :
    Text.splitOutside " " (render (Shadow.mk (.calculation "1px + (2em)") .auto
        (.dimension .nan .px) .zero (.rgb 1 2 3) true)) =
      ["inset", "calc(1px + (2em))", "auto", "NaNpx", "0.0px", "rgb(1, 2, 3)"] ∧
      Text.splitOutside " " (render (TextShadow.mk .zero (.calculation "-1 * (1em)") .auto
        (.hex "##1a2b3c"))) = ["0.0px", "calc(-1 * (1em))", "auto", "#1a2b3c"] ∧
      Text.splitOutside " " (render (BorderRadius.corners none (some (.calculation "1px + 2em"))
        none (some .zero))) = ["0", "calc(1px + 2em)", "0", "0.0px"] ∧
      Text.splitOutside " " (render (BoxEdges.edges (some .auto) none
        (some (.calculation "1px + 2em")) none)) = ["auto", "0", "calc(1px + 2em)", "0"] ∧
      Text.splitOutside " " (render (Animation.mk "slide" (.seconds 0) (.steps 3 .atEnd)
        (.milliseconds .nan) .infinite .alternateReverse .none .paused)) =
      ["slide", "0.0s", "steps(3, end)", "NaNms", "infinite", "alternate-reverse", "none",
        "paused"] ∧
      Text.splitOutside " " (render (Transition.mk (.custom "--tint") (.seconds 0)
        (.cubicBezier 0 .nan 0 0) (some (.milliseconds 0)))) =
      ["--tint", "0.0s", "cubic-bezier(0.0, NaN, 0.0, 0.0)", "0.0ms"] ∧
      Text.splitOutside " " (render (Outline.mk .dotted .thick none)) = ["dotted", "thick"] ∧
      Text.splitOutside " " (render (Border.shorthand (.length (.calculation "1px + 2em")) .solid
        (some (.rgba 0 0 0 .nan)))) = ["calc(1px + 2em)", "solid", "rgba(0, 0, 0, NaN)"] := by
  obtain ⟨shadow, textShadow, corners, edges, animation, transition, outline, border⟩ :=
    splits_into_fields
  refine ⟨shadow _ ?_, textShadow _ ?_, corners _ _ _ _ ?_, edges _ _ _ _ ?_, animation _ ?_,
    transition _ ?_, outline _ ?_ ?_, border _ _ _ ?_ ?_⟩
  · exact ⟨by decide, by decide, by decide, by decide, by decide⟩
  · exact ⟨by decide, by decide, by decide, by decide⟩
  all_goals decide

end CssValue
