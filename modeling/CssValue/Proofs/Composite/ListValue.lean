import CssValue.Effect.ClipPath
import CssValue.Effect.Filter
import CssValue.Grid.Template
import CssValue.Paint.Gradient
import CssValue.Proofs.Composite.Shorthand

/-!
# Lists read back

The elements of a list are written in their order with spaces or commas between them.  What
separates the fields of an element is inside of parentheses, or is a space where the list has
commas.  Split at its separators outside of parentheses, the text of a list gives the texts of the
elements: none is lost and no two are merged.
-/

namespace CssValue

variable {mark : Char}

/-! ### Elements written with spaces -/

/-- The fields of a shadow have spaces between them, and so a shadow can stand between commas. -/
theorem Shadow.sealed_render {shadow : Shadow} (tame : shadow.Tame ',') :
    Text.Sealed ',' (render shadow).toList :=
  Text.sealed_spaced (Shadow.sealed_fields (Or.inr rfl) tame)

/-- A text shadow can stand between commas. -/
theorem TextShadow.sealed_render {shadow : TextShadow} (tame : shadow.Tame ',') :
    Text.Sealed ',' (render shadow).toList :=
  Text.sealed_spaced (TextShadow.sealed_fields (Or.inr rfl) tame)

/-- A transition can stand between commas. -/
theorem Transition.sealed_render {transition : Transition} (tame : transition.property.Tame ',') :
    Text.Sealed ',' (render transition).toList :=
  Text.sealed_spaced (Transition.sealed_fields (Or.inr rfl) tame)

namespace ClipPoint

/-- The parentheses of the calculations are balanced. -/
structure Tame (point : ClipPoint) : Prop where
  x : point.x.Tame
  y : point.y.Tame

theorem sealed_render {point : ClipPoint} (tame : point.Tame) :
    Text.Sealed ',' (render point).toList :=
  Text.sealed_pair (point.x.sealed_render (Or.inr rfl) tame.x)
    (point.y.sealed_render (Or.inr rfl) tame.y)

end ClipPoint

/-! ### Filter functions -/

/-- A number of hundredths has no characters but those of numbers. -/
theorem isNumeral_of_mem_hundredthsText {x : Binary64} {c : Char}
    (member : c ∈ x.hundredthsText.toList) : isNumeral c := by
  have digit : ∀ n < 10, isNumeral (Nat.digitChar n) := by
    intro n small
    apply isNumeral_of_isDigit
    rw [Nat.isDigit_digitChar, decide_eq_true small]
  cases x with
  | nan | infinity => exact Binary64.isNumeral_of_mem_text member
  | finite negative magnitude =>
      rw [Binary64.hundredthsText, String.toList_ofList] at member
      refine Binary64.isNumeral_of_mem_signed (fun c written => ?_) member
      rcases List.mem_append.mp written with whole | behind
      · exact isNumeral_of_isDigit (isDigit_of_mem_digits whole)
      · simp only [List.mem_cons, List.not_mem_nil, or_false] at behind
        rcases behind with rfl | rfl | rfl
        · rfl
        · exact digit _ (by omega)
        · exact digit _ (by omega)

/-- A fraction written in percent has no parentheses. -/
theorem balanced_percentageText (fraction : Binary64) :
    Text.Balanced fraction.percentageText.toList := by
  have number : Text.Sealed ' ' (fraction * 100).hundredthsText.toList :=
    sealed_of_isNumeral (Or.inl rfl) fun _ => isNumeral_of_mem_hundredthsText
  rw [Binary64.percentageText, String.toList_append]
  exact number.balanced.append (by decide)

namespace FilterFunction

/-- The parentheses of calculations and references are balanced, and the color is tame. -/
def Tame : FilterFunction → Prop
  | blur radius => radius.Tame
  | dropShadow offsetX offsetY blurRadius color =>
    offsetX.Tame ∧ offsetY.Tame ∧ blurRadius.Tame ∧ color.Tame ' '
  | url reference => Text.Balanced reference.toList
  | brightness _ | contrast _ | grayscale _ | hueRotate _ | invert _ | opacity _ | saturate _
  | sepia _ => True

/-- The argument of a tame filter function has balanced parentheses. -/
theorem balanced_argument {function : FilterFunction} (tame : function.Tame) :
    Text.Balanced function.argument.toList := by
  have space : Text.IsSeparator ' ' := Or.inl rfl
  cases function with
  | blur radius => exact (Length.sealed_render space tame).balanced
  | dropShadow offsetX offsetY blurRadius color =>
      obtain ⟨xTame, yTame, blurTame, colorTame⟩ := tame
      apply Text.balanced_spaced
      intro part member
      simp only [List.mem_cons, List.not_mem_nil, or_false] at member
      rcases member with rfl | rfl | rfl | rfl
      · exact (Length.sealed_render space xTame).balanced
      · exact (Length.sealed_render space yTame).balanced
      · exact (Length.sealed_render space blurTame).balanced
      · exact (Color.sealed_render space colorTame).balanced
  | hueRotate angle => exact (angle.shows.sealed space).balanced
  | url reference => exact tame
  | _ => exact balanced_percentageText _

theorem sealed_render {function : FilterFunction} (tame : function.Tame) :
    Text.Sealed ' ' (render function).toList := by
  have named : Text.Sealed ' ' function.name.toList := by
    cases function <;> simp only [name] <;> decide
  exact Text.sealed_functional named (balanced_argument tame) (by decide)

end FilterFunction

/-! ### Tracks -/

theorem RepeatCount.sealed_render (separator : Text.IsSeparator mark) (count : RepeatCount) :
    Text.Sealed mark (render count).toList := by
  cases count with
  | count count => exact sealed_render_nat separator count
  | autoFill | autoFit => exact Text.sealed_word separator (by decide)

namespace GridTrack

/-- The parentheses of the calculations are balanced. -/
def Tame : GridTrack → Prop
  | minmax least most => least.Tame ∧ most.Tame
  | length value => value.Tame
  | fitContent limit => limit.Tame
  | fraction _ | auto => True

theorem sealed_render {track : GridTrack} (separator : Text.IsSeparator mark)
    (tame : track.Tame) : Text.Sealed mark (render track).toList := by
  cases track with
  | fraction share =>
      have shows : Measure.Shows (render (fraction share)) share "fr" := ⟨by decide, rfl⟩
      exact shows.sealed separator
  | minmax least most =>
      refine Text.sealed_functional (Text.sealed_word separator (by decide)) ?_ separator.ne_opening
      apply Text.balanced_listed
      intro part member
      simp only [List.mem_cons, List.not_mem_nil, or_false] at member
      rcases member with rfl | rfl
      · exact (Length.sealed_render separator tame.1).balanced
      · exact (Length.sealed_render separator tame.2).balanced
  | auto => exact Text.sealed_word separator (by decide)
  | length value => exact value.sealed_render separator tame
  | fitContent limit =>
      have balanced := (limit.sealed_render separator tame).balanced
      exact Text.sealed_functional (Text.sealed_word separator (by decide)) balanced
        separator.ne_opening

end GridTrack

/-! ### Gradients -/

namespace Position

/-- The parentheses of the calculations are balanced. -/
def Tame : Position → Prop
  | keywords _ _ => True
  | lengths x y => x.Tame ∧ y.Tame
  | keywordLength _ y => y.Tame
  | lengthKeyword x _ => x.Tame

theorem sealed_render {position : Position} (tame : position.Tame) :
    Text.Sealed ',' (render position).toList := by
  have comma : Text.IsSeparator ',' := Or.inr rfl
  have horizontal : ∀ keyword : HorizontalKeyword, Text.Sealed ',' (render keyword).toList := by
    intro keyword
    exact Text.sealed_word comma (by cases keyword <;> decide)
  have vertical : ∀ keyword : VerticalKeyword, Text.Sealed ',' (render keyword).toList := by
    intro keyword
    exact Text.sealed_word comma (by cases keyword <;> decide)
  cases position with
  | keywords x y => exact Text.sealed_pair (horizontal x) (vertical y)
  | lengths x y =>
      exact Text.sealed_pair (x.sealed_render comma tame.1) (y.sealed_render comma tame.2)
  | keywordLength x y => exact Text.sealed_pair (horizontal x) (y.sealed_render comma tame)
  | lengthKeyword x y => exact Text.sealed_pair (x.sealed_render comma tame) (vertical y)

end Position

namespace RadialSize

/-- The parentheses of the calculations are balanced. -/
def Tame : RadialSize → Prop
  | explicit width height => width.Tame ∧ height.Tame
  | closestSide | farthestSide | closestCorner | farthestCorner => True

theorem sealed_render {size : RadialSize} (tame : size.Tame) :
    Text.Sealed ',' (render size).toList := by
  have comma : Text.IsSeparator ',' := Or.inr rfl
  cases size with
  | explicit width height =>
      exact Text.sealed_pair (width.sealed_render comma tame.1) (height.sealed_render comma tame.2)
  | _ => exact Text.sealed_word comma (by decide)

end RadialSize

namespace GradientStop

/-- The color is tame, and the parentheses of the calculations are balanced. -/
structure Tame (stop : GradientStop) : Prop where
  color : stop.color.Tame ','
  positions : ∀ position ∈ stop.positions, position.Tame

theorem sealed_render {stop : GradientStop} (tame : stop.Tame) :
    Text.Sealed ',' (render stop).toList := by
  apply Text.sealed_spaced
  intro part member
  rcases List.mem_cons.mp member with rfl | written
  · exact stop.color.sealed_render (Or.inr rfl) tame.color
  · obtain ⟨position, listed, rfl⟩ := List.mem_map.mp written
    exact position.sealed_render (Or.inr rfl) (tame.positions position listed)

end GradientStop

namespace Gradient

/-- The parentheses of the calculations in the size and the position are balanced. -/
def TameGeometry : Gradient → Prop
  | linear _ _ => True
  | radial _ size position _ => size.Tame ∧ position.Tame
  | conic _ position _ => position.Tame

/-- The geometry of a gradient stands between commas as one part. -/
theorem sealed_geometry {gradient : Gradient} (tame : gradient.TameGeometry) :
    Text.Sealed ',' gradient.geometry.toList := by
  have comma : Text.IsSeparator ',' := Or.inr rfl
  cases gradient with
  | linear angle stops => exact angle.shows.sealed comma
  | radial shape size position stops =>
      apply Text.sealed_spaced
      intro part member
      simp only [List.mem_cons, List.not_mem_nil, or_false] at member
      rcases member with rfl | rfl | rfl | rfl
      · exact Text.sealed_word comma (by cases shape <;> decide)
      · exact size.sealed_render tame.1
      · decide
      · exact position.sealed_render tame.2
  | conic angle position stops =>
      apply Text.sealed_spaced
      intro part member
      simp only [List.mem_cons, List.not_mem_nil, or_false] at member
      rcases member with rfl | rfl | rfl | rfl
      · decide
      · exact angle.shows.sealed comma
      · decide
      · exact position.sealed_render tame

end Gradient

/-! ### Lists -/

namespace Filter

variable {filter first second : Filter}

/-- A filter is split into its functions at the spaces outside of parentheses. -/
theorem splitOutside_render (present : filter.functions ≠ [])
    (tame : ∀ function ∈ filter.functions, function.Tame) :
    Text.splitOutside " " (render filter) = filter.functions.map render := by
  apply Text.splitOutside_orNone (rfl : " ".toList = [' ']) present
  intro function member
  exact function.sealed_render (tame function member)

/-- Only a filter without functions is written `none`. -/
theorem render_eq_none_iff : render filter = "none" ↔ filter.functions = [] := by
  apply Text.orNone_render_eq_none_iff (by decide : '(' ∉ "none".toList)
  intro function _
  exact Text.parenthesis_mem_functional function.name function.argument

/-- A sum of filters has the functions of its terms, in order. -/
theorem functions_add (first second : Filter) :
    (first + second).functions = first.functions ++ second.functions := rfl

/-- A sum of filters is split into the functions of its terms. -/
theorem splitOutside_add (firstPresent : first.functions ≠ [])
    (secondPresent : second.functions ≠ [])
    (firstTame : ∀ function ∈ first.functions, function.Tame)
    (secondTame : ∀ function ∈ second.functions, function.Tame) :
    Text.splitOutside " " (render (first + second)) =
      Text.splitOutside " " (render first) ++ Text.splitOutside " " (render second) := by
  have tame : ∀ function ∈ (first + second).functions, function.Tame := by
    rw [functions_add]
    exact List.forall_mem_append.mpr ⟨firstTame, secondTame⟩
  have present : (first + second).functions ≠ [] :=
    List.append_ne_nil_of_left_ne_nil firstPresent second.functions
  rw [splitOutside_render present tame, splitOutside_render firstPresent firstTame,
    splitOutside_render secondPresent secondTame, functions_add, List.map_append]

/-- A filter without steps adds nothing on either side. -/
theorem add_of_render_eq_none (empty : render first = "none") :
    first + second = second ∧ second + first = second := by
  rw [render_eq_none_iff] at empty
  cases first with
  | mk functions =>
      subst empty
      exact ⟨rfl, congrArg Filter.mk (List.append_nil second.functions)⟩

end Filter

namespace BoxShadow

variable {boxShadow : BoxShadow}

/-- A box shadow is split into its shadows at the commas outside of parentheses. -/
theorem splitOutside_render (present : boxShadow.shadows ≠ [])
    (tame : ∀ shadow ∈ boxShadow.shadows, shadow.Tame ',') :
    Text.splitOutside ", " (render boxShadow) = boxShadow.shadows.map render := by
  apply Text.splitOutside_orNone (rfl : ", ".toList = [',', ' ']) present
  intro shadow member
  exact Shadow.sealed_render (tame shadow member)

/-- Only a box shadow without shadows is written `none`. -/
theorem render_eq_none_iff : render boxShadow = "none" ↔ boxShadow.shadows = [] := by
  apply Text.orNone_render_eq_none_iff (by decide : ' ' ∉ "none".toList)
  intro shadow _
  change ' ' ∈ (Text.spaced shadow.fields).toList
  rw [Shadow.fields]
  cases shadow.inset <;> exact Text.mem_spaced _ _ _

end BoxShadow

namespace TextShadows

variable {textShadows : TextShadows}

/-- Text shadows are split apart at the commas outside of parentheses. -/
theorem splitOutside_render (present : textShadows.shadows ≠ [])
    (tame : ∀ shadow ∈ textShadows.shadows, shadow.Tame ',') :
    Text.splitOutside ", " (render textShadows) = textShadows.shadows.map render := by
  apply Text.splitOutside_orNone (rfl : ", ".toList = [',', ' ']) present
  intro shadow member
  exact TextShadow.sealed_render (tame shadow member)

/-- Only the empty list of text shadows is written `none`. -/
theorem render_eq_none_iff : render textShadows = "none" ↔ textShadows.shadows = [] := by
  apply Text.orNone_render_eq_none_iff (by decide : ' ' ∉ "none".toList)
  intro shadow _
  exact Text.mem_spaced _ _ _

end TextShadows

namespace Transitions

variable {list : Transitions}

/-- Transitions are split apart at the commas outside of parentheses. -/
theorem splitOutside_render (present : list.transitions ≠ [])
    (tame : ∀ transition ∈ list.transitions, transition.property.Tame ',') :
    Text.splitOutside ", " (render list) = list.transitions.map render := by
  apply Text.splitOutside_orNone (rfl : ", ".toList = [',', ' ']) present
  intro transition member
  exact Transition.sealed_render (tame transition member)

/-- Only the empty list of transitions is written `none`. -/
theorem render_eq_none_iff : render list = "none" ↔ list.transitions = [] := by
  apply Text.orNone_render_eq_none_iff (by decide : ' ' ∉ "none".toList)
  intro transition _
  exact Text.mem_spaced _ _ _

end Transitions

namespace GridTemplate

variable {tracks : List GridTrack}

/-- A template is split into its tracks at the spaces outside of parentheses. -/
theorem splitOutside_render_tracks (present : tracks ≠ [])
    (tame : ∀ track ∈ tracks, track.Tame) :
    Text.splitOutside " " (render (GridTemplate.tracks tracks)) = tracks.map render := by
  apply Text.splitOutside_orNone (rfl : " ".toList = [' ']) present
  intro track member
  exact track.sealed_render (Or.inl rfl) (tame track member)

/-- The tracks that repeat are one argument, behind the one that says how often. -/
theorem isCall_repeated (count : RepeatCount) (present : tracks ≠ [])
    (tame : ∀ track ∈ tracks, track.Tame) :
    ∃ list, Text.IsCall (render (repeated count tracks)) "repeat" [render count, list] ∧
      Text.splitOutside " " list = tracks.map render := by
  have group : Text.Sealed ',' (Text.spaced (tracks.map render)).toList := by
    apply Text.sealed_spaced
    apply Text.sealed_of_mem_map_render
    intro track member
    exact track.sealed_render (Or.inr rfl) (tame track member)
  refine ⟨Text.spaced (tracks.map render), ?_, ?_⟩
  · apply Text.isCall_listed (by decide) (List.cons_ne_nil _ _)
    exact List.forall_mem_cons.mpr
      ⟨count.sealed_render (Or.inr rfl), List.forall_mem_singleton.mpr group⟩
  · apply Text.splitOutside_spaced (Text.map_render_ne_nil present)
    apply Text.sealed_of_mem_map_render
    intro track member
    exact track.sealed_render (Or.inl rfl) (tame track member)

end GridTemplate

/-- A polygon is a call with its points. -/
theorem ClipPath.isCall_polygon {points : List ClipPoint} (present : points ≠ [])
    (tame : ∀ point ∈ points, point.Tame) :
    Text.IsCall (render (polygon points)) "polygon" (points.map render) := by
  have parts := Text.map_render_ne_nil present
  have written : render (polygon points) =
      Text.functional "polygon" (Text.listed (points.map render)) := Text.orNone_of_ne_nil parts
  rw [written]
  apply Text.isCall_listed (by decide) parts
  apply Text.sealed_of_mem_map_render
  intro point member
  exact ClipPoint.sealed_render (tame point member)

/-- A gradient is a call with its geometry and its stops. -/
theorem Gradient.isCall_render {gradient : Gradient} (geometryTame : gradient.TameGeometry)
    (tame : ∀ stop ∈ gradient.stops, stop.Tame) :
    Text.IsCall (render gradient) gradient.functionName
      (gradient.geometry :: gradient.stops.map render) := by
  have plain : '(' ∉ gradient.functionName.toList := by
    cases gradient <;> simp only [functionName] <;> decide
  apply Text.isCall_listed plain (List.cons_ne_nil _ _)
  intro part member
  rcases List.mem_cons.mp member with rfl | written
  · exact sealed_geometry geometryTame
  · obtain ⟨stop, listed, rfl⟩ := List.mem_map.mp written
    exact GradientStop.sealed_render (tame stop listed)

/-- **A list is split into its elements.** Of filters, shadows and transitions just the empty ones
are `none`, and those with elements are split into these at the separators outside of parentheses,
as the tracks of a template are.  Directly inside its parentheses a repetition has the count and one
list of its tracks, a polygon has its points, and a gradient has its geometry and then its colors.
The steps of a sum of filters are those of both filters, and a filter that is `none` vanishes from
it. -/
theorem splits_into_elements :
    (∀ filter : Filter, (render filter = "none" ↔ filter.functions = []) ∧
      (filter.functions ≠ [] → (∀ function ∈ filter.functions, function.Tame) →
        Text.splitOutside " " (render filter) = filter.functions.map render)) ∧
      (∀ boxShadow : BoxShadow, (render boxShadow = "none" ↔ boxShadow.shadows = []) ∧
        (boxShadow.shadows ≠ [] → (∀ shadow ∈ boxShadow.shadows, shadow.Tame ',') →
          Text.splitOutside ", " (render boxShadow) = boxShadow.shadows.map render)) ∧
      (∀ textShadows : TextShadows, (render textShadows = "none" ↔ textShadows.shadows = []) ∧
        (textShadows.shadows ≠ [] → (∀ shadow ∈ textShadows.shadows, shadow.Tame ',') →
          Text.splitOutside ", " (render textShadows) = textShadows.shadows.map render)) ∧
      (∀ list : Transitions, (render list = "none" ↔ list.transitions = []) ∧
        (list.transitions ≠ [] →
          (∀ transition ∈ list.transitions, transition.property.Tame ',') →
          Text.splitOutside ", " (render list) = list.transitions.map render)) ∧
      (∀ tracks : List GridTrack, tracks ≠ [] → (∀ track ∈ tracks, track.Tame) →
        Text.splitOutside " " (render (GridTemplate.tracks tracks)) = tracks.map render ∧
          ∀ count : RepeatCount, ∃ list,
            Text.IsCall (render (GridTemplate.repeated count tracks)) "repeat"
              [render count, list] ∧
            Text.splitOutside " " list = tracks.map render) ∧
      (∀ points : List ClipPoint, points ≠ [] → (∀ point ∈ points, point.Tame) →
        Text.IsCall (render (ClipPath.polygon points)) "polygon" (points.map render)) ∧
      (∀ gradient : Gradient, gradient.TameGeometry → (∀ stop ∈ gradient.stops, stop.Tame) →
        Text.IsCall (render gradient) gradient.functionName
          (gradient.geometry :: gradient.stops.map render)) ∧
      (∀ first second : Filter, (∀ function ∈ first.functions, function.Tame) →
        (∀ function ∈ second.functions, function.Tame) →
        first.functions ≠ [] → second.functions ≠ [] →
        Text.splitOutside " " (render (first + second)) =
          Text.splitOutside " " (render first) ++ Text.splitOutside " " (render second)) ∧
      ∀ first second : Filter, render first = "none" →
        render (first + second) = render second ∧ render (second + first) = render second := by
  refine ⟨?_, ?_, ?_, ?_, ?_, ?_, ?_, ?_, ?_⟩
  · intro filter
    exact ⟨Filter.render_eq_none_iff, Filter.splitOutside_render⟩
  · intro boxShadow
    exact ⟨BoxShadow.render_eq_none_iff, BoxShadow.splitOutside_render⟩
  · intro textShadows
    exact ⟨TextShadows.render_eq_none_iff, TextShadows.splitOutside_render⟩
  · intro list
    exact ⟨Transitions.render_eq_none_iff, Transitions.splitOutside_render⟩
  · intro tracks present tame
    refine ⟨GridTemplate.splitOutside_render_tracks present tame, ?_⟩
    intro count
    exact GridTemplate.isCall_repeated count present tame
  · intro points present tame
    exact ClipPath.isCall_polygon present tame
  · intro gradient geometryTame tame
    exact Gradient.isCall_render geometryTame tame
  · intro first second firstTame secondTame firstPresent secondPresent
    exact Filter.splitOutside_add firstPresent secondPresent firstTame secondTame
  · intro first second empty
    obtain ⟨before, behind⟩ := Filter.add_of_render_eq_none empty
    rw [before, behind]
    exact ⟨rfl, rfl⟩

/-- The spaces and commas in calculations, colors, references and timing functions part nothing. -/
theorem splits_into_elements_nested :
    let calculation := Length.calculation "min(1px, 2em) * 3"
    let steps : Filter := ⟨[.dropShadow calculation .zero .auto (.rgb 1 2 3), .url "a(b, c) d"]⟩
    let sepia : Filter := ⟨[.sepia .nan]⟩
    let tracks := [GridTrack.minmax calculation .auto, .fraction 0, .fitContent calculation]
    Text.splitOutside " " (render (steps + sepia)) =
      ["drop-shadow(calc(min(1px, 2em) * 3) 0.0px auto rgb(1, 2, 3))", "url(a(b, c) d)",
        "sepia(NaN%)"] ∧
      render (steps + ⟨[]⟩) = render steps ∧
      Text.splitOutside ", " (render (BoxShadow.mk
        [⟨calculation, .zero, .zero, .auto, .hex "#fff", true⟩,
          ⟨.auto, .auto, .auto, .auto, .rgb 1 2 3, false⟩])) =
      ["inset calc(min(1px, 2em) * 3) 0.0px 0.0px auto #fff", "auto auto auto auto rgb(1, 2, 3)"] ∧
      Text.splitOutside ", " (render (TextShadows.mk [⟨.zero, .auto, calculation, .rgb 1 2 3⟩])) =
      ["0.0px auto calc(min(1px, 2em) * 3) rgb(1, 2, 3)"] ∧
      Text.splitOutside ", " (render (Transitions.mk
        [⟨.custom "--tint", .seconds 0, .cubicBezier 0 .nan 0 0, none⟩,
          ⟨.all, .seconds 0, .steps 3 .atEnd, some (.milliseconds 0)⟩])) =
      ["--tint 0.0s cubic-bezier(0.0, NaN, 0.0, 0.0)", "all 0.0s steps(3, end) 0.0ms"] ∧
      Text.splitOutside " " (render (GridTemplate.tracks tracks)) =
      ["minmax(calc(min(1px, 2em) * 3), auto)", "0.0fr", "fit-content(calc(min(1px, 2em) * 3))"] ∧
      (∃ list, Text.IsCall (render (GridTemplate.repeated (.count 3) tracks)) "repeat" ["3", list] ∧
        Text.splitOutside " " list = ["minmax(calc(min(1px, 2em) * 3), auto)", "0.0fr",
          "fit-content(calc(min(1px, 2em) * 3))"]) ∧
      Text.IsCall (render (ClipPath.polygon [⟨.zero, calculation⟩, ⟨.auto, .zero⟩])) "polygon"
        ["0.0px calc(min(1px, 2em) * 3)", "auto 0.0px"] ∧
      Text.IsCall (render (Gradient.radial .circle (.explicit .zero calculation) .center
        [⟨.rgb 1 2 3, [.zero, calculation]⟩, ⟨.transparent, []⟩])) "radial-gradient"
        ["circle 0.0px calc(min(1px, 2em) * 3) at center center",
          "rgb(1, 2, 3) 0.0px calc(min(1px, 2em) * 3)", "transparent"] := by
  intro calculation steps sepia tracks
  have tame : calculation.Tame := by decide
  have stepsTame : ∀ function ∈ steps.functions, function.Tame :=
    List.forall_mem_cons.mpr ⟨⟨tame, trivial, trivial, trivial⟩,
      List.forall_mem_singleton.mpr (by decide : Text.Balanced "a(b, c) d".toList)⟩
  have sepiaTame : ∀ function ∈ sepia.functions, function.Tame :=
    List.forall_mem_singleton.mpr trivial
  have tracksTame : ∀ track ∈ tracks, track.Tame :=
    List.forall_mem_cons.mpr ⟨⟨tame, trivial⟩,
      List.forall_mem_cons.mpr ⟨trivial, List.forall_mem_singleton.mpr tame⟩⟩
  have white : (Color.hex "#fff").Tame ',' := by decide
  have tint : (TransitionProperty.custom "--tint").Tame ',' := by decide
  obtain ⟨filter, boxShadow, textShadows, transitions, template, polygon, gradient, sum, vanish⟩ :=
    splits_into_elements
  have tracksPresent : tracks ≠ [] := List.cons_ne_nil _ _
  refine ⟨?_, (vanish ⟨[]⟩ steps rfl).2, ?_, ?_, ?_, ?_, ?_, ?_, ?_⟩
  · rw [sum steps sepia stepsTame sepiaTame (List.cons_ne_nil _ _) (List.cons_ne_nil _ _),
      (filter steps).2 (List.cons_ne_nil _ _) stepsTame,
      (filter sepia).2 (List.cons_ne_nil _ _) sepiaTame]
    rfl
  · apply (boxShadow _).2 (List.cons_ne_nil _ _)
    exact List.forall_mem_cons.mpr ⟨⟨tame, trivial, trivial, trivial, white⟩,
      List.forall_mem_singleton.mpr ⟨trivial, trivial, trivial, trivial, trivial⟩⟩
  · apply (textShadows _).2 (List.cons_ne_nil _ _)
    exact List.forall_mem_singleton.mpr ⟨trivial, trivial, tame, trivial⟩
  · apply (transitions _).2 (List.cons_ne_nil _ _)
    exact List.forall_mem_cons.mpr ⟨tint, List.forall_mem_singleton.mpr trivial⟩
  · exact (template tracks tracksPresent tracksTame).1
  · exact (template tracks tracksPresent tracksTame).2 (.count 3)
  · apply polygon _ (List.cons_ne_nil _ _)
    exact List.forall_mem_cons.mpr
      ⟨⟨trivial, tame⟩, List.forall_mem_singleton.mpr ⟨trivial, trivial⟩⟩
  · apply gradient
    · exact ⟨⟨trivial, tame⟩, trivial⟩
    · exact List.forall_mem_cons.mpr
        ⟨⟨trivial, List.forall_mem_cons.mpr ⟨trivial, List.forall_mem_singleton.mpr tame⟩⟩,
          List.forall_mem_singleton.mpr ⟨trivial, List.forall_mem_nil _⟩⟩

end CssValue
