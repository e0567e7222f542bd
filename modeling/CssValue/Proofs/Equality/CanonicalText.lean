import CssValue.Box.Border
import CssValue.Box.Edges
import CssValue.Effect.ClipPath
import CssValue.Effect.Filter
import CssValue.Effect.Shadow
import CssValue.Grid.Placement
import CssValue.Grid.Template
import CssValue.Motion.Animation
import CssValue.Motion.Keyframes
import CssValue.Motion.Transition
import CssValue.Paint.Background
import CssValue.Placement.ObjectPosition
import CssValue.Proofs.Equality.SignedZero
import CssValue.Proofs.Quantity.LengthText
import CssValue.Quantity.LengthArithmetic

/-!
# The canonical text of equal values

Values that are equal may differ in the signs of the zeros in them, and a zero is written with its
sign.  If the zeros agree, then equal values are the same and have one text.  This holds for every
type of values that are compared and written.  For lengths the condition is exact.  The gaps of a
grid are written once if they are equal, and under this condition the one text is that of both.
-/

namespace CssValue

open Json (ZerosAgree)

namespace LawfulUpToZeros

/-! ### Types of values -/

instance : LawfulUpToZeros Length where

instance : LawfulUpToZeros Angle where

instance : LawfulUpToZeros Time where

instance : LawfulUpToZeros Color where

/-- The two ways to mix a keyword with a length stand behind a tag of their own. -/
instance : LawfulUpToZeros Position where
  eq_of_beq {first second} same agree := by
    cases first <;> cases second <;> try exact (Bool.false_ne_true same).elim
    case keywords.keywords | lengths.lengths =>
      obtain ⟨rfl, same, agree⟩ := eq_and_rest same agree.1
      exact congr_part same agree.1
    case keywordLength.keywordLength | lengthKeyword.lengthKeyword =>
      obtain ⟨rfl, same, agree⟩ := eq_and_rest same agree.1.1
      exact congr_part same agree.1

instance : LawfulUpToZeros PositionValue where

instance : LawfulUpToZeros ObjectPosition where

instance : LawfulUpToZeros GradientStop where

instance : LawfulUpToZeros RadialSize where

instance : LawfulUpToZeros Gradient where

instance : LawfulUpToZeros Image where

instance : LawfulUpToZeros BackgroundSize where

instance : LawfulUpToZeros BackgroundShorthand where

instance : LawfulUpToZeros Background where

instance : LawfulUpToZeros TransformFunction where

instance : LawfulUpToZeros ClipPoint where

instance : LawfulUpToZeros ClipPath where

instance : LawfulUpToZeros FilterFunction where

instance : LawfulUpToZeros Filter where

instance : LawfulUpToZeros Shadow where

instance : LawfulUpToZeros BoxShadow where

instance : LawfulUpToZeros TextShadow where

instance : LawfulUpToZeros TextShadows where

instance : LawfulUpToZeros GridTrack where

instance : LawfulUpToZeros GridTemplate where

instance : LawfulUpToZeros GridTemplateAreas where

instance : LawfulUpToZeros GridAuto where

instance : LawfulUpToZeros GridGap where

instance : LawfulUpToZeros TimingFunction where

instance : LawfulUpToZeros IterationCount where

instance : LawfulUpToZeros Animation where

instance : LawfulUpToZeros KeyframeSelector where

instance : LawfulUpToZeros Keyframes where

instance : LawfulUpToZeros Transition where

instance : LawfulUpToZeros Transitions where

instance : LawfulUpToZeros BorderWidth where

instance : LawfulUpToZeros BorderRadius where

instance : LawfulUpToZeros Border where

instance : LawfulUpToZeros Outline where

instance : LawfulUpToZeros BoxEdges where

end LawfulUpToZeros

namespace Transform

mutual

/-- Equal transforms are the same if their zeros agree in sign. -/
theorem eq_of_beq (first second : Transform) (same : beq first second)
    (agree : ZerosAgree first.toJson second.toJson) : first = second := by
  cases first with
  | none =>
      cases second with
      | none => rfl
      | _ => cases same
  | function f =>
      cases second with
      | function g => exact LawfulUpToZeros.congr_part same agree
      | _ => cases same
  | compound members =>
      cases second with
      | compound others => exact congrArg compound (eq_of_beqAll members others same agree.1)
      | _ => cases same

theorem eq_of_beqAll (members others : List Transform) (same : beqAll members others)
    (agree : Json.ZerosAgreeAll (toJsonAll members) (toJsonAll others)) : members = others := by
  cases members with
  | nil =>
      cases others with
      | nil => rfl
      | cons => cases same
  | cons member rest =>
      cases others with
      | nil => cases same
      | cons other later =>
          obtain ⟨first, following⟩ := Bool.and_eq_true_iff.mp same
          rw [eq_of_beq member other first agree.1, eq_of_beqAll rest later following agree.2]

end

instance : LawfulUpToZeros Transform := ⟨fun {first second} => eq_of_beq first second⟩

end Transform

/-! ### Kinds of values -/

/-- A type of values that are compared, written and interchanged. -/
structure Kind where
  Carrier : Type
  [compare : BEq Carrier]
  [write : Render Carrier]
  [interchange : Encode Carrier]

attribute [instance] Kind.compare Kind.write Kind.interchange

namespace Kind

/-- The types of values that are compared and written. -/
def all : List Kind :=
  [⟨WideKeyword⟩, ⟨Length⟩, ⟨LengthUnit⟩, ⟨SizeKeyword⟩, ⟨Angle⟩, ⟨Time⟩, ⟨Color⟩, ⟨NamedColor⟩,
    ⟨SystemColor⟩, ⟨Position⟩, ⟨HorizontalKeyword⟩, ⟨VerticalKeyword⟩, ⟨PositionKeyword⟩,
    ⟨PositionValue⟩, ⟨ObjectPosition⟩, ⟨Image⟩, ⟨Gradient⟩, ⟨GradientStop⟩, ⟨RadialShape⟩,
    ⟨RadialSize⟩, ⟨Background⟩, ⟨BackgroundShorthand⟩, ⟨BackgroundSize⟩, ⟨SizeFit⟩,
    ⟨BackgroundRepeat⟩, ⟨BackgroundAttachment⟩, ⟨BackgroundOrigin⟩, ⟨BackgroundClip⟩,
    ⟨CompositeOperator⟩, ⟨Transform⟩, ⟨ClipPath⟩, ⟨ClipPoint⟩, ⟨Filter⟩, ⟨FilterFunction⟩,
    ⟨Shadow⟩, ⟨BoxShadow⟩, ⟨TextShadow⟩, ⟨TextShadows⟩, ⟨GridTemplate⟩, ⟨RepeatCount⟩,
    ⟨GridTrack⟩, ⟨GridTemplateAreas⟩, ⟨GridAuto⟩, ⟨GridAutoFlow⟩, ⟨GridGap⟩, ⟨GridLine⟩,
    ⟨GridPlacement⟩, ⟨GridArea⟩, ⟨TimingFunction⟩, ⟨StepPosition⟩, ⟨Animation⟩, ⟨IterationCount⟩,
    ⟨Direction⟩, ⟨FillMode⟩, ⟨PlayState⟩, ⟨Keyframes⟩, ⟨KeyframeSelector⟩, ⟨KeyframeProperty⟩,
    ⟨Transition⟩, ⟨TransitionProperty⟩, ⟨Transitions⟩, ⟨Border⟩, ⟨BorderWidth⟩, ⟨BorderStyle⟩,
    ⟨BorderRadius⟩, ⟨Outline⟩, ⟨BoxEdges⟩]

/-- For every kind of value, equality is that of the values but for the signs of zeros. -/
theorem lawfulUpToZeros : ∀ kind ∈ all, LawfulUpToZeros kind.Carrier := by
  simp only [all, List.forall_mem_cons]
  and_intros
  all_goals first | exact List.forall_mem_nil _ | infer_instance

end Kind

/-- Equal values are written alike if their zeros agree in sign. -/
theorem LawfulUpToZeros.render_eq {α : Type} [BEq α] [Encode α] [Render α] [LawfulUpToZeros α]
    {first second : α} (equal : first == second)
    (agree : ZerosAgree (encode first) (encode second)) : render first = render second :=
  congrArg render (eq_of_beq equal agree)

/-- The zeros of lengths that are written alike agree in sign. -/
theorem Length.zerosAgree_of_render_eq {first second : Length}
    (written : render first = render second) : ZerosAgree (encode first) (encode second) := by
  rw [Length.eq_of_render_eq written]
  exact Json.zerosAgree_self _

/-- **Equal values whose zeros agree have one text.** Equal lengths have one text only if their
zeros agree.  Where the gap between rows equals the gap between columns and their zeros agree, the
one text that is written is that of both. -/
theorem equal_values_have_one_text (kind : Kind) (listed : kind ∈ Kind.all) :
    (∀ first second : kind.Carrier, first == second →
      ZerosAgree (encode first) (encode second) → render first = render second) ∧
      (∀ first second : Length, first == second →
        (render first = render second ↔ ZerosAgree (encode first) (encode second))) ∧
      ∀ gap : GridGap, gap.row == gap.column → ZerosAgree (encode gap.row) (encode gap.column) →
        render gap = render gap.row ∧ render gap = render gap.column := by
  refine ⟨?_, ?_, ?_⟩
  · intro first second equal agree
    have lawful := Kind.lawfulUpToZeros kind listed
    exact lawful.render_eq equal agree
  · intro first second equal
    exact ⟨Length.zerosAgree_of_render_eq, LawfulUpToZeros.render_eq equal⟩
  · intro gap equal agree
    have once : render gap = render gap.row := if_pos equal
    exact ⟨once, once.trans (LawfulUpToZeros.render_eq equal agree)⟩

/-- Two transforms with a negative zero, a zero and its negative, and a gap with a negative zero in
both directions. -/
theorem equal_values_have_one_text_negative_zero :
    let negative := Length.px 0 * (-1 : Binary64)
    let computed := Transform.compound [.none, .function (.translate negative (some .zero))]
    let given := Transform.compound
      [.none, .function (.translate (.dimension (.zero true) .px) (some .zero))]
    (⟨Transform⟩ ∈ Kind.all ∧ computed == given ∧ render computed = render given) ∧
      (Length.zero == negative ∧ ¬ ZerosAgree (encode Length.zero) (encode negative)) ∧
      (negative == negative ∧ render (GridGap.mk negative negative) = render negative) := by
  intro negative computed given
  have listed : ⟨Transform⟩ ∈ Kind.all := by simp [Kind.all]
  obtain ⟨transforms, lengths, gaps⟩ := equal_values_have_one_text ⟨Transform⟩ listed
  have alike : computed = given := by
    have zero : negative = .dimension (.zero true) .px := by decide +kernel
    simp only [computed, given, zero]
  have transformsEqual : computed == given := by decide +kernel
  have transformsAgree : ZerosAgree (encode computed) (encode given) :=
    alike ▸ Json.zerosAgree_self _
  have zerosEqual : Length.zero == negative := by decide +kernel
  have negativeEqual : negative == negative := by decide +kernel
  have written : render Length.zero ≠ render negative := by decide +kernel
  refine ⟨⟨listed, transformsEqual, ?_⟩, ⟨zerosEqual, ?_⟩, negativeEqual, ?_⟩
  · exact transforms computed given transformsEqual transformsAgree
  · exact mt (lengths Length.zero negative zerosEqual).mpr written
  · exact (gaps ⟨negative, negative⟩ negativeEqual (Json.zerosAgree_self _)).1

/-- A length of zero is equal to its negative and is written differently.  Two gaps that are equal
to each other are written as their rows, and differently. -/
theorem equal_lengths_written_differently :
    let negative := Length.px 0 * (-1 : Binary64)
    (Length.px 0 == negative ∧ render (Length.px 0) = "0.0px" ∧ render negative = "-0.0px") ∧
      GridGap.mk (.px 0) negative == GridGap.mk negative (.px 0) ∧
      render (GridGap.mk (.px 0) negative) = "0.0px" ∧
      render (GridGap.mk negative (.px 0)) = "-0.0px" := by
  decide +kernel

end CssValue
