import CssValue.Motion.Timing
import CssValue.Quantity.Time
import CssValue.Text.Blank

/-! # Transitions -/

namespace CssValue

/-- The properties that a transition changes gradually. -/
inductive TransitionProperty where
  | all
  | none
  | custom (name : String)
deriving DecidableEq

instance : Render TransitionProperty where
  render
    | .all => "all"
    | .none => "none"
    | .custom name => Text.orIfBlank "none" name

instance : Encode TransitionProperty where
  encode
    | .all => .string "All"
    | .none => .string "None"
    | .custom name => .tagged "Custom" (encode name)

/-- A gradual change. -/
structure Transition where
  property : TransitionProperty
  duration : Time
  timing : TimingFunction
  delay : Option Time
deriving BEq, DecidableEq

namespace Transition

/-- The change of some properties, without a delay. -/
def ofProperty (property : TransitionProperty) (duration : Time) : Transition :=
  ⟨property, duration, .ease, none⟩

/-- The change of no property. -/
def still : Transition := ofProperty .none .zero

def withTiming (transition : Transition) (timing : TimingFunction) : Transition :=
  { transition with timing }

def withDelay (transition : Transition) (delay : Time) : Transition :=
  { transition with delay := some delay }

end Transition

instance : Render Transition where
  render transition := Text.spaced <|
    [render transition.property, render transition.duration, render transition.timing] ++
      Text.part transition.delay

instance : Encode Transition where
  encode transition := .object
    [("property", encode transition.property), ("duration", encode transition.duration),
      ("timing_function", encode transition.timing), ("delay", encode transition.delay)]

structure Transitions where
  transitions : List Transition
deriving BEq, DecidableEq

def Transitions.ofTransition (transition : Transition) : Transitions := ⟨[transition]⟩

instance : Render Transitions where
  render list := Text.orNone Text.listed (list.transitions.map render)

instance : Encode Transitions := ⟨fun list => encode list.transitions⟩

end CssValue
