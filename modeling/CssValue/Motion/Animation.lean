import CssValue.Motion.Timing
import CssValue.Quantity.Time

/-! # Animations -/

namespace CssValue

/-- How often an animation runs. -/
inductive IterationCount where
  | finite (count : Binary64)
  | infinite
deriving BEq, DecidableEq

def IterationCount.once : IterationCount := .finite 1

instance : Render IterationCount where
  render
    | .finite count => render count
    | .infinite => "infinite"

instance : Encode IterationCount where
  encode
    | .finite count => .tagged "Finite" (encode count)
    | .infinite => .string "Infinite"

inductive Direction where
  | normal | reverse | alternate | alternateReverse
deriving DecidableEq

instance : Keyword Direction where
  all := [.normal, .reverse, .alternate, .alternateReverse]
  token
    | .normal => "normal"
    | .reverse => "reverse"
    | .alternate => "alternate"
    | .alternateReverse => "alternate-reverse"

/-- The runs for which an animation shows outside its time. -/
inductive FillMode where
  | none | forwards | backwards | both
deriving DecidableEq

instance : Keyword FillMode where
  all := [.none, .forwards, .backwards, .both]
  token
    | .none => "none"
    | .forwards => "forwards"
    | .backwards => "backwards"
    | .both => "both"

/-- Whether an animation moves. -/
inductive PlayState where
  | running | paused
deriving DecidableEq

instance : Keyword PlayState where
  all := [.running, .paused]
  token
    | .running => "running"
    | .paused => "paused"

/-- The use of a named animation. -/
structure Animation where
  name : String
  duration : Time
  timing : TimingFunction
  delay : Time
  iterations : IterationCount
  direction : Direction
  fill : FillMode
  playState : PlayState
deriving BEq, DecidableEq

namespace Animation

/-- One run of a named animation, started at once. -/
def ofName (name : String) (duration : Time) : Animation :=
  ⟨name, duration, .ease, .zero, .once, .normal, .none, .running⟩

def withTiming (animation : Animation) (timing : TimingFunction) : Animation :=
  { animation with timing }

def withDelay (animation : Animation) (delay : Time) : Animation := { animation with delay }

def withIterations (animation : Animation) (iterations : IterationCount) : Animation :=
  { animation with iterations }

def withDirection (animation : Animation) (direction : Direction) : Animation :=
  { animation with direction }

def withFill (animation : Animation) (fill : FillMode) : Animation := { animation with fill }

def withPlayState (animation : Animation) (playState : PlayState) : Animation :=
  { animation with playState }

end Animation

instance : Render Animation where
  render animation := Text.spaced
    [animation.name, render animation.duration, render animation.timing, render animation.delay,
      render animation.iterations, render animation.direction, render animation.fill,
      render animation.playState]

instance : Encode Animation where
  encode animation := .object
    [("name", encode animation.name), ("duration", encode animation.duration),
      ("timing_function", encode animation.timing), ("delay", encode animation.delay),
      ("iteration_count", encode animation.iterations), ("direction", encode animation.direction),
      ("fill_mode", encode animation.fill), ("play_state", encode animation.playState)]

end CssValue
