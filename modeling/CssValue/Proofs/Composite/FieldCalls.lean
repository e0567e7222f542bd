import CssValue.Effect.ClipPath
import CssValue.Effect.Shadow
import CssValue.Motion.Animation
import CssValue.Motion.Transition
import CssValue.Placement.ObjectPosition
import CssValue.Proofs.Composite.Builder

/-!
# The fields that calls set

Animations, transitions, shadows, styles of replaced content and clipping paths are built up by
calls.  For each of them a table says which field a call sets, and the value that the call builds is
compared with the table field by field.  A clipping path takes a center only if it is a circle or an
ellipse, and a rounding only if it is an inset.
-/

namespace CssValue

open Builder (callAll SetsOwnFields setsOwnFields)

/-! ### Animations -/

namespace Animation

inductive Call where
  | timing (timing : TimingFunction)
  | delay (delay : Time)
  | iterations (iterations : IterationCount)
  | direction (direction : Direction)
  | fill (fill : FillMode)
  | playState (playState : PlayState)

inductive Field where
  | name | duration | timing | delay | iterations | direction | fill | playState

instance : Builder Animation where
  Call := Call
  Field := Field
  Value
    | .name => String
    | .duration => Time
    | .timing => TimingFunction
    | .delay => Time
    | .iterations => IterationCount
    | .direction => Direction
    | .fill => FillMode
    | .playState => PlayState
  call animation
    | .timing timing => animation.withTiming timing
    | .delay delay => animation.withDelay delay
    | .iterations iterations => animation.withIterations iterations
    | .direction direction => animation.withDirection direction
    | .fill fill => animation.withFill fill
    | .playState playState => animation.withPlayState playState
  read animation
    | .name => animation.name
    | .duration => animation.duration
    | .timing => animation.timing
    | .delay => animation.delay
    | .iterations => animation.iterations
    | .direction => animation.direction
    | .fill => animation.fill
    | .playState => animation.playState
  argument? _
    | .timing timing, .timing => some timing
    | .delay delay, .delay => some delay
    | .iterations iterations, .iterations => some iterations
    | .direction direction, .direction => some direction
    | .fill fill, .fill => some fill
    | .playState playState, .playState => some playState
    | _, _ => none

instance : LawfulBuilder Animation where
  read_call _ call field := by cases call <;> cases field <;> rfl
  argument?_call _ _ _ _ := rfl
  eq_of_read {first second} same := by
    cases first
    cases second
    rw [Animation.mk.injEq]
    exact ⟨same .name, same .duration, same .timing, same .delay, same .iterations,
      same .direction, same .fill, same .playState⟩

end Animation

/-! ### Transitions -/

namespace Transition

inductive Call where
  | timing (timing : TimingFunction)
  | delay (delay : Time)

inductive Field where
  | property | duration | timing | delay

instance : Builder Transition where
  Call := Call
  Field := Field
  Value
    | .property => TransitionProperty
    | .duration => Time
    | .timing => TimingFunction
    | .delay => Option Time
  call transition
    | .timing timing => transition.withTiming timing
    | .delay delay => transition.withDelay delay
  read transition
    | .property => transition.property
    | .duration => transition.duration
    | .timing => transition.timing
    | .delay => transition.delay
  argument? _
    | .timing timing, .timing => some timing
    | .delay delay, .delay => some (some delay)
    | _, _ => none

instance : LawfulBuilder Transition where
  read_call _ call field := by cases call <;> cases field <;> rfl
  argument?_call _ _ _ _ := rfl
  eq_of_read {first second} same := by
    cases first
    cases second
    rw [Transition.mk.injEq]
    exact ⟨same .property, same .duration, same .timing, same .delay⟩

end Transition

/-! ### Shadows -/

namespace Shadow

/-- One call sets both offsets, and a shadow is moved inside the box without an argument. -/
inductive Call where
  | offset (x y : Length)
  | blur (radius : Length)
  | spread (radius : Length)
  | inside

inductive Field where
  | offsetX | offsetY | blurRadius | spreadRadius | color | inset

instance : Builder Shadow where
  Call := Call
  Field := Field
  Value
    | .offsetX | .offsetY | .blurRadius | .spreadRadius => Length
    | .color => Color
    | .inset => Bool
  call shadow
    | .offset x y => shadow.withOffset x y
    | .blur radius => shadow.withBlur radius
    | .spread radius => shadow.withSpread radius
    | .inside => shadow.inside
  read shadow
    | .offsetX => shadow.offsetX
    | .offsetY => shadow.offsetY
    | .blurRadius => shadow.blurRadius
    | .spreadRadius => shadow.spreadRadius
    | .color => shadow.color
    | .inset => shadow.inset
  argument? _
    | .offset x _, .offsetX => some x
    | .offset _ y, .offsetY => some y
    | .blur radius, .blurRadius => some radius
    | .spread radius, .spreadRadius => some radius
    | .inside, .inset => some true
    | _, _ => none

instance : LawfulBuilder Shadow where
  read_call _ call field := by cases call <;> cases field <;> rfl
  argument?_call _ _ _ _ := rfl
  eq_of_read {first second} same := by
    cases first
    cases second
    rw [Shadow.mk.injEq]
    exact ⟨same .offsetX, same .offsetY, same .blurRadius, same .spreadRadius, same .color,
      same .inset⟩

end Shadow

/-! ### Styles of replaced content -/

instance : Builder ObjectStyle where
  Call := ObjectPosition
  Field := Unit
  Value _ := ObjectPosition
  call := ObjectStyle.withPosition
  read style _ := style.position
  argument? _ position _ := some position

instance : LawfulBuilder ObjectStyle where
  read_call _ _ _ := rfl
  argument?_call _ _ _ _ := rfl
  eq_of_read {first second} same := by
    cases first
    cases second
    rw [ObjectStyle.mk.injEq]
    exact same ()

/-! ### Clipping paths -/

namespace ClipPath

inductive Call where
  | center (point : ClipPoint)
  | round (radius : Length)

inductive Field where
  | shape | center | round

/-- The shape with a center and a rounding, as far as it has a place for them. -/
def withParts (path : ClipPath) (center : Option ClipPoint) (round : Option Length) : ClipPath :=
  match path with
  | circle radius _ => circle radius center
  | ellipse radiusX radiusY _ => ellipse radiusX radiusY center
  | inset top right bottom left _ => inset top right bottom left round
  | other => other

/-- The path without its center and without its rounding. -/
def shape (path : ClipPath) : ClipPath := path.withParts .none .none

def center? : ClipPath → Option ClipPoint
  | circle _ center | ellipse _ _ center => center
  | _ => .none

def round? : ClipPath → Option Length
  | inset _ _ _ _ round => round
  | _ => .none

/-- Circles and ellipses have a center. -/
def hasCenter : ClipPath → Bool
  | circle _ _ | ellipse _ _ _ => true
  | _ => false

/-- Insets have corners. -/
def hasCorners : ClipPath → Bool
  | inset _ _ _ _ _ => true
  | _ => false

/-- A clip path is its shape with its center and its corners. -/
theorem withParts_shape (path : ClipPath) :
    path.shape.withParts path.center? path.round? = path := by
  cases path <;> rfl

/-- A shape without a center ignores one. -/
theorem centeredAt_of_no_center {path : ClipPath} (absent : path.hasCenter = false)
    (point : ClipPoint) : path.centeredAt point = path := by
  cases path with
  | circle radius center => cases absent
  | ellipse radiusX radiusY center => cases absent
  | _ => rfl

/-- A shape without corners ignores a radius. -/
theorem rounded_of_no_corners {path : ClipPath} (absent : path.hasCorners = false)
    (radius : Length) : path.rounded radius = path := by
  cases path with
  | inset top right bottom left round => cases absent
  | _ => rfl

instance : Builder ClipPath where
  Call := Call
  Field := Field
  Value
    | .shape => ClipPath
    | .center => Option ClipPoint
    | .round => Option Length
  call path
    | .center point => path.centeredAt point
    | .round radius => path.rounded radius
  read path
    | .shape => path.shape
    | .center => path.center?
    | .round => path.round?
  argument? path
    | .center point, .center => if path.hasCenter then some (some point) else .none
    | .round radius, .round => if path.hasCorners then some (some radius) else .none
    | _, _ => .none

instance : LawfulBuilder ClipPath where
  read_call path call field := by cases path <;> cases call <;> cases field <;> rfl
  argument?_call path call next field := by cases path <;> cases call <;> rfl
  eq_of_read {first second} same := by
    have shapes : first.shape = second.shape := same .shape
    have centers : first.center? = second.center? := same .center
    have rounds : first.round? = second.round? := same .round
    rw [← first.withParts_shape, shapes, centers, rounds, second.withParts_shape]

/-- No call sets the shape. -/
theorem shape_callAll (path : ClipPath) (calls : List Call) :
    (callAll path calls).shape = path.shape := by
  have unset : Builder.arguments path calls Field.shape = [] := by
    rw [Builder.arguments, List.filterMap_eq_nil_iff]
    intro call _
    cases call <;> rfl
  have last := Builder.read_callAll path calls Field.shape
  rwa [unset] at last

/-- A shape with neither ignores every call. -/
theorem callAll_of_plain {path : ClipPath} (noCenter : path.hasCenter = false)
    (noCorners : path.hasCorners = false) (calls : List Call) : callAll path calls = path := by
  induction calls with
  | nil => rfl
  | cons call rest ih =>
      cases call with
      | center point =>
          change callAll (path.centeredAt point) rest = path
          rw [centeredAt_of_no_center noCenter, ih]
      | round radius =>
          change callAll (path.rounded radius) rest = path
          rw [rounded_of_no_corners noCorners, ih]

end ClipPath

/-- **Calls set their own fields.** However an animation, a transition, a shadow, a style or a
clipping path is built up by calls, each of its fields holds the argument of the last call that sets
it, or what it held at the start, and calls that set no field in common may be made in either order.
A clipping path keeps its shape: only circles and ellipses are given a center and only insets a
rounding, and all other paths stay as they are. -/
theorem calls_set_their_fields :
    SetsOwnFields Animation ∧ SetsOwnFields Transition ∧ SetsOwnFields Shadow ∧
      SetsOwnFields ObjectStyle ∧ SetsOwnFields ClipPath ∧
      (∀ (path : ClipPath) (calls : List ClipPath.Call),
        (callAll path calls).shape = path.shape ∧
          (path.hasCenter = false → path.hasCorners = false → callAll path calls = path)) ∧
      (∀ (path : ClipPath) (point : ClipPoint), path.hasCenter = false →
        path.centeredAt point = path) ∧
      ∀ (path : ClipPath) (radius : Length), path.hasCorners = false →
        path.rounded radius = path := by
  refine ⟨setsOwnFields, setsOwnFields, setsOwnFields, setsOwnFields, setsOwnFields, ?_, ?_, ?_⟩
  · intro path calls
    exact ⟨path.shape_callAll calls, fun noCenter noCorners =>
      ClipPath.callAll_of_plain noCenter noCorners calls⟩
  · exact fun _ point absent => ClipPath.centeredAt_of_no_center absent point
  · exact fun _ radius absent => ClipPath.rounded_of_no_corners absent radius

/-- A field that is set twice, one that is never set, two offsets set at once, and a path without a
place for a center. -/
theorem calls_set_their_fields_twice :
    let animation := Animation.ofName "spin" (.seconds 1)
    let calls : List Animation.Call := [.delay (.seconds 1), .fill .both, .delay .zero]
    let shadow := Shadow.ofColor .transparent
    let moves : List Shadow.Call := [.offset .auto (.px 1), .inside]
    let triangle := ClipPath.polygon [⟨.zero, .zero⟩]
    let attempts : List ClipPath.Call := [.center ⟨.auto, .auto⟩, .round .zero]
    ((callAll animation calls).delay = .zero ∧ (callAll animation calls).fill = .both ∧
        (callAll animation calls).name = "spin") ∧
      ((callAll shadow moves).offsetX = .auto ∧ (callAll shadow moves).offsetY = .px 1 ∧
        (callAll shadow moves).inset = true) ∧
      callAll triangle attempts = triangle := by
  intro animation calls shadow moves triangle attempts
  obtain ⟨animations, _, shadows, _, _, paths, _, _⟩ := calls_set_their_fields
  refine ⟨⟨?_, ?_, ?_⟩, ⟨?_, ?_, ?_⟩, (paths _ _).2 rfl rfl⟩
  · exact animations.last animation calls Animation.Field.delay
  · exact animations.last animation calls Animation.Field.fill
  · exact animations.last animation calls Animation.Field.name
  · exact shadows.last shadow moves Shadow.Field.offsetX
  · exact shadows.last shadow moves Shadow.Field.offsetY
  · exact shadows.last shadow moves Shadow.Field.inset

end CssValue
