import CssValue.Binary64.Shortest
import CssValue.Box.Border
import CssValue.Box.Edges
import CssValue.Diagnostics.Advice
import CssValue.Effect.ClipPath
import CssValue.Effect.Filter
import CssValue.Effect.Shadow
import CssValue.Effect.Transform
import CssValue.Grid.Placement
import CssValue.Grid.Template
import CssValue.Motion.Animation
import CssValue.Motion.Keyframes
import CssValue.Motion.Transition
import CssValue.Paint.Background
import CssValue.Paint.Brightness
import CssValue.Paint.HexBytes
import CssValue.Placement.ObjectPosition
import CssValue.Quantity.LengthArithmetic
import CssValue.Proofs.Binary64.Monotone
import CssValue.Proofs.Composite.Component
import CssValue.Proofs.Composite.FieldCalls
import CssValue.Proofs.Composite.ListValue
import CssValue.Proofs.Composite.NumberText
import CssValue.Proofs.Composite.Shorthand
import CssValue.Proofs.Composite.Tidiness
import CssValue.Proofs.Composite.Visibility
import CssValue.Proofs.Diagnostics.NoticeRun
import CssValue.Proofs.Diagnostics.WarningRun
import CssValue.Proofs.Effect.TransformText
import CssValue.Proofs.Equality.CanonicalText
import CssValue.Proofs.Equality.SignedZero
import CssValue.Proofs.Grid.AreaRows
import CssValue.Proofs.Interchange.ReadBack
import CssValue.Proofs.Motion.KeyframeText
import CssValue.Proofs.Paint.BackgroundPieces
import CssValue.Proofs.Paint.BackgroundText
import CssValue.Proofs.Paint.BrightnessFrame
import CssValue.Proofs.Paint.BrightnessPath
import CssValue.Proofs.Paint.BrightnessRange
import CssValue.Proofs.Paint.ColorText
import CssValue.Proofs.Paint.HexNotation
import CssValue.Proofs.Paint.HexReading
import CssValue.Proofs.Quantity.Calculation
import CssValue.Proofs.Quantity.Division
import CssValue.Proofs.Quantity.ExpressionUnit
