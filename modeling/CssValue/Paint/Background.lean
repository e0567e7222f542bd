import CssValue.Paint.Image

/-!
# Backgrounds

The single background properties and the shorthand that sets several of them.
-/

namespace CssValue

/-- A size that follows from fitting the image to the box. -/
inductive SizeFit where
  | cover | contain
deriving DecidableEq

instance : Keyword SizeFit where
  all := [.cover, .contain]
  token
    | .cover => "cover"
    | .contain => "contain"

inductive BackgroundSize where
  | fit (fit : SizeFit)
  | explicit (width height : Length)
deriving BEq, DecidableEq

instance : Render BackgroundSize where
  render
    | .fit fit => render fit
    | .explicit width height => Text.spaced [render width, render height]

instance : Encode BackgroundSize where
  encode
    | .fit fit => .tagged "Keyword" (encode fit)
    | .explicit width height => .tagged "Explicit" (.array [encode width, encode height])

/-- How a background image repeats. -/
inductive BackgroundRepeat where
  | alongX | alongY | alongBoth | space | round | never
deriving DecidableEq

instance : Keyword BackgroundRepeat where
  all := [.alongX, .alongY, .alongBoth, .space, .round, .never]
  token
    | .alongX => "repeat-x"
    | .alongY => "repeat-y"
    | .alongBoth => "repeat"
    | .space => "space"
    | .round => "round"
    | .never => "no-repeat"

/-- What a background image moves with. -/
inductive BackgroundAttachment where
  | scroll | fixed | withContent
deriving DecidableEq

instance : Keyword BackgroundAttachment where
  all := [.scroll, .fixed, .withContent]
  token
    | .scroll => "scroll"
    | .fixed => "fixed"
    | .withContent => "local"

/-- The box that a background image is placed in. -/
inductive BackgroundOrigin where
  | borderBox | paddingBox | contentBox
deriving DecidableEq

instance : Keyword BackgroundOrigin where
  all := [.borderBox, .paddingBox, .contentBox]
  token
    | .borderBox => "border-box"
    | .paddingBox => "padding-box"
    | .contentBox => "content-box"

/-- The area that a background paints. -/
inductive BackgroundClip where
  | borderBox | paddingBox | contentBox | text
deriving DecidableEq

instance : Keyword BackgroundClip where
  all := [.borderBox, .paddingBox, .contentBox, .text]
  token
    | .borderBox => "border-box"
    | .paddingBox => "padding-box"
    | .contentBox => "content-box"
    | .text => "text"

/-- How a layer is composed with those below it. -/
inductive CompositeOperator where
  | clear | copy | sourceOver | sourceIn | sourceOut | sourceAtop | destinationOver
  | destinationIn | destinationOut | destinationAtop | xor
deriving DecidableEq

instance : Keyword CompositeOperator where
  all := [.clear, .copy, .sourceOver, .sourceIn, .sourceOut, .sourceAtop, .destinationOver,
    .destinationIn, .destinationOut, .destinationAtop, .xor]
  token
    | .clear => "clear"
    | .copy => "copy"
    | .sourceOver => "source-over"
    | .sourceIn => "source-in"
    | .sourceOut => "source-out"
    | .sourceAtop => "source-atop"
    | .destinationOver => "destination-over"
    | .destinationIn => "destination-in"
    | .destinationOut => "destination-out"
    | .destinationAtop => "destination-atop"
    | .xor => "xor"

/-- The background shorthand, with the parts that are set. -/
structure BackgroundShorthand where
  color : Option Color
  image : Option Image
  position : Option Position
  size : Option BackgroundSize
  tiling : Option BackgroundRepeat
  attachment : Option BackgroundAttachment
  origin : Option BackgroundOrigin
  clip : Option BackgroundClip
deriving BEq, DecidableEq

namespace BackgroundShorthand

def empty : BackgroundShorthand := ⟨none, none, none, none, none, none, none, none⟩

/-- The position that is written.  A size may only follow a position, so the initial position is
written before a size that has none. -/
def writtenPosition (shorthand : BackgroundShorthand) : Option Position :=
  shorthand.position <|> shorthand.size.map fun _ => Position.initial

open Text in
/-- The written parts in their order; a size is preceded by a slash. -/
def parts (shorthand : BackgroundShorthand) : List String :=
  part shorthand.color ++ part shorthand.image ++ part shorthand.writtenPosition ++
    (part shorthand.size).map (fun size => spaced ["/", size]) ++
    part shorthand.tiling ++ part shorthand.attachment ++ part shorthand.origin ++
    part shorthand.clip

end BackgroundShorthand

instance : Render BackgroundShorthand where
  render shorthand := Text.orNone Text.spaced shorthand.parts

instance : Encode BackgroundShorthand where
  encode shorthand := .object
    [("color", encode shorthand.color), ("image", encode shorthand.image),
      ("position", encode shorthand.position), ("size", encode shorthand.size),
      ("repeat", encode shorthand.tiling), ("attachment", encode shorthand.attachment),
      ("origin", encode shorthand.origin), ("clip", encode shorthand.clip)]

inductive Background where
  | color (color : Color)
  | image (image : Image)
  | position (position : Position)
  | size (size : BackgroundSize)
  | tiling (tiling : BackgroundRepeat)
  | attachment (attachment : BackgroundAttachment)
  | origin (origin : BackgroundOrigin)
  | clip (clip : BackgroundClip)
  | composite (operator : CompositeOperator)
  | shorthand (shorthand : BackgroundShorthand)
  | wide (keyword : WideKeyword)
deriving BEq, DecidableEq

instance : Render Background where
  render
    | .color color => render color
    | .image image => render image
    | .position position => render position
    | .size size => render size
    | .tiling tiling => render tiling
    | .attachment attachment => render attachment
    | .origin origin => render origin
    | .clip clip => render clip
    | .composite operator => render operator
    | .shorthand shorthand => render shorthand
    | .wide keyword => render keyword

instance : Encode Background where
  encode
    | .color color => .tagged "Color" (encode color)
    | .image image => .tagged "Image" (encode image)
    | .position position => .tagged "Position" (encode position)
    | .size size => .tagged "Size" (encode size)
    | .tiling tiling => .tagged "Repeat" (encode tiling)
    | .attachment attachment => .tagged "Attachment" (encode attachment)
    | .origin origin => .tagged "Origin" (encode origin)
    | .clip clip => .tagged "Clip" (encode clip)
    | .composite operator => .tagged "Composite" (encode operator)
    | .shorthand shorthand => .tagged "Shorthand" (encode shorthand)
    | .wide keyword => .tagged "Global" (encode keyword)

end CssValue
