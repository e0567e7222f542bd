import CssValue.Keyword

/-! # Named colors and system colors -/

namespace CssValue

/-- A color with a name of its own. -/
inductive NamedColor where
  | black | silver | gray | white | maroon | red | purple | fuchsia | green | lime | olive | yellow
  | navy | blue | teal | aqua
deriving DecidableEq

instance : Keyword NamedColor where
  all := [.black, .silver, .gray, .white, .maroon, .red, .purple, .fuchsia, .green, .lime, .olive,
    .yellow, .navy, .blue, .teal, .aqua]
  token
    | .black => "black"
    | .silver => "silver"
    | .gray => "gray"
    | .white => "white"
    | .maroon => "maroon"
    | .red => "red"
    | .purple => "purple"
    | .fuchsia => "fuchsia"
    | .green => "green"
    | .lime => "lime"
    | .olive => "olive"
    | .yellow => "yellow"
    | .navy => "navy"
    | .blue => "blue"
    | .teal => "teal"
    | .aqua => "aqua"

/-- A color that the surrounding system chooses. -/
inductive SystemColor where
  | canvasText | canvas | linkText | visitedText | activeText | buttonFace | buttonText
  | buttonBorder | field | fieldText | highlight | highlightText | selectedItem | selectedItemText
  | mark | markText
deriving DecidableEq

instance : Keyword SystemColor where
  all := [.canvasText, .canvas, .linkText, .visitedText, .activeText, .buttonFace, .buttonText,
    .buttonBorder, .field, .fieldText, .highlight, .highlightText, .selectedItem,
    .selectedItemText, .mark, .markText]
  token
    | .canvasText => "CanvasText"
    | .canvas => "Canvas"
    | .linkText => "LinkText"
    | .visitedText => "VisitedText"
    | .activeText => "ActiveText"
    | .buttonFace => "ButtonFace"
    | .buttonText => "ButtonText"
    | .buttonBorder => "ButtonBorder"
    | .field => "Field"
    | .fieldText => "FieldText"
    | .highlight => "Highlight"
    | .highlightText => "HighlightText"
    | .selectedItem => "SelectedItem"
    | .selectedItemText => "SelectedItemText"
    | .mark => "Mark"
    | .markText => "MarkText"

end CssValue
