import CssValue.Proofs.Paint.BrightnessRun
import CssValue.Proofs.Quantity.Call

/-!
# Colors told by their text

A color is written as a keyword, as a number sign with digits, or as a call of its notation.  Only
hexadecimal colors share a text, and only if they are the same but for the number signs in front;
these decode alike.  Brightness changes therefore cannot tell colors apart that are written alike,
however many follow one another.
-/

namespace CssValue

namespace Color

/-! ### The forms of a text -/

/-- The colors that are keywords. -/
def words : List Color :=
  (Keyword.all : List NamedColor).map named ++ ((Keyword.all : List SystemColor).map system ++
    ((Keyword.all : List WideKeyword).map wide ++ [currentColor, transparent]))

theorem words_distinct : (words.map render).Nodup := by decide +kernel

theorem head?_word_ne_numberSign : ∀ word ∈ words, (render word).toList.head? ≠ some '#' := by
  decide +kernel

theorem parenthesis_not_mem_word : ∀ word ∈ words, '(' ∉ (render word).toList := by decide +kernel

/-- The call of a color in a functional notation. -/
def call? : Color → Option Call
  | rgb red green blue => some ⟨"rgb", ", ", [.integer red, .integer green, .integer blue]⟩
  | rgba red green blue alpha =>
    some ⟨"rgba", ", ", [.integer red, .integer green, .integer blue, .number alpha]⟩
  | hsl hue saturation lightness =>
    some ⟨"hsl", ", ", [.integer hue, .length (.percentage saturation),
      .length (.percentage lightness)]⟩
  | hsla hue saturation lightness alpha =>
    some ⟨"hsla", ", ", [.integer hue, .length (.percentage saturation),
      .length (.percentage lightness), .number alpha]⟩
  | hwb hue whiteness blackness =>
    some ⟨"hwb", " ", [.integer hue, .length (.percentage whiteness),
      .length (.percentage blackness)]⟩
  | lab lightness a b =>
    some ⟨"lab", " ", [.length (.percentage lightness), .number a, .number b]⟩
  | lch lightness chroma hue =>
    some ⟨"lch", " ", [.length (.percentage lightness), .number chroma, .number hue]⟩
  | named _ | hex _ | system _ | currentColor | transparent | wide _ => none

/-- The separator of the arguments behind a name. -/
def separator (name : String) : String := if name ∈ ["hwb", "lab", "lch"] then " " else ", "

/-- The color with a name and arguments. -/
def ofCall? (name : String) (arguments : List Argument) : Option Color :=
  match name, arguments with
  | "rgb", [.integer red, .integer green, .integer blue] => some (rgb red green blue)
  | "rgba", [.integer red, .integer green, .integer blue, .number alpha] =>
    some (rgba red green blue alpha)
  | "hsl", [.integer hue, .length (.percentage saturation), .length (.percentage lightness)] =>
    some (hsl hue saturation lightness)
  | "hsla", [.integer hue, .length (.percentage saturation), .length (.percentage lightness),
      .number alpha] => some (hsla hue saturation lightness alpha)
  | "hwb", [.integer hue, .length (.percentage whiteness), .length (.percentage blackness)] =>
    some (hwb hue whiteness blackness)
  | "lab", [.length (.percentage lightness), .number a, .number b] => some (lab lightness a b)
  | "lch", [.length (.percentage lightness), .number chroma, .number hue] =>
    some (lch lightness chroma hue)
  | _, _ => none

variable {first second color word : Color} {call other : Call} {text otherText : String}

/-- A color in a functional notation is written as its call. -/
theorem render_eq_text (called : color.call? = some call) : render color = call.text := by
  cases color <;> cases called <;> rfl

/-- The name of a notation decides its separator. -/
theorem separator_eq (called : color.call? = some call) : call.separator = separator call.name := by
  cases color <;> cases called <;> rfl

/-- A color in a functional notation is read back from its name and its arguments. -/
theorem ofCall?_call (called : color.call? = some call) :
    ofCall? call.name call.arguments = some color := by
  cases color <;> cases called <;> rfl

/-- The call of a color can be read. -/
theorem readable_call (called : color.call? = some call) : call.Readable where
  named := by cases color <;> cases called <;> simp only <;> decide
  separated := by
    rw [separator_eq called, separator]
    split
    · exact Or.inl rfl
    · exact Or.inr rfl
  present := by cases color <;> cases called <;> exact List.cons_ne_nil _ _
  tame := by cases color <;> cases called <;> simp [Argument.Tame, Length.Tame]

/-- How a color is written: a keyword, a number sign with digits, or a call. -/
inductive Form (color : Color) : Prop where
  | word (listed : color ∈ words)
  | hex (text : String) (same : color = .hex text)
  | call (call : Call) (called : color.call? = some call)

theorem form (color : Color) : Form color := by
  cases color with
  | named name =>
      have listed : name ∈ (Keyword.all : List NamedColor) := by cases name <;> decide
      exact .word (by simp [words, listed])
  | system color =>
      have listed : color ∈ (Keyword.all : List SystemColor) := by cases color <;> decide
      exact .word (by simp [words, listed])
  | wide keyword =>
      have listed : keyword ∈ (Keyword.all : List WideKeyword) := by cases keyword <;> decide
      exact .word (by simp [words, listed])
  | currentColor | transparent => exact .word (by simp [words])
  | hex text => exact .hex text rfl
  | rgb | rgba | hsl | hsla | hwb | lab | lch => exact .call _ rfl

theorem head?_render_hex (text : String) : (render (hex text)).toList.head? = some '#' := by
  change (String.ofList ('#' :: Hex.bare text)).toList.head? = _
  rw [String.toList_ofList]
  rfl

/-- A keyword has no number sign in front, and so is not written as a hexadecimal color is. -/
theorem word_ne_hex (listed : word ∈ words) (text : String) : render word ≠ render (hex text) := by
  intro same
  have starts := head?_render_hex text
  rw [← same] at starts
  exact head?_word_ne_numberSign word listed starts

/-- A keyword has no parenthesis, and so is not written as a call is. -/
theorem word_ne_call (listed : word ∈ words) (called : color.call? = some call) :
    render word ≠ render color := by
  intro same
  have opening : '(' ∈ (render word).toList := by
    rw [same, render_eq_text called]
    exact Text.parenthesis_mem_functional _ _
  exact parenthesis_not_mem_word word listed opening

/-- A call does not begin with a number sign. -/
theorem call_ne_hex (called : color.call? = some call) (text : String) :
    render color ≠ render (hex text) := by
  intro same
  have starts := head?_render_hex text
  rw [← same, render_eq_text called] at starts
  exact (readable_call called).head?_text rfl (by decide) starts

/-- Hexadecimal colors are written alike just when they are the same behind the number signs. -/
theorem render_hex_inj :
    render (hex text) = render (hex otherText) ↔ Hex.bare text = Hex.bare otherText := by
  change String.ofList ('#' :: Hex.bare text) = String.ofList ('#' :: Hex.bare otherText) ↔ _
  rw [String.ofList_inj, List.cons_inj_right]

/-- Two colors are the same, or are hexadecimal with the same text behind the number signs. -/
inductive Alike : Color → Color → Prop where
  | same (color : Color) : Alike color color
  | hex {text other : String} (bare : Hex.bare text = Hex.bare other) :
      Alike (.hex text) (.hex other)

/-- Colors that are alike are written alike. -/
theorem Alike.render_eq (alike : Alike first second) : render first = render second := by
  cases alike with
  | same color => rfl
  | hex bare => exact render_hex_inj.mpr bare

/-- Colors that are written alike are the same but for number signs. -/
theorem alike_of_render_eq (same : render first = render second) : Alike first second := by
  cases first.form with
  | word listed =>
      cases second.form with
      | word otherListed =>
          rw [List.inj_on_of_nodup_map words_distinct listed otherListed same]
          exact .same second
      | hex text digits => exact (word_ne_hex listed text (digits ▸ same)).elim
      | call call called => exact (word_ne_call listed called same).elim
  | hex text digits =>
      subst digits
      cases second.form with
      | word listed => exact (word_ne_hex listed text same.symm).elim
      | hex other digits =>
          subst digits
          exact .hex (render_hex_inj.mp same)
      | call call called => exact (call_ne_hex called text same.symm).elim
  | call call called =>
      cases second.form with
      | word listed => exact (word_ne_call listed called same.symm).elim
      | hex text digits => exact (call_ne_hex called text (digits ▸ same)).elim
      | call other otherCalled =>
          rw [render_eq_text called, render_eq_text otherCalled] at same
          have calls : call = other := by
            refine Call.eq_of_text_eq (readable_call called) (readable_call otherCalled) ?_ same
            intro names
            rw [separator_eq called, separator_eq otherCalled, names]
          have colors : first = second := by
            rw [← Option.some_inj, ← ofCall?_call called, ← ofCall?_call otherCalled, calls]
          rw [colors]
          exact .same second

end Color

/-! ### Two runs -/

/-- Texts with the same digits behind their number signs decode to the same channels, or neither of
them decodes. -/
theorem HexChannels.decode_of_bare_eq {text other : String}
    (bare : Hex.bare text = Hex.bare other) :
    (∃ channels, decode text = .ok channels ∧ decode other = .ok channels) ∨
      (decode text = .error (.invalidHex text) ∧ decode other = .error (.invalidHex other)) := by
  unfold decode
  rw [bare]
  cases (Hex.bare other).mapM Hex.digit? >>= ofDigits? with
  | some channels => exact Or.inl ⟨channels, rfl, rfl⟩
  | none => exact Or.inr ⟨rfl, rfl⟩

namespace Color

variable {first second : Color}

/-- Colors that differ in number signs only are changed alike, with the same notice if any. -/
theorem Alike.adjustBrightness (alike : Alike first second) (fraction : Binary64) :
    Alike (first.adjustBrightness fraction).value (second.adjustBrightness fraction).value ∧
      (first.adjustBrightness fraction).notice? = (second.adjustBrightness fraction).notice? := by
  cases alike with
  | same color => exact ⟨.same _, rfl⟩
  | hex bare =>
      by_cases inside : Brightness.inRange fraction
      · rcases HexChannels.decode_of_bare_eq bare with
          ⟨channels, decoded, otherDecoded⟩ | ⟨invalid, otherInvalid⟩
        · rw [adjustBrightness_decodable inside decoded,
            adjustBrightness_decodable inside otherDecoded]
          exact ⟨.same _, rfl⟩
        · rw [adjustBrightness_undecodable inside invalid,
            adjustBrightness_undecodable inside otherInvalid]
          exact ⟨.hex bare, rfl⟩
      · rw [adjustBrightness_outside inside, adjustBrightness_outside inside]
        exact ⟨.hex bare, rfl⟩

/-- Colors that are alike stay so through any run of brightness changes. -/
theorem Alike.adjustAll (alike : Alike first second) (fractions : List Binary64) :
    Alike (first.adjustAll fractions) (second.adjustAll fractions) := by
  induction fractions generalizing first second with
  | nil => exact alike
  | cons fraction rest ih =>
      rw [adjustAll_cons, adjustAll_cons]
      exact ih (alike.adjustBrightness fraction).1

/-- **The text of a color decides its brightness.** Colors that are written alike are the same, or
are hexadecimal and the same but for the number signs in front.  After any sequence of brightness
changes they are again written alike, and a further change gives the same notice for both. -/
theorem text_decides_brightness (first second : Color) :
    (render first = render second ↔ Alike first second) ∧
      (render first = render second → ∀ fractions : List Binary64,
        render (first.adjustAll fractions) = render (second.adjustAll fractions) ∧
          ∀ fraction, ((first.adjustAll fractions).adjustBrightness fraction).notice? =
            ((second.adjustAll fractions).adjustBrightness fraction).notice?) := by
  refine ⟨⟨alike_of_render_eq, Alike.render_eq⟩, fun same fractions => ?_⟩
  have after := (alike_of_render_eq same).adjustAll fractions
  exact ⟨after.render_eq, fun fraction => (after.adjustBrightness fraction).2⟩

/-- Number signs do not matter before digits that decode, nor before a text that does not. -/
theorem text_decides_brightness_number_signs :
    (render (hex "##1a2B3c80") = render (hex "1a2B3c80") ∧
        ∀ fractions, render ((hex "##1a2B3c80").adjustAll fractions) =
          render ((hex "1a2B3c80").adjustAll fractions)) ∧
      render (hex "#1a2B3") = render (hex "1a2B3") ∧
        ∀ fractions, render ((hex "#1a2B3").adjustAll fractions) =
          render ((hex "1a2B3").adjustAll fractions) := by
  have decodable : render (hex "##1a2B3c80") = render (hex "1a2B3c80") := rfl
  have undecodable : render (hex "#1a2B3") = render (hex "1a2B3") := rfl
  exact ⟨⟨decodable, fun fractions => ((text_decides_brightness _ _).2 decodable fractions).1⟩,
    undecodable, fun fractions => ((text_decides_brightness _ _).2 undecodable fractions).1⟩

end Color
end CssValue
