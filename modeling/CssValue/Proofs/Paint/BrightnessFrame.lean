import CssValue.Proofs.Paint.BrightnessPath

/-!
# What a brightness change keeps

A sequence of brightness changes moves each channel and each lightness of a color on its own, by the
fractions that are in range, and keeps everything else: the notation, the hue, the saturation, alpha
and the whole color in a notation without channels.  Fractions out of range do nothing.
-/

namespace CssValue

namespace Color

/-- The second color has the notation of the first and differs from it in channels or in the
lightness only.  A hexadecimal color keeps its alpha channel, and its whole text if that does not
decode. -/
inductive KeepsFrame : Color → Color → Prop where
  | named (name : NamedColor) : KeepsFrame (named name) (named name)
  | hex {text moved : String} {channels movedChannels : HexChannels}
      (decoded : HexChannels.decode text = .ok channels)
      (movedDecoded : HexChannels.decode moved = .ok movedChannels)
      (alpha : movedChannels.alpha? = channels.alpha?) : KeepsFrame (hex text) (hex moved)
  | undecodable {text : String} {error : ValueError}
      (invalid : HexChannels.decode text = .error error) : KeepsFrame (hex text) (hex text)
  | rgb (red green blue movedRed movedGreen movedBlue : Int) :
      KeepsFrame (rgb red green blue) (rgb movedRed movedGreen movedBlue)
  | rgba (red green blue movedRed movedGreen movedBlue : Int) (alpha : Binary64) :
      KeepsFrame (rgba red green blue alpha) (rgba movedRed movedGreen movedBlue alpha)
  | hsl (hue : Int) (saturation lightness movedLightness : Binary64) :
      KeepsFrame (hsl hue saturation lightness) (hsl hue saturation movedLightness)
  | hsla (hue : Int) (saturation lightness movedLightness alpha : Binary64) :
      KeepsFrame (hsla hue saturation lightness alpha) (hsla hue saturation movedLightness alpha)
  | hwb (hue : Int) (whiteness blackness : Binary64) :
      KeepsFrame (hwb hue whiteness blackness) (hwb hue whiteness blackness)
  | lab (lightness a b : Binary64) : KeepsFrame (lab lightness a b) (lab lightness a b)
  | lch (lightness chroma hue : Binary64) :
      KeepsFrame (lch lightness chroma hue) (lch lightness chroma hue)
  | system (color : SystemColor) : KeepsFrame (system color) (system color)
  | currentColor : KeepsFrame currentColor currentColor
  | transparent : KeepsFrame transparent transparent
  | wide (keyword : WideKeyword) : KeepsFrame (wide keyword) (wide keyword)

namespace KeepsFrame

theorem refl (color : Color) : color.KeepsFrame color := by
  cases color with
  | hex text =>
      cases decoded : HexChannels.decode text with
      | ok channels => exact hex decoded decoded rfl
      | error cause => exact undecodable decoded
  | _ => constructor

/-- A frame that is kept twice is kept. -/
theorem trans {first second third : Color} (step : first.KeepsFrame second)
    (next : second.KeepsFrame third) : first.KeepsFrame third := by
  cases step with
  | hex decoded movedDecoded alpha =>
      cases next with
      | hex again further laterAlpha =>
          obtain rfl := Except.ok.inj (movedDecoded.symm.trans again)
          exact hex decoded further (laterAlpha.trans alpha)
      | undecodable invalid => cases movedDecoded.symm.trans invalid
  | undecodable invalid => exact next
  | _ => cases next; constructor

end KeepsFrame

/-- A brightness change keeps the frame of a color. -/
theorem keepsFrame_adjustBrightness (color : Color) (fraction : Binary64) :
    color.KeepsFrame (color.adjustBrightness fraction).value := by
  by_cases inside : Brightness.inRange fraction
  · cases color with
    | hex text =>
        cases decoded : HexChannels.decode text with
        | ok channels =>
            rw [adjustBrightness_decodable inside decoded]
            exact .hex decoded (Brightness.hexChannels channels fraction).decode_encode rfl
        | error cause =>
            rw [adjustBrightness_undecodable inside decoded]
            exact .undecodable decoded
    | _ =>
        unfold adjustBrightness
        rw [if_pos inside]
        constructor
  · rw [adjustBrightness_outside inside]
    exact .refl color

/-- A run of brightness changes keeps the frame of a color. -/
theorem keepsFrame_adjustAll (color : Color) (fractions : List Binary64) :
    color.KeepsFrame (color.adjustAll fractions) := by
  induction fractions generalizing color with
  | nil => exact .refl color
  | cons fraction rest ih =>
      rw [adjustAll_cons]
      exact (keepsFrame_adjustBrightness color fraction).trans (ih _)

/-- Fractions out of range leave a color as it is. -/
theorem adjustAll_outside {fractions : List Binary64}
    (outside : ∀ fraction ∈ fractions, ¬ Brightness.inRange fraction) (color : Color) :
    color.adjustAll fractions = color := by
  induction fractions with
  | nil => rfl
  | cons fraction rest ih =>
      obtain ⟨first, others⟩ := List.forall_mem_cons.mp outside
      rw [adjustAll_cons, adjustBrightness_outside first]
      exact ih others

/-- What is read of a color is moved by the fractions in range, one after the other, if one
brightness change moves it by its fraction. -/
theorem read_adjustAll {α : Type} {read : Color → α} {move : α → Binary64 → α}
    (moves : ∀ (color : Color) (fraction : Binary64), Brightness.inRange fraction →
      read (color.adjustBrightness fraction).value = move (read color) fraction)
    (color : Color) (fractions : List Binary64) :
    read (color.adjustAll fractions) =
      (fractions.filter Brightness.inRange).foldl move (read color) := by
  induction fractions generalizing color with
  | nil => rfl
  | cons fraction rest ih =>
      rw [adjustAll_cons, ih]
      by_cases inside : Brightness.inRange fraction
      · rw [List.filter_cons_of_pos inside, List.foldl_cons, moves color fraction inside]
      · rw [List.filter_cons_of_neg inside, adjustBrightness_outside inside]
        rfl

/-- **Brightness changes keep the frame of a color.** Through any sequence of them a color keeps its
notation, hue, saturation and alpha, and in a notation without channels, or as a hexadecimal text
that does not decode, it stays as it is.  The fractions in range move each channel and the lightness
on its own; a sequence of fractions that are out of range or no numbers changes nothing. -/
theorem adjustAll_keeps_frame (color : Color) (fractions : List Binary64) :
    color.KeepsFrame (color.adjustAll fractions) ∧
      (color.adjustAll fractions).channels =
        (fractions.filter Brightness.inRange).foldl
          (fun channels fraction => channels.map (Brightness.channel · fraction)) color.channels ∧
      (color.adjustAll fractions).lightness? =
        (fractions.filter Brightness.inRange).foldl
          (fun lightness? fraction => lightness?.map (Brightness.lightness · fraction))
          color.lightness? ∧
      ((∀ fraction ∈ fractions, ¬ (-1 ≤ fraction ∧ fraction ≤ 1)) →
        color.adjustAll fractions = color) := by
  refine ⟨keepsFrame_adjustAll color fractions,
    read_adjustAll (fun _ _ => channels_adjustBrightness) color fractions,
    read_adjustAll (fun _ _ => lightness?_adjustBrightness) color fractions, fun outside => ?_⟩
  exact adjustAll_outside (fun fraction member => mt (Brightness.inRange_iff fraction).mp
    (outside fraction member)) color

/-- Fractions beyond both ends, and one that is no number. -/
theorem adjustAll_keeps_frame_outside :
    (∀ fraction ∈ [Binary64.nan, 1.5, -2], ¬ (-1 ≤ fraction ∧ fraction ≤ (1 : Binary64))) ∧
      (hex "##1a2B3c80").adjustAll [.nan, 1.5, -2] = hex "##1a2B3c80" := by
  have outside : ∀ fraction ∈ [Binary64.nan, 1.5, -2],
      ¬ (-1 ≤ fraction ∧ fraction ≤ (1 : Binary64)) := by
    decide +kernel
  obtain ⟨_, _, _, unchanged⟩ := adjustAll_keeps_frame (hex "##1a2B3c80") [.nan, 1.5, -2]
  exact ⟨outside, unchanged outside⟩

end Color
end CssValue
