import CssValue.Paint.Brightness
import CssValue.Proofs.Binary64.Order
import CssValue.Proofs.Paint.HexDigits

/-!
# Sequences of brightness changes

A computed channel is always in its range.  A hexadecimal color made brighter or darker is written
anew from its channels, and what is written decodes to those channels; through any sequence of
brightness changes the color therefore keeps in step with the opaque color of the channels that it
decodes to.
-/

namespace CssValue

namespace HexChannels

def color (channels : HexChannels) : Color :=
  .rgb channels.red.toNat channels.green.toNat channels.blue.toNat

/-- The channels after a brightness change, which a fraction out of range does not touch. -/
def adjust (channels : HexChannels) (fraction : Binary64) : HexChannels :=
  if Brightness.inRange fraction then Brightness.hexChannels channels fraction else channels

theorem alpha?_adjust (channels : HexChannels) (fraction : Binary64) :
    (channels.adjust fraction).alpha? = channels.alpha? := by
  unfold adjust
  split <;> rfl

end HexChannels

namespace Brightness

theorem inRange_iff (fraction : Binary64) :
    inRange fraction = true ↔ -1 ≤ fraction ∧ fraction ≤ 1 := by
  rw [inRange, Bool.and_eq_true, decide_eq_true_eq, decide_eq_true_eq]

/-- A channel made brighter or darker is in its range, whatever it was before. -/
theorem channel_bounds (value : Int) (fraction : Binary64) :
    0 ≤ channel value fraction ∧ channel value fraction ≤ 255 := by
  let moved := shift 255 (.ofInt value) fraction
  change 0 ≤ (moved.clamp 0 255).toInt32 ∧ (moved.clamp 0 255).toInt32 ≤ 255
  cases ranked : moved.rank? with
  | none =>
      rw [Binary64.rank?_eq_none_iff.mp ranked, Binary64.clamp_nan]
      decide
  | some rank =>
      have one : (0 : Int) < Binary64.quantaOfOne :=
        Int.natCast_pos.mpr Binary64.quantaOfOne_pos
      have low : (0 : Binary64).rank? = some (0 * Binary64.quantaOfOne) :=
        Binary64.rank?_ofInt (n := 0) (by decide)
      have high : (255 : Binary64).rank? = some (255 * Binary64.quantaOfOne) :=
        Binary64.rank?_ofInt (n := 255) (by decide)
      have clamped := Binary64.rank?_clamp ranked low high (by omega)
      rw [Binary64.toInt32_eq_ediv clamped (by omega) (by omega)]
      exact ⟨Int.ediv_nonneg (by omega) (Int.le_of_lt one),
        (Int.ediv_le_iff_le_mul one).mpr (by omega)⟩

/-- A moved channel fits into a byte. -/
theorem toNat_byte_channel (value : Int) (fraction : Binary64) :
    ((byte (channel value fraction)).toNat : Int) = channel value fraction := by
  have bounds := channel_bounds value fraction
  rw [byte, if_pos bounds, UInt8.toNat_ofNat']
  omega

end Brightness

namespace Color

def adjustAll (color : Color) (fractions : List Binary64) : Color :=
  fractions.foldl (fun color fraction => (color.adjustBrightness fraction).value) color

theorem adjustAll_cons (color : Color) (fraction : Binary64) (rest : List Binary64) :
    color.adjustAll (fraction :: rest) =
      (color.adjustBrightness fraction).value.adjustAll rest := by
  unfold adjustAll
  rw [List.foldl_cons]

/-- A fraction out of range leaves any color as it is. -/
theorem adjustBrightness_outside {color : Color} {fraction : Binary64}
    (outside : ¬ Brightness.inRange fraction) :
    color.adjustBrightness fraction = .unchanged color .fractionOutOfRange :=
  if_neg outside

/-- A hexadecimal color that decodes is written anew from its moved channels. -/
theorem adjustBrightness_decodable {text : String} {channels : HexChannels} {fraction : Binary64}
    (inside : Brightness.inRange fraction) (decoded : HexChannels.decode text = .ok channels) :
    (hex text).adjustBrightness fraction =
      .plain (hex (Brightness.hexChannels channels fraction).encode) := by
  unfold adjustBrightness
  simp only [inside, ↓reduceIte, decoded]

/-- A hexadecimal color that does not decode is kept, with a notice. -/
theorem adjustBrightness_undecodable {text : String} {error : ValueError} {fraction : Binary64}
    (inside : Brightness.inRange fraction) (invalid : HexChannels.decode text = .error error) :
    (hex text).adjustBrightness fraction = .unchanged (hex text) .undecodableHex := by
  unfold adjustBrightness
  simp only [inside, ↓reduceIte, invalid]

/-- One brightness change of the opaque color of some channels changes those channels. -/
theorem adjustBrightness_color (channels : HexChannels) (fraction : Binary64) :
    (channels.color.adjustBrightness fraction).value = (channels.adjust fraction).color := by
  unfold adjustBrightness HexChannels.adjust
  by_cases inside : Brightness.inRange fraction
  · simp only [inside, ↓reduceIte, HexChannels.color, Advised.plain, Brightness.hexChannels,
      Brightness.toNat_byte_channel]
  · rw [if_neg inside, if_neg inside]
    rfl

/-- One brightness change of a hexadecimal color writes its changed channels, or leaves the text as
it is when the fraction is out of range. -/
theorem adjustBrightness_hex {text : String} {channels : HexChannels}
    (decoded : HexChannels.decode text = .ok channels) (fraction : Binary64) :
    ((hex text).adjustBrightness fraction).value =
      hex (if Brightness.inRange fraction then (channels.adjust fraction).encode else text) := by
  unfold HexChannels.adjust
  by_cases inside : Brightness.inRange fraction
  · rw [adjustBrightness_decodable inside decoded, if_pos inside, if_pos inside]
    rfl
  · rw [adjustBrightness_outside inside, if_neg inside]
    rfl

/-- A run over the color of channels moves just these channels. -/
theorem adjustAll_color (channels : HexChannels) (fractions : List Binary64) :
    channels.color.adjustAll fractions = (fractions.foldl HexChannels.adjust channels).color := by
  induction fractions generalizing channels with
  | nil => rfl
  | cons fraction rest ih =>
      rw [adjustAll_cons, adjustBrightness_color, ih, List.foldl_cons]

/-- A run of brightness changes keeps the alpha channel. -/
theorem alpha?_foldl_adjust (channels : HexChannels) (fractions : List Binary64) :
    (fractions.foldl HexChannels.adjust channels).alpha? = channels.alpha? := by
  induction fractions generalizing channels with
  | nil => rfl
  | cons fraction rest ih => rw [List.foldl_cons, ih, HexChannels.alpha?_adjust]

/-- Through a sequence of brightness changes a hexadecimal color decodes to the changed channels.
The text is the written form of these if it was so from the start or if a fraction is in range. -/
theorem adjustAll_hex {text : String} {channels : HexChannels}
    (decoded : HexChannels.decode text = .ok channels) (fractions : List Binary64) :
    ∃ after, (hex text).adjustAll fractions = hex after ∧
      HexChannels.decode after = .ok (fractions.foldl HexChannels.adjust channels) ∧
      ((text = channels.encode ∨ ∃ fraction ∈ fractions, Brightness.inRange fraction) →
        after = (fractions.foldl HexChannels.adjust channels).encode) := by
  induction fractions generalizing text channels with
  | nil =>
      refine ⟨text, rfl, decoded, ?_⟩
      rintro (written | ⟨fraction, absent, _⟩)
      · exact written
      · exact (List.not_mem_nil absent).elim
  | cons fraction rest ih =>
      rw [adjustAll_cons, adjustBrightness_hex decoded, List.foldl_cons]
      by_cases inside : Brightness.inRange fraction
      · rw [if_pos inside]
        -- The new text is the written form of its channels: the rest of the run starts canonical.
        obtain ⟨after, run, still, written⟩ := ih (channels.adjust fraction).decode_encode
        exact ⟨after, run, still, fun _ => written (Or.inl rfl)⟩
      · have kept : channels.adjust fraction = channels := if_neg inside
        rw [if_neg inside, kept]
        obtain ⟨after, run, still, written⟩ := ih decoded
        refine ⟨after, run, still, fun reason => written ?_⟩
        rcases reason with before | ⟨chosen, member, ranged⟩
        · exact Or.inl before
        · rcases List.mem_cons.mp member with rfl | later
          · exact (inside ranged).elim
          · exact Or.inr ⟨chosen, later, ranged⟩

/-- **A hexadecimal color keeps in step with its channels.** Any sequence of brightness changes of a
color that decodes gives a color that decodes again, to the channels of the opaque color after the
same changes and to the old alpha channel.  Once a fraction was in range the text is canonical.  No
channel ever leaves its range, so each one fits into a byte. -/
theorem adjustAll_hex_in_step {text : String} {channels : HexChannels}
    (decoded : HexChannels.decode text = .ok channels) (fractions : List Binary64) :
    ∃ (after : String) (red green blue : UInt8),
      (hex text).adjustAll fractions = hex after ∧
        HexChannels.decode after = .ok ⟨red, green, blue, channels.alpha?⟩ ∧
        (rgb channels.red.toNat channels.green.toNat channels.blue.toNat).adjustAll fractions =
          rgb red.toNat green.toNat blue.toNat ∧
        ((∃ fraction ∈ fractions, -1 ≤ fraction ∧ fraction ≤ 1) → Hex.IsCanonical after) ∧
        ∀ (value : Int) (fraction : Binary64),
          0 ≤ Brightness.channel value fraction ∧ Brightness.channel value fraction ≤ 255 := by
  obtain ⟨after, run, still, written⟩ := adjustAll_hex decoded fractions
  let last := fractions.foldl HexChannels.adjust channels
  have alpha : last.alpha? = channels.alpha? := alpha?_foldl_adjust channels fractions
  refine ⟨after, last.red, last.green, last.blue, run, ?_, adjustAll_color channels fractions, ?_,
    Brightness.channel_bounds⟩
  · rw [still, ← alpha]
  · rintro ⟨fraction, member, ranged⟩
    rw [written (Or.inr ⟨fraction, member, (Brightness.inRange_iff fraction).mpr ranged⟩)]
    exact last.isCanonical_encode

/-- Eight digits behind two number signs, through a fraction that is no number and one in range. -/
theorem adjustAll_hex_in_step_alpha :
    HexChannels.decode "##1a2B3c80" = .ok ⟨26, 43, 60, some 128⟩ ∧
      (∃ fraction ∈ [Binary64.nan, 1], -1 ≤ fraction ∧ fraction ≤ (1 : Binary64)) ∧
      ∃ (after : String) (red green blue : UInt8),
        (hex "##1a2B3c80").adjustAll [.nan, 1] = hex after ∧
          HexChannels.decode after = .ok ⟨red, green, blue, some 128⟩ ∧
          (rgb 26 43 60).adjustAll [.nan, 1] = rgb red.toNat green.toNat blue.toNat ∧
          Hex.IsCanonical after := by
  have decoded : HexChannels.decode "##1a2B3c80" = .ok ⟨26, 43, 60, some 128⟩ := rfl
  have ranged : ∃ fraction ∈ [Binary64.nan, 1], -1 ≤ fraction ∧ fraction ≤ (1 : Binary64) :=
    ⟨1, List.mem_cons_of_mem _ List.mem_cons_self, by decide +kernel⟩
  obtain ⟨after, red, green, blue, run, still, step, canonical, _⟩ :=
    adjustAll_hex_in_step decoded [.nan, 1]
  exact ⟨decoded, ranged, after, red, green, blue, run, still, step, canonical ranged⟩

end Color
end CssValue
