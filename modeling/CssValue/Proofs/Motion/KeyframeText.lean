import CssValue.Motion.Keyframes
import CssValue.Proofs.Binary64.Reading
import CssValue.Proofs.Text.Cut
import CssValue.Proofs.Text.Split
import CssValue.Proofs.Text.Words

/-!
# Keyframes told by their text

A rule of keyframes is written line by line.  The declarations of a keyframe are indented more than
the line that ends it, and so the lines of a keyframe end where a line is indented less, whatever
braces and semicolons the declarations hold.  Line by line the keyframes are read back, in the order
in which they were added.  In the texts below `\x7b` is an opening brace and `\x7d` a closing one.
-/

namespace CssValue

/-! ### Moments and declarations -/

namespace KeyframeSelector

theorem mem_render_percentage (value : Binary64) :
    '%' ∈ (render (percentage value)).toList := by
  change '%' ∈ (value.text ++ "%").toList
  rw [String.toList_append]
  exact List.mem_append_right _ (List.mem_singleton_self '%')

/-- A word without a percent sign is not written as a percentage is. -/
theorem word_ne_percentage {word : String} (absent : '%' ∉ word.toList) (value : Binary64) :
    word ≠ render (percentage value) := by
  intro same
  rw [same] at absent
  exact absent (mem_render_percentage value)

/-- Moments that are written alike are the same. -/
theorem eq_of_render_eq {first second : KeyframeSelector}
    (same : render first = render second) : first = second := by
  have start : '%' ∉ "from".toList := by decide
  have finish : '%' ∉ "to".toList := by decide
  cases first with
  | fromStart =>
      cases second with
      | fromStart => rfl
      | toEnd => exact absurd same (by decide)
      | percentage value => exact (word_ne_percentage start value same).elim
  | toEnd =>
      cases second with
      | fromStart => exact absurd same (by decide)
      | toEnd => rfl
      | percentage value => exact (word_ne_percentage finish value same).elim
  | percentage value =>
      cases second with
      | fromStart => exact (word_ne_percentage start value same.symm).elim
      | toEnd => exact (word_ne_percentage finish value same.symm).elim
      | percentage other =>
          have numbers : value.text = other.text := (String.append_left_inj "%").mp same
          rw [Binary64.text_injective numbers]

theorem newline_not_mem_render (selector : KeyframeSelector) :
    '\n' ∉ (render selector).toList := by
  cases selector with
  | fromStart => decide
  | toEnd => decide
  | percentage value =>
      change '\n' ∉ (value.text ++ "%").toList
      rw [String.toList_append, List.mem_append, not_or]
      refine ⟨fun member => ?_, by decide⟩
      have numeral := Binary64.isNumeral_of_mem_text member
      exact Bool.false_ne_true numeral

end KeyframeSelector

namespace KeyframeProperty

/-- The declaration is on one line, and its name has no colon. -/
structure OnLine (property : KeyframeProperty) : Prop where
  name : '\n' ∉ property.name.toList
  colon : ':' ∉ property.name.toList
  value : '\n' ∉ property.value.toList

/-- The indented line of a declaration. -/
def line (property : KeyframeProperty) : String := "    " ++ render property

/-- The declaration that a line shows: its name ends at the first colon, and a space and a semicolon
enclose its value. -/
def ofLine (line : String) : KeyframeProperty :=
  let parts := Text.cut ':' (line.toList.drop 4)
  ⟨String.ofList parts.1, String.ofList parts.2.tail.dropLast⟩

variable {property : KeyframeProperty}

/-- A declaration is its name, a colon with a space, its value and a semicolon. -/
theorem toList_render (property : KeyframeProperty) :
    (render property).toList =
      property.name.toList ++ ':' :: ' ' :: (property.value.toList ++ [';']) := by
  change (property.name ++ ": " ++ property.value ++ ";").toList = _
  simp

/-- The line of a declaration is indented by four spaces. -/
theorem toList_line (property : KeyframeProperty) :
    property.line.toList = [' ', ' ', ' ', ' '] ++ (render property).toList := by
  rw [line, String.toList_append]
  rfl

/-- A declaration is read back from its line. -/
theorem ofLine_line (onLine : property.OnLine) : ofLine property.line = property := by
  have text : property.line.toList.drop 4 = (render property).toList := by rw [toList_line]; rfl
  rw [ofLine, text, toList_render, Text.cut_append _ onLine.colon]
  simp only [List.tail_cons, List.dropLast_concat, String.ofList_toList]

/-- A declaration on one line has no line break in its text. -/
theorem newline_not_mem_line (onLine : property.OnLine) : '\n' ∉ property.line.toList := by
  rw [toList_line, toList_render]
  simp [onLine.name, onLine.value]

end KeyframeProperty

namespace Keyframes

/-! ### Lines of a keyframe -/

/-- The first line of a keyframe. -/
def openingLine (selector : KeyframeSelector) : String := "  " ++ render selector ++ " \x7b"

/-- The line is indented as declarations are. -/
def Indented (line : String) : Prop := [' ', ' ', ' ', ' '] <+: line.toList

theorem indented_line (property : KeyframeProperty) : Indented property.line := by
  rw [Indented, KeyframeProperty.toList_line]
  exact List.prefix_append _ _

/-- The line that closes a keyframe is not indented as declarations are. -/
theorem not_indented_closing : ¬ Indented "  \x7d" := by
  unfold Indented
  decide

/-- No keyframe opens with the line that ends the rule. -/
theorem openingLine_ne_final (selector : KeyframeSelector) : openingLine selector ≠ "\x7d" := by
  intro same
  have starts := congrArg (fun line => line.toList.head?) same
  rw [openingLine] at starts
  simp at starts

variable {selector other : KeyframeSelector}

/-- The opening line of a keyframe tells its moment. -/
theorem selector_eq_of_openingLine_eq (same : openingLine selector = openingLine other) :
    selector = other := by
  rw [openingLine, openingLine, String.append_left_inj, String.append_right_inj] at same
  exact KeyframeSelector.eq_of_render_eq same

variable {frame otherFrame : KeyframeSelector × List KeyframeProperty}

/-- The lines of a keyframe are its opening line, its declarations and the closing line. -/
theorem frameLines_eq (frame : KeyframeSelector × List KeyframeProperty) :
    frameLines frame =
      openingLine frame.1 :: (frame.2.map KeyframeProperty.line ++ ["  \x7d"]) := rfl

/-- Declarations on single lines are told by their lines. -/
theorem properties_eq_of_map_line_eq {properties others : List KeyframeProperty}
    (onLine : ∀ property ∈ properties, property.OnLine)
    (otherOnLine : ∀ property ∈ others, property.OnLine)
    (same : properties.map KeyframeProperty.line = others.map KeyframeProperty.line) :
    properties = others := by
  have read : ∀ {listed : List KeyframeProperty}, (∀ property ∈ listed, property.OnLine) →
      (listed.map KeyframeProperty.line).map KeyframeProperty.ofLine = listed := fun plain =>
    Text.map_read_map_write fun property member =>
      KeyframeProperty.ofLine_line (plain property member)
  rw [← read onLine, same, read otherOnLine]

/-- The lines of a keyframe end at the first line that is indented less than a declaration. -/
theorem frame_eq_of_frameLines_eq {rest otherRest : List String}
    (onLine : ∀ property ∈ frame.2, property.OnLine)
    (otherOnLine : ∀ property ∈ otherFrame.2, property.OnLine)
    (same : frameLines frame ++ rest = frameLines otherFrame ++ otherRest) :
    frame = otherFrame ∧ rest = otherRest := by
  have indented : ∀ properties : List KeyframeProperty,
      ∀ line ∈ properties.map KeyframeProperty.line, Indented line := fun properties =>
    List.forall_mem_map.mpr fun property _ => indented_line property
  have closing : ∀ behind : List String, ∀ line ∈ ("  \x7d" :: behind).head?, ¬ Indented line :=
    fun _ _ first => Option.some.inj first ▸ not_indented_closing
  simp only [frameLines_eq, List.cons_append, List.append_assoc, List.nil_append,
    List.cons.injEq] at same
  obtain ⟨openings, behind⟩ := same
  obtain ⟨declarations, others⟩ := Text.append_inj_of_forall (indented frame.2)
    (indented otherFrame.2) (closing rest) (closing otherRest) behind
  have selectors := selector_eq_of_openingLine_eq openings
  have properties := properties_eq_of_map_line_eq onLine otherOnLine declarations
  exact ⟨Prod.ext selectors properties, (List.cons.inj others).2⟩

/-! ### Lines of a rule -/

/-- The name of the rule and the declarations of its keyframes are each on one line. -/
structure OnLines (keyframes : Keyframes) : Prop where
  name : '\n' ∉ keyframes.name.toList
  properties : ∀ frame ∈ keyframes.frames, ∀ property ∈ frame.2, property.OnLine

/-- Keyframes are told by their lines: where the indented lines end, the declarations do. -/
theorem frames_eq_of_lines_eq {frames others : List (KeyframeSelector × List KeyframeProperty)}
    (onLine : ∀ frame ∈ frames, ∀ property ∈ frame.2, property.OnLine)
    (otherOnLine : ∀ frame ∈ others, ∀ property ∈ frame.2, property.OnLine)
    (same : frames.flatMap frameLines ++ ["\x7d"] = others.flatMap frameLines ++ ["\x7d"]) :
    frames = others := by
  -- The lines of one keyframe are taken off the front of both lists, and the last line opens none.
  induction frames generalizing others with
  | nil =>
      cases others with
      | nil => rfl
      | cons other others =>
          exact (openingLine_ne_final other.1 (List.cons.inj same).1.symm).elim
  | cons frame rest ih =>
      cases others with
      | nil => exact (openingLine_ne_final frame.1 (List.cons.inj same).1).elim
      | cons other others =>
          obtain ⟨first, later⟩ := List.forall_mem_cons.mp onLine
          obtain ⟨otherFirst, otherLater⟩ := List.forall_mem_cons.mp otherOnLine
          rw [List.flatMap_cons, List.flatMap_cons, List.append_assoc, List.append_assoc] at same
          obtain ⟨heads, tails⟩ := frame_eq_of_frameLines_eq first otherFirst same
          rw [heads, ih later otherLater tails]

variable {first second : Keyframes}

theorem eq_of_lines_eq (firstOnLines : first.OnLines) (secondOnLines : second.OnLines)
    (same : first.lines = second.lines) : first = second := by
  simp only [lines, List.cons_append, List.cons.injEq, String.append_left_inj,
    String.append_right_inj] at same
  have frames := frames_eq_of_lines_eq firstOnLines.properties secondOnLines.properties same.2
  cases first
  cases second
  rw [Keyframes.mk.injEq]
  exact ⟨same.1, frames⟩

theorem newline_not_mem_frameLines (onLine : ∀ property ∈ frame.2, property.OnLine) :
    ∀ line ∈ frameLines frame, '\n' ∉ line.toList := by
  rw [frameLines_eq, List.forall_mem_cons, List.forall_mem_append]
  refine ⟨?_, ?_, ?_⟩
  · rw [openingLine, String.toList_append, String.toList_append]
    simp [KeyframeSelector.newline_not_mem_render frame.1]
  · exact List.forall_mem_map.mpr fun property member =>
      KeyframeProperty.newline_not_mem_line (onLine property member)
  · exact List.forall_mem_singleton.mpr (by decide)

/-- No line of a rule has a line break in it. -/
theorem newline_not_mem_lines (onLines : first.OnLines) :
    ∀ line ∈ first.lines, '\n' ∉ line.toList := by
  rw [lines, List.cons_append, List.forall_mem_cons, List.forall_mem_append]
  refine ⟨?_, ?_, ?_⟩
  · rw [String.toList_append, String.toList_append]
    simp [onLines.name]
  · intro line member
    obtain ⟨frame, listed, written⟩ := List.mem_flatMap.mp member
    exact newline_not_mem_frameLines (onLines.properties frame listed) line written
  · exact List.forall_mem_singleton.mpr (by decide)

/-- Rules on single lines that are written alike are the same. -/
theorem eq_of_render_eq (firstOnLines : first.OnLines) (secondOnLines : second.OnLines)
    (same : render first = render second) : first = second := by
  apply eq_of_lines_eq firstOnLines secondOnLines
  exact Text.eq_of_intercalate_eq (rfl : "\n".toList = ['\n']) (List.cons_ne_nil _ _)
    (List.cons_ne_nil _ _) (newline_not_mem_lines firstOnLines)
    (newline_not_mem_lines secondOnLines) same

/-! ### Keyframes added one after the other -/

/-- The rule with keyframes added at its end, one after the other. -/
def withFrames (keyframes : Keyframes)
    (frames : List (KeyframeSelector × List KeyframeProperty)) : Keyframes :=
  frames.foldl (fun keyframes frame => keyframes.withFrame frame.1 frame.2) keyframes

/-- Keyframes are put behind those that a rule has. -/
theorem withFrames_eq (keyframes : Keyframes)
    (frames : List (KeyframeSelector × List KeyframeProperty)) :
    keyframes.withFrames frames = ⟨keyframes.name, keyframes.frames ++ frames⟩ := by
  induction frames generalizing keyframes with
  | nil => rw [List.append_nil]; rfl
  | cons frame rest ih =>
      rw [withFrames, List.foldl_cons, ← withFrames, ih, withFrame, List.append_assoc]
      rfl

/-- **The text of keyframes tells how they were added.** Rules that hold no line break, and no colon
in the name of a declaration, are written alike only if they have one name and were given the same
keyframes in the same order: at the same moments, with the same declarations in the same order. -/
theorem text_tells_keyframes {name otherName : String}
    {frames others : List (KeyframeSelector × List KeyframeProperty)}
    (onLines : ((ofName name).withFrames frames).OnLines)
    (otherOnLines : ((ofName otherName).withFrames others).OnLines) :
    render ((ofName name).withFrames frames) = render ((ofName otherName).withFrames others) ↔
      name = otherName ∧ frames = others := by
  constructor
  · intro same
    have rules := eq_of_render_eq onLines otherOnLines same
    rw [withFrames_eq, withFrames_eq] at rules
    exact Keyframes.mk.inj rules
  · intro same
    rw [same.1, same.2]

/-- Braces, colons and semicolons in the values of declarations part nothing. -/
theorem text_tells_keyframes_braces :
    let frames : List (KeyframeSelector × List KeyframeProperty) :=
      [(.percentage .nan, [⟨"--a b", "x;\x7d"⟩, ⟨"", "  from \x7b: y"⟩]), (.fromStart, [])]
    let others := frames.reverse
    (((ofName "a \x7b").withFrames frames).OnLines ∧
        ((ofName "a \x7b").withFrames others).OnLines) ∧
      render ((ofName "a \x7b").withFrames frames) ≠
        render ((ofName "a \x7b").withFrames others) := by
  intro frames others
  have first : KeyframeProperty.OnLine ⟨"--a b", "x;\x7d"⟩ := ⟨by decide, by decide, by decide⟩
  have second : KeyframeProperty.OnLine ⟨"", "  from \x7b: y"⟩ :=
    ⟨by decide, by decide, by decide⟩
  have plain : ∀ frame ∈ frames, ∀ property ∈ frame.2, property.OnLine :=
    List.forall_mem_cons.mpr
      ⟨List.forall_mem_cons.mpr ⟨first, List.forall_mem_singleton.mpr second⟩,
        List.forall_mem_singleton.mpr (List.forall_mem_nil _)⟩
  have onLines : ((ofName "a \x7b").withFrames frames).OnLines := ⟨by decide, plain⟩
  have otherOnLines : ((ofName "a \x7b").withFrames others).OnLines :=
    ⟨by decide, fun frame member => plain frame (List.mem_reverse.mp member)⟩
  refine ⟨⟨onLines, otherOnLines⟩, fun same => ?_⟩
  have reversed := ((text_tells_keyframes onLines otherOnLines).mp same).2
  simp [frames, others] at reversed

end Keyframes
end CssValue
