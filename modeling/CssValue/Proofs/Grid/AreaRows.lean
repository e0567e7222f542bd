import CssValue.Grid.Template
import CssValue.Proofs.Text.Quoted

/-!
# Rows of named areas read back

The same space stands between the cells of a row and between two rows, but the rows are enclosed in
quotes.  No name holds a quote, and so the texts between quotes are the rows; no name is empty or
holds a space, and so the tokens of such a text are the cells.  A dot stands for a cell without a
name, and an empty row has no token at all.
-/

namespace CssValue

namespace GridTemplateAreas

/-! ### Cells -/

/-- The name of an area can stand in a row and is not the dot that stands for no name. -/
structure IsAreaName (name : String) : Prop where
  present : name ≠ ""
  space : ' ' ∉ name.toList
  quote : '\'' ∉ name.toList
  notDot : name ≠ "."

instance (name : String) : Decidable (IsAreaName name) :=
  decidable_of_iff (name ≠ "" ∧ ' ' ∉ name.toList ∧ '\'' ∉ name.toList ∧ name ≠ ".")
    ⟨fun ⟨present, space, quote, notDot⟩ => ⟨present, space, quote, notDot⟩,
      fun ⟨present, space, quote, notDot⟩ => ⟨present, space, quote, notDot⟩⟩

/-- The names in the rows are names of areas. -/
def Named (rows : List (List (Option String))) : Prop :=
  ∀ row ∈ rows, ∀ cell ∈ row, ∀ name ∈ cell, IsAreaName name

instance : DecidablePred Named := fun rows =>
  inferInstanceAs (Decidable (∀ row ∈ rows, ∀ cell ∈ row, ∀ name ∈ cell, IsAreaName name))

/-- What stands for a cell: its name, or a dot. -/
def cellText (cell : Option String) : String := cell.getD "."

/-- The cell that a token stands for. -/
def cellOf (token : String) : Option String := if token = "." then .none else some token

/-- What stands between the quotes of a row. -/
def insideText (cells : List (Option String)) : String := Text.spaced (cells.map cellText)

variable {cells : List (Option String)} {rows others : List (List (Option String))}

/-- A cell is told by its token. -/
theorem cellOf_cellText {cell : Option String} (named : ∀ name ∈ cell, IsAreaName name) :
    cellOf (cellText cell) = cell := by
  cases cell with
  | none => rfl
  | some name => exact if_neg (named name rfl).notDot

theorem cellText_ne_empty {cell : Option String} (named : ∀ name ∈ cell, IsAreaName name) :
    cellText cell ≠ "" := by
  cases cell with
  | none => decide
  | some name => exact (named name rfl).present

theorem space_not_mem_cellText {cell : Option String}
    (named : ∀ name ∈ cell, IsAreaName name) : ' ' ∉ (cellText cell).toList := by
  cases cell with
  | none => decide
  | some name => exact (named name rfl).space

theorem quote_not_mem_cellText {cell : Option String}
    (named : ∀ name ∈ cell, IsAreaName name) : '\'' ∉ (cellText cell).toList := by
  cases cell with
  | none => decide
  | some name => exact (named name rfl).quote

/-- The tokens of a row are those of its cells. -/
theorem tokens_insideText (named : ∀ cell ∈ cells, ∀ name ∈ cell, IsAreaName name) :
    Text.tokens (insideText cells) = cells.map cellText := by
  apply Text.tokens_spaced
  refine List.forall_mem_map.mpr fun cell listed => ?_
  exact ⟨cellText_ne_empty (named cell listed), space_not_mem_cellText (named cell listed)⟩

/-- No quote stands between the quotes of a row. -/
theorem quote_not_mem_insideText (named : ∀ cell ∈ cells, ∀ name ∈ cell, IsAreaName name) :
    '\'' ∉ (insideText cells).toList := by
  apply Text.not_mem_spaced (by decide)
  exact List.forall_mem_map.mpr fun cell listed => quote_not_mem_cellText (named cell listed)

/-! ### Rows -/

/-- A row is written between quotes. -/
theorem rowText_eq (cells : List (Option String)) :
    rowText cells = Text.quote (insideText cells) := rfl

/-- The rows are written with spaces between them. -/
theorem render_eq_spaced (present : rows ≠ []) :
    render (areas rows) = Text.spaced ((rows.map insideText).map Text.quote) := by
  change Text.orNone Text.spaced (rows.map rowText) = _
  rw [Text.orNone_of_ne_nil (mt List.map_eq_nil_iff.mp present), List.map_map]
  rfl

/-- The rows are the texts between quotes. -/
theorem quoted_render (named : Named rows) :
    Text.quoted (render (areas rows)) = rows.map insideText := by
  by_cases present : rows = []
  · rw [present]
    rfl
  · rw [render_eq_spaced present]
    exact Text.quoted_spaced (List.forall_mem_map.mpr fun row listed =>
      quote_not_mem_insideText (named row listed))

/-- The tokens between the quotes are those of the cells, row by row. -/
theorem map_tokens_quoted_render (named : Named rows) :
    (Text.quoted (render (areas rows))).map Text.tokens = rows.map (·.map cellText) := by
  rw [quoted_render named, List.map_map]
  exact List.map_congr_left fun row listed => tokens_insideText (named row listed)

theorem map_cellOf_cellText (named : Named rows) :
    (rows.map (·.map cellText)).map (·.map cellOf) = rows := by
  refine Text.map_read_map_write fun row listed => ?_
  exact Text.map_read_map_write fun cell member => cellOf_cellText (named row listed cell member)

/-- Rows of named areas that are written alike are the same. -/
theorem rows_eq_of_render_eq (named : Named rows) (otherNamed : Named others)
    (same : render (areas rows) = render (areas others)) : rows = others := by
  rw [← map_cellOf_cellText named, ← map_tokens_quoted_render named, same,
    map_tokens_quoted_render otherNamed, map_cellOf_cellText otherNamed]

/-- Only a template without rows is written `none`. -/
theorem render_eq_none_iff (rows : List (List (Option String))) :
    render (areas rows) = "none" ↔ rows = [] := by
  have marked : ∀ text ∈ rows.map rowText, '\'' ∈ text.toList := by
    refine List.forall_mem_map.mpr fun cells _ => ?_
    rw [rowText_eq, Text.toList_quote]
    exact List.mem_cons_self
  exact (Text.orNone_eq_none_iff (by decide) marked).trans List.map_eq_nil_iff

/-- **The text of a grid tells its rows.** Tables of named areas are written alike only if they have
the same rows with the same cells in the same order.  The text of a table is its quoted texts with
spaces between them, and these are the rows: each of them has as many tokens as the row has cells,
with a dot for a cell without a name.  Only the table without rows is `none`. -/
theorem text_tells_rows (named : Named rows) (otherNamed : Named others) :
    (render (areas rows) = render (areas others) ↔ rows = others) ∧
      (Text.quoted (render (areas rows))).map Text.tokens = rows.map (·.map (·.getD ".")) ∧
      (rows ≠ [] → render (areas rows) =
        Text.spaced ((Text.quoted (render (areas rows))).map fun inside => "'" ++ inside ++ "'")) ∧
      (render (areas rows) = "none" ↔ rows = []) := by
  refine ⟨⟨rows_eq_of_render_eq named otherNamed, fun same => by rw [same]⟩, ?_, ?_, ?_⟩
  · exact map_tokens_quoted_render named
  · intro present
    rw [quoted_render named]
    exact render_eq_spaced present
  · exact render_eq_none_iff rows

/-- An empty row and a row of one dot are told apart, and so are dots before and behind a name. -/
theorem text_tells_rows_ragged :
    let rows : List (List (Option String)) := [[some "a", .none], [], [.none]]
    let others : List (List (Option String)) := [[.none, some "a"], [.none], []]
    (Named rows ∧ Named others) ∧
      render (areas rows) ≠ render (areas others) ∧
      (Text.quoted (render (areas rows))).map Text.tokens = [["a", "."], [], ["."]] := by
  intro rows others
  have named : Named rows := by decide
  have otherNamed : Named others := by decide
  obtain ⟨same, tokens, _, _⟩ := text_tells_rows named otherNamed
  have different : rows ≠ others := by decide
  exact ⟨⟨named, otherNamed⟩, mt same.mp different, tokens⟩

end GridTemplateAreas
end CssValue
