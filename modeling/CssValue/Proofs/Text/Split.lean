import CssValue.Text.Render

/-!
# Texts split at a mark

A text is split at every occurrence of a mark.  Parts in which the mark does not occur are read back
from the text that joins them with it.
-/

namespace CssValue.Text

/-- What is written element by element is read back element by element. -/
theorem map_read_map_write {α β : Type} {write : α → β} {read : β → α} {elements : List α}
    (reads : ∀ element ∈ elements, read (write element) = element) :
    (elements.map write).map read = elements := by
  rw [List.map_map]
  exact (List.map_congr_left reads).trans (List.map_id elements)

/-- The parts of a text between the occurrences of a mark. -/
def splitAt (mark : Char) (text : String) : List String :=
  (text.toList.splitOn mark).map String.ofList

variable {mark : Char} {separator : String} {parts others : List String}

/-- Parts without the mark are split apart again at the marks between them. -/
theorem splitAt_intercalate (single : separator.toList = [mark]) (present : parts ≠ [])
    (plain : ∀ part ∈ parts, mark ∉ part.toList) :
    splitAt mark (separator.intercalate parts) = parts := by
  have pieces : ([mark].intercalate (parts.map String.toList)).splitOn mark =
      parts.map String.toList := by
    apply List.splitOn_intercalate
    · exact List.forall_mem_map.mpr plain
    · exact mt List.map_eq_nil_iff.mp present
  rw [splitAt, String.toList_intercalate, single, pieces]
  exact map_read_map_write fun _ _ => String.ofList_toList

/-- Parts without the mark are told by the text that joins them with it. -/
theorem eq_of_intercalate_eq (single : separator.toList = [mark]) (present : parts ≠ [])
    (otherPresent : others ≠ []) (plain : ∀ part ∈ parts, mark ∉ part.toList)
    (otherPlain : ∀ part ∈ others, mark ∉ part.toList)
    (same : separator.intercalate parts = separator.intercalate others) : parts = others := by
  rw [← splitAt_intercalate single present plain, same,
    splitAt_intercalate single otherPresent otherPlain]

end CssValue.Text
