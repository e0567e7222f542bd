import CssValue.Box.Border
import CssValue.Grid.Track
import CssValue.Motion.Animation
import CssValue.Paint.Background
import CssValue.Placement.ObjectPosition
import CssValue.Text.Blank
import Mathlib.Data.List.Nodup

/-!
# Tables of keywords

The table of an enumeration lists every keyword.  No two of its keywords share a tag, so that a tag
is read as the keyword it was written for.
-/

namespace CssValue

/-- Enumerations whose table is complete and tells the tags apart. -/
class LawfulKeyword (α : Type) [Keyword α] : Prop where
  mem_all : ∀ keyword : α, keyword ∈ (Keyword.all : List α) := by
    intro keyword
    cases keyword <;> decide
  tags_distinct : ((Keyword.all : List α).map Keyword.tag).Nodup := by decide +kernel
  /-- No token is white space throughout. -/
  tokens_shown : ∀ keyword ∈ (Keyword.all : List α),
      Text.isBlank (Keyword.token keyword) = false := by decide +kernel

namespace LawfulKeyword

instance : LawfulKeyword WideKeyword where

instance : LawfulKeyword LengthUnit where

instance : LawfulKeyword SizeKeyword where

instance : LawfulKeyword PositionKeyword where

instance : LawfulKeyword HorizontalKeyword where

instance : LawfulKeyword VerticalKeyword where

instance : LawfulKeyword NamedColor where

instance : LawfulKeyword SystemColor where

instance : LawfulKeyword RadialShape where

instance : LawfulKeyword SizeFit where

instance : LawfulKeyword BackgroundRepeat where

instance : LawfulKeyword BackgroundAttachment where

instance : LawfulKeyword BackgroundOrigin where

instance : LawfulKeyword BackgroundClip where

instance : LawfulKeyword CompositeOperator where

instance : LawfulKeyword GridAutoFlow where

instance : LawfulKeyword StepPosition where

instance : LawfulKeyword Direction where

instance : LawfulKeyword FillMode where

instance : LawfulKeyword PlayState where

instance : LawfulKeyword BorderStyle where

end LawfulKeyword

namespace Keyword

variable {α : Type} [Keyword α] [LawfulKeyword α]

/-- A tag is read as the keyword it was written for. -/
theorem ofTag?_tag (keyword : α) : ofTag? (tag keyword) = some keyword := by
  have listed := LawfulKeyword.mem_all keyword
  unfold ofTag?
  cases found : (all : List α).find? (tag · == tag keyword) with
  | none =>
      have absent := List.find?_eq_none.mp found keyword listed
      exact (absent (beq_self_eq_true _)).elim
  | some other =>
      have tags := List.find?_some found
      have present := List.mem_of_find?_eq_some found
      rw [List.inj_on_of_nodup_map LawfulKeyword.tags_distinct present listed (eq_of_beq tags)]

/-- Keywords that are written alike are the same. -/
theorem render_inj {first second : α} : token first = token second ↔ first = second := by
  constructor
  · intro same
    have tags : tag first = tag second := by rw [tag, tag, same]
    rw [← Option.some_inj, ← ofTag?_tag first, ← ofTag?_tag second, tags]
  · exact congrArg token

/-- A keyword that is set has its word in the table. -/
theorem mem_table_of_mem_part {value : Option α} :
    ∀ word ∈ Text.part value, word ∈ (all : List α).map render := by
  intro word member
  obtain ⟨keyword, _, rfl⟩ := List.mem_map.mp member
  exact List.mem_map_of_mem (LawfulKeyword.mem_all keyword)

end Keyword
end CssValue
