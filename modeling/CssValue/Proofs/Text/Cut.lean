import CssValue.Text.Render

/-!
# Texts cut at a mark

A text is cut at the first occurrence of a mark into what stands before it and what stands behind
it.  The functional notation, cut at its first parenthesis, gives the name; the rest but for the
last parenthesis is the arguments.
-/

namespace CssValue.Text

/-- What stands before the first occurrence of a mark, and what stands behind it. -/
def cut (mark : Char) (text : List Char) : List Char × List Char :=
  (text.takeWhile (· != mark), (text.dropWhile (· != mark)).drop 1)

variable {mark : Char} {front : List Char}

/-- A text is cut at the first of its marks. -/
theorem cut_append (back : List Char) (absent : mark ∉ front) :
    cut mark (front ++ mark :: back) = (front, back) := by
  have before : ∀ c ∈ front, (c != mark) = true := fun c member =>
    bne_iff_ne.mpr fun same => absent (same ▸ member)
  simp [cut, List.takeWhile_append_of_pos before, List.dropWhile_append_of_pos before]

/-- Without a mark all of the text stands before the cut. -/
theorem cut_of_not_mem (absent : mark ∉ front) : cut mark front = (front, []) := by
  induction front with
  | nil => rfl
  | cons c rest ih =>
      have before : (c != mark) = true := bne_iff_ne.mpr (List.ne_of_not_mem_cons absent).symm
      have cutRest := Prod.mk.inj (ih (List.not_mem_of_not_mem_cons absent))
      simp only [cut, List.takeWhile_cons, List.dropWhile_cons, before, ↓reduceIte, cutRest.1,
        cutRest.2]

theorem parenthesis_mem_functional (name arguments : String) :
    '(' ∈ (functional name arguments).toList := by
  rw [toList_functional]
  exact List.mem_append_right _ List.mem_cons_self

/-- The functional notation tells its name and its arguments apart. -/
theorem functional_inj {name other arguments otherArguments : String}
    (plain : '(' ∉ name.toList) (otherPlain : '(' ∉ other.toList)
    (same : functional name arguments = functional other otherArguments) :
    name = other ∧ arguments = otherArguments := by
  have cuts := congrArg (fun text => cut '(' text.toList) same
  simp only [toList_functional, cut_append _ plain, cut_append _ otherPlain, Prod.mk.injEq,
    List.append_cancel_right_eq] at cuts
  exact ⟨String.toList_inj.mp cuts.1, String.toList_inj.mp cuts.2⟩

end CssValue.Text
