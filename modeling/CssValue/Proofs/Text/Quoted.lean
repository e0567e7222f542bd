import CssValue.Proofs.Text.Words

/-!
# Quoted texts and tokens

The quotes of a text open and close by turns, so that every second one of the texts between them is
a quoted one.  The tokens of a text are what stands between its spaces, as far as something stands
there: the empty text has no token.
-/

namespace CssValue.Text

/-! ### Texts between quotes -/

/-- Every second element of a list, from the second one on. -/
def everySecond {α : Type} : List α → List α
  | _ :: second :: rest => second :: everySecond rest
  | _ => []

/-- The texts between quotes, of which every second one closes what the one before it has opened. -/
def quoted (text : String) : List String :=
  (everySecond (text.toList.splitOn '\'')).map String.ofList

/-- The text between quotes. -/
def quote (inside : String) : String := "'" ++ inside ++ "'"

/-- The words between spaces.  No word is empty. -/
def tokens (text : String) : List String := (splitAt ' ' text).filter (· ≠ "")

theorem toList_quote (inside : String) :
    (quote inside).toList = '\'' :: (inside.toList ++ ['\'']) := by
  simp [quote]

/-- Of a text split at its quotes the first quoted text comes second, and the rest goes on as
before. -/
theorem everySecond_splitOn_quote {front inside : List Char} (rest : List Char)
    (plain : '\'' ∉ front) (insidePlain : '\'' ∉ inside) :
    everySecond ((front ++ '\'' :: (inside ++ '\'' :: rest)).splitOn '\'') =
      inside :: everySecond (rest.splitOn '\'') := by
  rw [List.splitOn_append_cons_self_of_not_mem plain,
    List.splitOn_append_cons_self_of_not_mem insidePlain, everySecond]

variable {insides words : List String}

/-- The texts between the quotes of a train are the quoted ones, in order. -/
theorem everySecond_splitOn_train (plain : ∀ inside ∈ insides, '\'' ∉ inside.toList) :
    everySecond ((train (insides.map quote)).splitOn '\'') = insides.map String.toList := by
  induction insides with
  | nil => rfl
  | cons inside rest ih =>
      obtain ⟨first, later⟩ := List.forall_mem_cons.mp plain
      -- The space in front of a quoted text is outside of the quotes, and so it is passed over.
      have written : train ((inside :: rest).map quote) =
          [' '] ++ '\'' :: (inside.toList ++ '\'' :: train (rest.map quote)) := by
        simp [train, toList_quote]
      rw [written, everySecond_splitOn_quote _ (by decide) first, ih later, List.map_cons]

/-- Quoted texts with spaces between them are read back. -/
theorem quoted_spaced (plain : ∀ inside ∈ insides, '\'' ∉ inside.toList) :
    quoted (spaced (insides.map quote)) = insides := by
  cases insides with
  | nil => rfl
  | cons inside rest =>
      obtain ⟨first, later⟩ := List.forall_mem_cons.mp plain
      have written : (spaced ((inside :: rest).map quote)).toList =
          [] ++ '\'' :: (inside.toList ++ '\'' :: train (rest.map quote)) := by
        rw [List.map_cons, toList_spaced_cons, toList_quote]
        simp
      rw [quoted, written, everySecond_splitOn_quote _ List.not_mem_nil first,
        everySecond_splitOn_train later]
      change ((inside :: rest).map String.toList).map String.ofList = inside :: rest
      exact map_read_map_write fun _ _ => String.ofList_toList

/-- Words with spaces between them are the tokens of their text, also if there are none. -/
theorem tokens_spaced (shown : ∀ word ∈ words, word ≠ "" ∧ ' ' ∉ word.toList) :
    tokens (spaced words) = words := by
  by_cases present : words = []
  · rw [present]
    rfl
  · have split : splitAt ' ' (spaced words) = words :=
      splitAt_intercalate (rfl : " ".toList = [' ']) present fun word listed =>
        (shown word listed).2
    rw [tokens, split, List.filter_eq_self]
    exact fun word listed => decide_eq_true (shown word listed).1

end CssValue.Text
