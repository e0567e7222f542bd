import CssValue.Proofs.Text.Split

/-!
# Texts split outside their parentheses

Parts that are separated by a space or a comma may hold such separators themselves, inside
parentheses.  A text whose parentheses are balanced, and which keeps a mark inside of them, is
sealed against that mark; a text put together from sealed parts is split into these parts again at
the separators outside all parentheses.
-/

namespace CssValue.Text

/-- The nesting depth behind a character. -/
def depthBehind (depth : Nat) (c : Char) : Nat :=
  if c = '(' then depth + 1 else if c = ')' then depth - 1 else depth

/-- The nesting depth behind a text, unless a parenthesis closes that was never opened. -/
def depthAfter? : Nat → List Char → Option Nat
  | depth, [] => some depth
  | depth, c :: rest =>
    if c = ')' ∧ depth = 0 then none else depthAfter? (depthBehind depth c) rest

/-- The characters of a text outside all parentheses, with the opening parentheses there. -/
def outside : Nat → List Char → List Char
  | _, [] => []
  | 0, c :: rest => c :: outside (depthBehind 0 c) rest
  | depth + 1, c :: rest => outside (depthBehind (depth + 1) c) rest

/-- Every parenthesis that is opened is closed, and none is closed that was never opened. -/
def Balanced (text : List Char) : Prop := depthAfter? 0 text = some 0

instance (text : List Char) : Decidable (Balanced text) :=
  inferInstanceAs (Decidable (depthAfter? 0 text = some 0))

/-- The marks that separators begin with. -/
def IsSeparator (mark : Char) : Prop := mark = ' ' ∨ mark = ','

theorem IsSeparator.ne_opening {mark : Char} (separator : IsSeparator mark) : mark ≠ '(' := by
  rcases separator with rfl | rfl <;> decide

/-- The parentheses are balanced, and the mark occurs only inside of them. -/
structure Sealed (mark : Char) (text : List Char) : Prop where
  balanced : Balanced text
  inside : mark ∉ outside 0 text

instance (mark : Char) (text : List Char) : Decidable (Sealed mark text) :=
  decidable_of_iff (Balanced text ∧ mark ∉ outside 0 text)
    ⟨fun ⟨balanced, inside⟩ => ⟨balanced, inside⟩, fun ⟨balanced, inside⟩ => ⟨balanced, inside⟩⟩

/-- A text that is scanned to its end is scanned character by character, and none of them closes
what was never opened. -/
theorem depthAfter?_cons {depth final : Nat} {c : Char} {rest : List Char}
    (scanned : depthAfter? depth (c :: rest) = some final) :
    ¬ (c = ')' ∧ depth = 0) ∧ depthAfter? (depthBehind depth c) rest = some final := by
  rw [depthAfter?] at scanned
  by_cases unopened : c = ')' ∧ depth = 0
  · rw [if_pos unopened] at scanned
    exact (Option.some_ne_none _ scanned.symm).elim
  · rw [if_neg unopened] at scanned
    exact ⟨unopened, scanned⟩

/-- One level further in, a character leads to a depth that is greater by one. -/
theorem depthBehind_succ {depth : Nat} {c : Char} (opened : ¬ (c = ')' ∧ depth = 0)) :
    depthBehind (depth + 1) c = depthBehind depth c + 1 := by
  simp only [depthBehind]
  grind

/-- A text in two pieces is scanned piece by piece. -/
theorem depthAfter?_append (depth : Nat) (first second : List Char) :
    depthAfter? depth (first ++ second) =
      (depthAfter? depth first).bind fun between => depthAfter? between second := by
  induction first generalizing depth with
  | nil => rfl
  | cons c rest ih =>
      rw [List.cons_append, depthAfter?, depthAfter?]
      split
      · rfl
      · exact ih _

/-- Inside further parentheses a text goes through depths that are greater by one. -/
theorem depthAfter?_succ {depth final : Nat} {text : List Char}
    (scanned : depthAfter? depth text = some final) :
    depthAfter? (depth + 1) text = some (final + 1) := by
  induction text generalizing depth with
  | nil =>
      rw [depthAfter?, Option.some_inj] at scanned
      rw [depthAfter?, scanned]
  | cons c rest ih =>
      obtain ⟨opened, scanned⟩ := depthAfter?_cons scanned
      rw [depthAfter?, if_neg fun closing => Nat.succ_ne_zero depth closing.2,
        depthBehind_succ opened]
      exact ih scanned

/-- Nothing of a text in parentheses is outside of them. -/
theorem outside_succ {depth final : Nat} {text : List Char}
    (scanned : depthAfter? depth text = some final) : outside (depth + 1) text = [] := by
  induction text generalizing depth with
  | nil => rfl
  | cons c rest ih =>
      obtain ⟨opened, scanned⟩ := depthAfter?_cons scanned
      rw [outside, depthBehind_succ opened]
      exact ih scanned

/-- What is outside of parentheses is found piece by piece, at the depth behind the first piece. -/
theorem outside_append {depth between : Nat} {first : List Char} (second : List Char)
    (scanned : depthAfter? depth first = some between) :
    outside depth (first ++ second) = outside depth first ++ outside between second := by
  induction first generalizing depth with
  | nil =>
      rw [depthAfter?, Option.some_inj] at scanned
      rw [scanned]
      rfl
  | cons c rest ih =>
      have scannedRest := (depthAfter?_cons scanned).2
      cases depth with
      | zero => rw [List.cons_append, outside, outside, ih scannedRest, List.cons_append]
      | succ depth => rw [List.cons_append, outside, outside, ih scannedRest]

/-! ### Balanced and sealed texts -/

variable {mark : Char} {first second text : List Char}

theorem Balanced.append (left : Balanced first) (right : Balanced second) :
    Balanced (first ++ second) := by
  rw [Balanced, depthAfter?_append, left, Option.bind_some, right]

/-- Balanced pieces with a balanced separator between them are balanced. -/
theorem Balanced.intercalate {separator : List Char} {pieces : List (List Char)}
    (between : Balanced separator) (balanced : ∀ piece ∈ pieces, Balanced piece) :
    Balanced (separator.intercalate pieces) := by
  induction pieces with
  | nil => rfl
  | cons piece rest ih =>
      have first := balanced piece List.mem_cons_self
      have later := ih fun piece member => balanced piece (List.mem_cons_of_mem _ member)
      cases rest with
      | nil => rwa [List.intercalate_singleton]
      | cons next others =>
          rw [List.intercalate_cons_cons]
          exact (first.append between).append later

/-- A text without parentheses does not change the depth. -/
theorem depthAfter?_of_plain (depth : Nat) (plain : ∀ c ∈ text, c ≠ '(' ∧ c ≠ ')') :
    depthAfter? depth text = some depth := by
  induction text with
  | nil => rfl
  | cons c rest ih =>
      obtain ⟨notOpening, notClosing⟩ := plain c List.mem_cons_self
      rw [depthAfter?, if_neg fun closing => notClosing closing.1, depthBehind,
        if_neg notOpening, if_neg notClosing]
      exact ih fun c member => plain c (List.mem_cons_of_mem _ member)

theorem balanced_of_plain (plain : ∀ c ∈ text, c ≠ '(' ∧ c ≠ ')') : Balanced text :=
  depthAfter?_of_plain 0 plain

theorem mem_of_mem_outside {c : Char} {depth : Nat} (member : c ∈ outside depth text) :
    c ∈ text := by
  induction text generalizing depth with
  | nil =>
      rw [outside] at member
      exact member
  | cons head rest ih =>
      cases depth with
      | zero =>
          rw [outside] at member
          rcases List.mem_cons.mp member with rfl | later
          · exact List.mem_cons_self
          · exact List.mem_cons_of_mem _ (ih later)
      | succ depth =>
          rw [outside] at member
          exact List.mem_cons_of_mem _ (ih member)

/-- A text without parentheses is sealed against every mark that it does not have. -/
theorem sealed_of_plain (plain : ∀ c ∈ text, c ≠ '(' ∧ c ≠ ')' ∧ c ≠ mark) : Sealed mark text where
  balanced := balanced_of_plain fun c member => ⟨(plain c member).1, (plain c member).2.1⟩
  inside member := (plain mark (mem_of_mem_outside member)).2.2 rfl

/-- Sealed texts side by side are sealed. -/
theorem Sealed.append (left : Sealed mark first) (right : Sealed mark second) :
    Sealed mark (first ++ second) where
  balanced := left.balanced.append right.balanced
  inside := by
    rw [outside_append second left.balanced, List.mem_append]
    exact fun member => member.elim left.inside right.inside

/-- Parentheses around a balanced text are closed again. -/
theorem depthAfter?_parenthesized (arguments : Balanced text) :
    depthAfter? 0 ('(' :: (text ++ [')'])) = some 0 := by
  rw [depthAfter?, if_neg (by decide), depthBehind, if_pos rfl, depthAfter?_append,
    depthAfter?_succ arguments]
  rfl

/-- In the functional notation the parentheses seal balanced arguments against every mark. -/
theorem sealed_functional {name arguments : String} (named : Sealed mark name.toList)
    (balanced : Balanced arguments.toList) (notOpening : mark ≠ '(') :
    Sealed mark (functional name arguments).toList := by
  have parenthesized : Sealed mark ('(' :: (arguments.toList ++ [')'])) := by
    refine ⟨depthAfter?_parenthesized balanced, ?_⟩
    have hidden : outside 1 (arguments.toList ++ [')']) = [] := by
      rw [outside_append _ (depthAfter?_succ balanced), outside_succ balanced]
      rfl
    rw [outside, depthBehind, if_pos rfl, hidden, List.mem_singleton]
    exact notOpening
  rw [toList_functional]
  exact named.append parenthesized

/-! ### Splitting -/

/-- The parts of a text between the occurrences of a separator outside all parentheses.  `skip`
characters of an occurrence are still to be passed over. -/
def splitFrom (separator : List Char) : (skip depth : Nat) → List Char → List (List Char)
  | _, _, [] => [[]]
  | skip + 1, depth, _ :: rest => splitFrom separator skip depth rest
  | 0, depth, c :: rest =>
    if depth = 0 ∧ separator.isPrefixOf (c :: rest) then
      [] :: splitFrom separator (separator.length - 1) 0 rest
    else (splitFrom separator 0 (depthBehind depth c) rest).modifyHead (c :: ·)

/-- The parts of a text between the occurrences of a separator outside all parentheses. -/
def splitOutside (separator text : String) : List String :=
  (splitFrom separator.toList 0 0 text.toList).map String.ofList

section Splitting

variable {mark : Char} {more : List Char}

theorem splitFrom_skip (separator skipped rest : List Char) (depth : Nat) :
    splitFrom separator skipped.length depth (skipped ++ rest) =
      splitFrom separator 0 depth rest := by
  induction skipped with
  | nil => rfl
  | cons c later ih => rw [List.length_cons, List.cons_append, splitFrom, ih]

/-- A part ends where a separator stands outside of parentheses. -/
theorem splitFrom_separator (rest : List Char) :
    splitFrom (mark :: more) 0 0 (mark :: more ++ rest) =
      [] :: splitFrom (mark :: more) 0 0 rest := by
  have occurs : (mark :: more).isPrefixOf (mark :: (more ++ rest)) = true :=
    List.isPrefixOf_iff_prefix.mpr (List.prefix_append (mark :: more) rest)
  rw [List.cons_append, splitFrom, if_pos ⟨rfl, occurs⟩, List.length_cons, Nat.add_sub_cancel,
    splitFrom_skip]

/-- A text in which the first character of the separator is not outside the parentheses belongs to
one part. -/
theorem splitFrom_append {depth between : Nat} {piece : List Char} (rest : List Char)
    (scanned : depthAfter? depth piece = some between) (inside : mark ∉ outside depth piece) :
    splitFrom (mark :: more) 0 depth (piece ++ rest) =
      (splitFrom (mark :: more) 0 between rest).modifyHead (piece ++ ·) := by
  induction piece generalizing depth with
  | nil =>
      rw [depthAfter?, Option.some_inj] at scanned
      rw [scanned]
      exact (congrFun List.modifyHead_id _).symm
  | cons c later ih =>
      have laterInside : mark ∉ outside (depthBehind depth c) later := by
        cases depth with
        | zero => exact fun member => inside (List.mem_cons_of_mem _ member)
        | succ depth => exact inside
      have continued : ¬ (depth = 0 ∧ (mark :: more).isPrefixOf (c :: (later ++ rest)) = true) := by
        -- A separator here would start with its mark, outside all parentheses.
        rintro ⟨rfl, occurs⟩
        have same : mark = c :=
          (List.cons_prefix_cons.mp (List.isPrefixOf_iff_prefix.mp occurs)).1
        exact inside (same ▸ List.mem_cons_self)
      rw [List.cons_append, splitFrom, if_neg continued,
        ih (depthAfter?_cons scanned).2 laterInside, List.modifyHead_modifyHead]
      rfl

/-- Sealed parts with separators between them are split into these parts again. -/
theorem splitFrom_intercalate {pieces : List (List Char)} (present : pieces ≠ [])
    (seals : ∀ piece ∈ pieces, Sealed mark piece) :
    splitFrom (mark :: more) 0 0 ((mark :: more).intercalate pieces) = pieces := by
  induction pieces with
  | nil => exact (present rfl).elim
  | cons piece rest ih =>
      obtain ⟨balanced, inside⟩ := seals piece List.mem_cons_self
      cases rest with
      | nil =>
          have whole : splitFrom (mark :: more) 0 0 (piece ++ []) = _ :=
            splitFrom_append [] balanced inside
          rw [List.append_nil] at whole
          rw [List.intercalate_singleton, whole, splitFrom, List.modifyHead_cons, List.append_nil]
      | cons next others =>
          have split := ih (List.cons_ne_nil _ _) fun part member =>
            seals part (List.mem_cons_of_mem _ member)
          rw [List.intercalate_cons_cons, List.append_assoc, splitFrom_append _ balanced inside,
            splitFrom_separator, split, List.modifyHead_cons, List.append_nil]

/-- Sealed parts with a separator between them are split into these parts again. -/
theorem splitOutside_intercalate {separator : String} {parts : List String}
    (starts : separator.toList = mark :: more) (present : parts ≠ [])
    (seals : ∀ part ∈ parts, Sealed mark part.toList) :
    splitOutside separator (separator.intercalate parts) = parts := by
  have sealedTexts : ∀ text ∈ parts.map String.toList, Sealed mark text := by
    intro text member
    obtain ⟨part, listed, rfl⟩ := List.mem_map.mp member
    exact seals part listed
  have texts : splitFrom (mark :: more) 0 0 ((mark :: more).intercalate (parts.map String.toList)) =
      parts.map String.toList :=
    splitFrom_intercalate (mt List.map_eq_nil_iff.mp present) sealedTexts
  rw [splitOutside, String.toList_intercalate, starts, texts]
  exact map_read_map_write fun _ _ => String.ofList_toList

end Splitting

end CssValue.Text
