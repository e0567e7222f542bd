import CssValue.Proofs.Text.Parts

/-!
# Words

The words of a text have spaces between them.  A word keeps its own spaces in parentheses, or it is
the address of an image, which may hold spaces and parentheses at will between its quotes.  Behind a
space no word goes on to another word, and so a text has only one list of words.
-/

namespace CssValue.Text

/-- What stands before the first parenthesis: in a functional notation, its name. -/
def calledName (text : String) : String := String.ofList (cut '(' text.toList).1

/-- The name of a functional notation is what it calls. -/
theorem calledName_functional {name : String} (plain : '(' ∉ name.toList) (arguments : String) :
    calledName (functional name arguments) = name := by
  rw [calledName, toList_functional, cut_append _ plain, String.ofList_toList]

/-- Without a parenthesis the whole text counts as the name. -/
theorem calledName_of_not_mem {text : String} (absent : '(' ∉ text.toList) :
    calledName text = text := by
  rw [calledName, cut_of_not_mem absent, String.ofList_toList]

theorem head?_calledName {text : String} {c : Char} (starts : text.toList.head? = some c)
    (other : c ≠ '(') : (calledName text).toList.head? = some c := by
  obtain ⟨rest, written⟩ := List.head?_eq_some_iff.mp starts
  have before : (c != '(') = true := bne_iff_ne.mpr other
  rw [calledName, String.toList_ofList, cut, written, List.takeWhile_cons, if_pos before,
    List.head?_cons]

/-! ### Lists told apart at a seam -/

/-- Two lists in two pieces each are cut at the same place if neither first piece goes on to the
other one. -/
theorem append_inj_of_not_prefix {α : Type} {front otherFront back otherBack : List α}
    (apart : ∀ c ∈ back.head?, ¬ front ++ [c] <+: otherFront)
    (otherApart : ∀ c ∈ otherBack.head?, ¬ otherFront ++ [c] <+: front)
    (same : front ++ back = otherFront ++ otherBack) : front = otherFront ∧ back = otherBack := by
  rcases List.append_eq_append_iff.mp same with ⟨middle, longer, rest⟩ | ⟨middle, longer, rest⟩
  · cases middle with
    | nil =>
        rw [List.append_nil] at longer
        exact ⟨longer.symm, rest⟩
    | cons c more =>
        refine (apart c (by rw [rest]; exact rfl) ⟨more, ?_⟩).elim
        rw [longer, List.append_assoc, List.singleton_append]
  · cases middle with
    | nil =>
        rw [List.append_nil] at longer
        exact ⟨longer, rest.symm⟩
    | cons c more =>
        refine (otherApart c (by rw [rest]; exact rfl) ⟨more, ?_⟩).elim
        rw [longer, List.append_assoc, List.singleton_append]

/-- Two lists in two pieces each are cut where a property of their elements first fails. -/
theorem append_inj_of_forall {α : Type} {P : α → Prop} {front otherFront back otherBack : List α}
    (holds : ∀ c ∈ front, P c) (otherHolds : ∀ c ∈ otherFront, P c)
    (fails : ∀ c ∈ back.head?, ¬ P c) (otherFails : ∀ c ∈ otherBack.head?, ¬ P c)
    (same : front ++ back = otherFront ++ otherBack) : front = otherFront ∧ back = otherBack := by
  refine append_inj_of_not_prefix ?_ ?_ same
  · intro c first continued
    have member := continued.subset (List.mem_append_right front (List.mem_singleton_self c))
    exact fails c first (otherHolds c member)
  · intro c first continued
    have member := continued.subset (List.mem_append_right otherFront (List.mem_singleton_self c))
    exact otherFails c first (holds c member)

/-! ### Words -/

/-- The text keeps its spaces in parentheses, or it is the address of an image between quotes. -/
inductive IsWord (text : String) : Prop where
  | closed (seals : Sealed ' ' text.toList) (other : calledName text ≠ "url")
  | quoted (address : String) (plain : '\'' ∉ address.toList)
      (written : text = functional "url" ("'" ++ address ++ "'"))

/-- How the address of an image begins. -/
def opening : List Char := "url('".toList

variable {text other : String}

/-- A text that does not call `url` is not the address of an image. -/
theorem not_opening_prefix (named : calledName text ≠ "url") : ¬ opening <+: text.toList := by
  rintro ⟨rest, split⟩
  have written : text.toList = "url".toList ++ '(' :: '\'' :: rest := split.symm
  rw [calledName, written, cut_append _ (by decide)] at named
  exact named rfl

theorem toList_quoted (address : String) :
    (functional "url" ("'" ++ address ++ "'")).toList =
      opening ++ (address.toList ++ ['\'', ')']) := by
  simp [opening]

/-- A word behind which there is a space does not go on to another word. -/
theorem IsWord.not_prefix (word : IsWord text) (otherWord : IsWord other) :
    ¬ text.toList ++ [' '] <+: other.toList := by
  intro continued
  cases word with
  | closed seals named =>
      cases otherWord with
      | closed otherSeals otherNamed =>
          obtain ⟨rest, split⟩ := continued
          apply otherSeals.inside
          rw [← split, List.append_assoc, outside_append _ seals.balanced]
          exact List.mem_append_right _ List.mem_cons_self
      | quoted address plain written =>
          -- The space would have to stand inside the opening, which has none.
          have opened : opening <+: other.toList := by
            rw [written, toList_quoted]
            exact List.prefix_append _ _
          rcases List.prefix_or_prefix_of_prefix continued opened with inside | outside
          · have member := inside.subset (List.mem_append_right _ (List.mem_singleton_self ' '))
            exact absurd member (by decide)
          · rcases List.prefix_concat_iff.mp outside with whole | before
            · have member : ' ' ∈ opening := by
                rw [whole]
                exact List.mem_append_right _ (List.mem_singleton_self ' ')
              exact absurd member (by decide)
            · exact not_opening_prefix named before
  | quoted address plain written =>
      have opened : opening <+: text.toList := by
        rw [written, toList_quoted]
        exact List.prefix_append _ _
      cases otherWord with
      | closed otherSeals otherNamed =>
          have before := List.prefix_append text.toList [' ']
          exact not_opening_prefix otherNamed (opened.trans (before.trans continued))
      | quoted otherAddress otherPlain otherWritten =>
          obtain ⟨rest, split⟩ := continued
          rw [written, otherWritten, toList_quoted, toList_quoted] at split
          simp only [List.append_assoc, List.append_cancel_left_eq, List.cons_append] at split
          have cuts := congrArg (cut '\'') split
          rw [cut_append _ plain, cut_append _ otherPlain] at cuts
          cases (Prod.mk.inj cuts).2

/-! ### Words with spaces between them -/

/-- The characters of the parts, with a space before each part. -/
def train (parts : List String) : List Char := parts.flatMap fun part => ' ' :: part.toList

/-- A train of words is their spaced text with a space in front. -/
theorem train_eq {parts : List String} (present : parts ≠ []) :
    train parts = ' ' :: (spaced parts).toList := by
  induction parts with
  | nil => exact (present rfl).elim
  | cons part rest ih =>
      cases rest with
      | nil => simp [train]
      | cons next others =>
          have later := ih (List.cons_ne_nil _ _)
          simp only [train, toList_spaced, List.flatMap_cons, List.map_cons,
            List.intercalate_cons_cons] at later ⊢
          rw [later]
          simp

/-- Spaced words are the first word with a train of the others. -/
theorem toList_spaced_cons (word : String) (rest : List String) :
    (spaced (word :: rest)).toList = word.toList ++ train rest := by
  have joined := train_eq (List.cons_ne_nil word rest)
  exact (List.cons.inj joined).2.symm

theorem not_mem_spaced {mark : Char} {words : List String} (other : mark ≠ ' ')
    (absent : ∀ word ∈ words, mark ∉ word.toList) : mark ∉ (spaced words).toList := by
  cases words with
  | nil => exact List.not_mem_nil
  | cons word rest =>
      obtain ⟨first, later⟩ := List.forall_mem_cons.mp absent
      rw [toList_spaced_cons, List.mem_append, not_or]
      refine ⟨first, fun member => ?_⟩
      obtain ⟨part, listed, written⟩ := List.mem_flatMap.mp member
      rcases List.mem_cons.mp written with space | inside
      · exact other space
      · exact later part listed inside

/-- A train of spaced groups is the train of all their words. -/
theorem train_map_spaced {groups : List (List String)} (present : ∀ group ∈ groups, group ≠ []) :
    train (groups.map spaced) = train groups.flatten := by
  induction groups with
  | nil => rfl
  | cons group rest ih =>
      obtain ⟨first, later⟩ := List.forall_mem_cons.mp present
      calc train (spaced group :: rest.map spaced)
          = ' ' :: (spaced group).toList ++ train (rest.map spaced) := rfl
        _ = train group ++ train rest.flatten := by rw [train_eq first, ih later]
        _ = train (group ++ rest.flatten) := List.flatMap_append.symm

/-- Groups of words are joined with the same text one by one and all at once. -/
theorem spaced_flatten {groups : List (List String)} (some : groups ≠ [])
    (present : ∀ group ∈ groups, group ≠ []) :
    spaced (groups.map spaced) = spaced groups.flatten := by
  have flat : groups.flatten ≠ [] := by
    intro empty
    have first := List.head_mem some
    exact present _ first (List.flatten_eq_nil_iff.mp empty _ first)
  have trains := train_map_spaced present
  rw [train_eq (mt List.map_eq_nil_iff.mp some), train_eq flat, List.cons_inj_right] at trains
  exact String.toList_inj.mp trains

/-- A train has only one list of words. -/
theorem eq_of_train_eq {first second : List String} (words : ∀ word ∈ first, IsWord word)
    (otherWords : ∀ word ∈ second, IsWord word) (same : train first = train second) :
    first = second := by
  induction first generalizing second with
  | nil =>
      cases second with
      | nil => rfl
      | cons other others => cases same
  | cons word rest ih =>
      cases second with
      | nil => cases same
      | cons other others =>
          obtain ⟨first, later⟩ := List.forall_mem_cons.mp words
          obtain ⟨otherFirst, otherLater⟩ := List.forall_mem_cons.mp otherWords
          have behind : word.toList ++ train rest = other.toList ++ train others :=
            (List.cons.inj same).2
          have space : ∀ {parts : List String}, ∀ c ∈ (train parts).head?, c = ' ' := by
            intro parts c starts
            cases parts with
            | nil => cases starts
            | cons part parts => exact (Option.some.inj starts).symm
          obtain ⟨heads, tails⟩ := append_inj_of_not_prefix
            (fun c starts => space c starts ▸ first.not_prefix otherFirst)
            (fun c starts => space c starts ▸ otherFirst.not_prefix first) behind
          rw [String.toList_inj.mp heads, ih later otherLater tails]

/-- A spaced text has only one list of words, if there is a word at all. -/
theorem eq_of_spaced_eq {first second : List String} (words : ∀ word ∈ first, IsWord word)
    (otherWords : ∀ word ∈ second, IsWord word) (present : first ≠ [])
    (otherPresent : second ≠ []) (same : spaced first = spaced second) : first = second := by
  apply eq_of_train_eq words otherWords
  rw [train_eq present, train_eq otherPresent, same]

/-! ### Optional parts -/

section Parts

variable {α : Type} [Render α] {value other : Option α}

/-- An optional part is told by its text. -/
theorem part_inj : part value = part other ↔ value.map render = other.map render := by
  cases value <;> cases other <;> simp [part]

/-- Values that are written as several words are written alike if their words are the same. -/
theorem map_render_eq_of_words_eq {words : α → List String} (read : List String → String)
    (present : ∀ value, words value ≠ []) (reads : ∀ value, read (words value) = render value)
    (same : value.toList.flatMap words = other.toList.flatMap words) :
    value.map render = other.map render := by
  cases value with
  | none =>
      cases other with
      | none => rfl
      | some other => exact (present other (by simpa using same)).elim
  | some value =>
      cases other with
      | none => exact (present value (by simpa using same)).elim
      | some other =>
          have written : words value = words other := by simpa using same
          rw [Option.map_some, Option.map_some, ← reads, ← reads, written]

end Parts

end CssValue.Text
