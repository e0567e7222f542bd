import CssValue.Effect.Transform

/-!
# Transforms as chains of functions

A transform is walked in two ways, once to write it and once to take it apart.  Both walks meet the
same functions in the same order, so the text of a transform is decided by its chain of functions
alone, and a compound may be regrouped without any change of the text.  A sum is the chain of its
first term followed by the chain of its second, whatever the grouping of the two terms, and so sums
of transforms may be grouped at will.
-/

namespace CssValue.Transform

mutual

/-- Taking a transform apart puts its functions behind those collected before. -/
theorem flattenInto_eq (collected : List Transform) :
    ∀ transform : Transform,
      flattenInto collected transform = collected ++ transform.functions.map function
  | none => by simp only [flattenInto, functions, List.map_nil, List.append_nil]
  | function f => by simp only [flattenInto, functions, List.map_cons, List.map_nil]
  | compound members => flattenAllInto_eq collected members

/-- Taking members apart puts the functions of all of them behind those collected before. -/
theorem flattenAllInto_eq (collected : List Transform) :
    ∀ members : List Transform,
      flattenAllInto collected members = collected ++ (functionsOfAll members).map function
  | [] => by simp only [flattenAllInto, functionsOfAll, List.map_nil, List.append_nil]
  | member :: rest => by
      rw [flattenAllInto, flattenInto_eq collected member, flattenAllInto_eq _ rest,
        functionsOfAll, List.map_append, List.append_assoc]

end

/-- The two walks over a transform agree. -/
theorem intoFunctions_eq_functions (transform : Transform) :
    transform.intoFunctions = transform.functions.map function := by
  rw [intoFunctions, flattenInto_eq, List.nil_append]

/-- A transform is taken apart into single functions. -/
theorem single_of_mem_intoFunctions {transform member : Transform}
    (collected : member ∈ transform.intoFunctions) : ∃ f, member = function f := by
  rw [intoFunctions_eq_functions] at collected
  obtain ⟨f, _, rfl⟩ := List.mem_map.mp collected
  exact ⟨f, rfl⟩

/-- A transform is written as its chain of functions, or as `none` if the chain is empty. -/
theorem render_eq_functions (transform : Transform) :
    render transform = Text.orNone Text.spaced (transform.functions.map render) := by
  cases transform with
  | none => rfl
  | function f => rfl
  | compound members => rfl

theorem render_congr {first second : Transform} (same : first.functions = second.functions) :
    render first = render second := by
  rw [render_eq_functions, render_eq_functions, same]

/-- Transforms that differ in the grouping of their members: a transform is wrapped in a compound of
its own, an inner compound is replaced by its members, or a member that is nothing is left out, at
any place and any number of times. -/
inductive Regrouped : Transform → Transform → Prop where
  | wrap (transform : Transform) : Regrouped transform (compound [transform])
  | inline (before inner after : List Transform) :
      Regrouped (compound (before ++ compound inner :: after))
        (compound (before ++ inner ++ after))
  | discard (before after : List Transform) :
      Regrouped (compound (before ++ none :: after)) (compound (before ++ after))
  | member (before after : List Transform) {first second : Transform}
      (regrouped : Regrouped first second) :
      Regrouped (compound (before ++ first :: after)) (compound (before ++ second :: after))
  | refl (transform : Transform) : Regrouped transform transform
  | symm {first second : Transform} (regrouped : Regrouped first second) :
      Regrouped second first
  | trans {first second third : Transform} (left : Regrouped first second)
      (right : Regrouped second third) : Regrouped first third

/-- Regrouping keeps the chain of functions. -/
theorem Regrouped.functions_eq {first second : Transform} (regrouped : Regrouped first second) :
    first.functions = second.functions := by
  induction regrouped with
  | wrap transform =>
      rw [functions_compound, List.flatMap_cons, List.flatMap_nil, List.append_nil]
  | inline before inner after =>
      simp only [functions_compound, List.flatMap_append, List.flatMap_cons, List.append_assoc]
  | discard before after =>
      simp only [functions_compound, List.flatMap_append, List.flatMap_cons, functions_none,
        List.nil_append]
  | member before after regrouped same =>
      simp only [functions_compound, List.flatMap_append, List.flatMap_cons, same]
  | refl transform => rfl
  | symm regrouped same => exact same.symm
  | trans left right leftSame rightSame => exact leftSame.trans rightSame

/-- **The text of a transform is its chain of functions.** It is the texts of the single functions
that the transform is taken apart into, in order and separated by spaces, or `none` when there are
none; regrouping the members changes neither. -/
theorem render_eq_intoFunctions (transform : Transform) :
    render transform =
        (if transform.intoFunctions = [] then "none"
          else " ".intercalate (transform.intoFunctions.map render)) ∧
      (∀ member ∈ transform.intoFunctions,
        member ≠ none ∧ ∀ members, member ≠ compound members) ∧
      (∀ other, Regrouped transform other →
        other.intoFunctions = transform.intoFunctions ∧ render other = render transform) := by
  refine ⟨?_, ?_, ?_⟩
  · have texts : transform.intoFunctions.map render = transform.functions.map render := by
      rw [intoFunctions_eq_functions, List.map_map]
      rfl
    have empty : transform.intoFunctions = [] ↔ transform.functions = [] := by
      rw [intoFunctions_eq_functions, List.map_eq_nil_iff]
    rw [render_eq_functions, texts]
    simp only [Text.orNone, Text.spaced, empty, List.isEmpty_iff, List.map_eq_nil_iff]
  · intro member collected
    obtain ⟨f, rfl⟩ := single_of_mem_intoFunctions collected
    exact ⟨Transform.noConfusion, fun members => Transform.noConfusion⟩
  · intro other regrouped
    have same := regrouped.functions_eq
    rw [intoFunctions_eq_functions, intoFunctions_eq_functions, same]
    exact ⟨rfl, render_congr same.symm⟩

/-- A transform with functions in nested compounds, and the same one regrouped. -/
theorem render_eq_intoFunctions_nested :
    let f := TransformFunction.scaleX 2
    let nested := compound [none, compound [function f, compound []], function f]
    (function f ∈ nested.intoFunctions ∧ function f ≠ none) ∧
      Regrouped nested (compound [compound [function f, compound []], function f]) ∧
      render (compound [compound [function f, compound []], function f]) = render nested := by
  intro f nested
  obtain ⟨_, single, regrouping⟩ := render_eq_intoFunctions nested
  have regrouped : Regrouped nested (compound [compound [function f, compound []], function f]) :=
    .discard [] _
  have collected : function f ∈ nested.intoFunctions := List.mem_cons_self
  exact ⟨⟨collected, (single _ collected).1⟩, regrouped, (regrouping _ regrouped).2⟩

/-! ### Sums -/

/-- A sum is the compound of the functions of its terms. -/
theorem add_eq_compound (first second : Transform) :
    first + second = compound (first.intoFunctions ++ second.intoFunctions) := by
  rw [add_eq, flattenInto_eq, intoFunctions_eq_functions second]

private theorem flatMap_functions_singles (list : List TransformFunction) :
    (list.map function).flatMap functions = list := by
  rw [List.flatMap_map]
  exact List.flatMap_singleton' list

theorem functions_add (first second : Transform) :
    (first + second).functions = first.functions ++ second.functions := by
  rw [add_eq_compound, functions_compound, List.flatMap_append, intoFunctions_eq_functions,
    intoFunctions_eq_functions, flatMap_functions_singles, flatMap_functions_singles]

/-- A sum is taken apart into what its terms are taken apart into. -/
theorem intoFunctions_add (first second : Transform) :
    (first + second).intoFunctions = first.intoFunctions ++ second.intoFunctions := by
  simp only [intoFunctions_eq_functions, functions_add, List.map_append]

/-- A sum of transforms together with the grouping of its terms. -/
inductive Grouping where
  | term (transform : Transform)
  | sum (left right : Grouping)

namespace Grouping

def terms : Grouping → List Transform
  | term transform => [transform]
  | sum left right => left.terms ++ right.terms

/-- The terms, added up in the given grouping. -/
def value : Grouping → Transform
  | term transform => transform
  | sum left right => left.value + right.value

theorem terms_ne_nil (grouping : Grouping) : grouping.terms ≠ [] := by
  induction grouping with
  | term transform => exact List.cons_ne_nil _ _
  | sum left right leftSome rightSome =>
      exact fun empty => leftSome (List.append_eq_nil_iff.mp empty).1

/-- A grouped sum has more than one term. -/
theorem terms_sum_ne_singleton (left right : Grouping) (transform : Transform) :
    (sum left right).terms ≠ [transform] := by
  intro single
  rcases List.append_eq_singleton_iff.mp single with ⟨empty, _⟩ | ⟨_, empty⟩
  · exact left.terms_ne_nil empty
  · exact right.terms_ne_nil empty

/-- However a sum is grouped, it is taken apart as its terms are, one after the other. -/
theorem intoFunctions_value (grouping : Grouping) :
    grouping.value.intoFunctions = grouping.terms.flatMap intoFunctions := by
  induction grouping with
  | term transform => rw [value, terms, List.flatMap_singleton]
  | sum left right leftChain rightChain =>
      rw [value, intoFunctions_add, leftChain, rightChain, terms, List.flatMap_append]

/-- A grouped sum is one flat compound. -/
theorem value_sum (left right : Grouping) :
    (sum left right).value = compound ((sum left right).terms.flatMap intoFunctions) := by
  rw [value, add_eq_compound, left.intoFunctions_value, right.intoFunctions_value, terms,
    List.flatMap_append]

/-- The terms of a sum decide its value, whatever their grouping. -/
theorem value_congr {first second : Grouping} (same : first.terms = second.terms) :
    first.value = second.value := by
  -- A single term is not a sum, and is not flattened.
  cases first with
  | term transform =>
      cases second with
      | term other => exact (List.cons.inj same).1
      | sum left right => exact (terms_sum_ne_singleton left right transform same.symm).elim
  | sum left right =>
      cases second with
      | term other => exact (terms_sum_ne_singleton left right other same).elim
      | sum left' right' => rw [value_sum, value_sum, same]

end Grouping

/-- **Adding transforms joins their chains.** A sum is one flat compound of the functions of its
terms in order, so sums are associative as values, all groupings of the same terms agree, and a term
without functions adds nothing on either side. -/
theorem add_joins_chains (first second third : Transform) :
    first + second = compound (first.intoFunctions ++ second.intoFunctions) ∧
      (∀ member ∈ first.intoFunctions ++ second.intoFunctions,
        member ≠ none ∧ ∀ members, member ≠ compound members) ∧
      (first + second) + third = first + (second + third) ∧
      (∀ sum other : Grouping, sum.terms = other.terms → sum.value = other.value) ∧
      none.intoFunctions = [] ∧
      (second.intoFunctions = [] →
        (first + second).intoFunctions = first.intoFunctions ∧
          (second + first).intoFunctions = first.intoFunctions ∧
          render (first + second) = render first ∧ render (second + first) = render first) := by
  refine ⟨add_eq_compound first second, ?_, ?_, ?_, rfl, ?_⟩
  · intro member joined
    have single : ∃ f, member = function f := by
      rcases List.mem_append.mp joined with left | right
      · exact single_of_mem_intoFunctions left
      · exact single_of_mem_intoFunctions right
    obtain ⟨f, rfl⟩ := single
    exact ⟨Transform.noConfusion, fun members => Transform.noConfusion⟩
  · simp only [add_eq_compound (first + second), add_eq_compound first (second + third),
      intoFunctions_add, List.append_assoc]
  · exact fun sum other same => Grouping.value_congr same
  · intro empty
    have chain : second.functions = [] := by
      rwa [intoFunctions_eq_functions, List.map_eq_nil_iff] at empty
    refine ⟨?_, ?_, render_congr ?_, render_congr ?_⟩
    · rw [intoFunctions_add, empty, List.append_nil]
    · rw [intoFunctions_add, empty, List.nil_append]
    · rw [functions_add, chain, List.append_nil]
    · rw [functions_add, chain, List.nil_append]

/-- A nested compound without functions adds nothing to a rotation, and two groupings of the same
three terms have the same value. -/
theorem add_joins_chains_empty :
    let empty := compound [none, compound []]
    let turn := function (.rotateX (.degrees 45))
    (turn ∈ turn.intoFunctions ++ empty.intoFunctions ∧ turn ≠ none) ∧
      (empty.intoFunctions = [] ∧ render (empty + turn) = render turn) ∧
      Grouping.value (.sum (.sum (.term turn) (.term empty)) (.term turn)) =
        Grouping.value (.sum (.term turn) (.sum (.term empty) (.term turn))) := by
  intro empty turn
  obtain ⟨_, single, _, grouping, _, neutral⟩ := add_joins_chains turn empty turn
  have joined : turn ∈ turn.intoFunctions ++ empty.intoFunctions := List.mem_cons_self
  exact ⟨⟨joined, (single turn joined).1⟩, ⟨rfl, (neutral rfl).2.2.2⟩, grouping _ _ rfl⟩

end CssValue.Transform
