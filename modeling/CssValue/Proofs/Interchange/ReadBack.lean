import CssValue.Proofs.Binary64.Order
import CssValue.Proofs.Text.KeywordTable

/-!
# Values read back from interchange trees

A tree is decoded by the shape that its value was encoded in: the tag of an alternative, the key of
a structure, or the token of a keyword.  Only a number can be lost on the way, since numbers that
are not finite are written as `null`, which no number is read from.  A value is therefore read back
just when all its numbers are finite, and nothing else is read in its place.
-/

namespace CssValue

/-! ### Numbers in a value -/

/-- Types whose values may hold numbers. -/
class HoldsNumbers (α : Type) where
  /-- The numbers in a value. -/
  numbers : α → List Binary64

export HoldsNumbers (numbers)

instance : HoldsNumbers Binary64 := ⟨fun x => [x]⟩

instance : HoldsNumbers String := ⟨fun _ => []⟩

instance (priority := low) {α : Type} [Keyword α] : HoldsNumbers α := ⟨fun _ => []⟩

instance : HoldsNumbers Length where
  numbers
    | .dimension value _ | .percentage value => [value]
    | .keyword _ | .calculation _ | .wide _ => []

instance : HoldsNumbers PositionValue where
  numbers
    | .length length => numbers length
    | .keyword _ => []

instance : HoldsNumbers ObjectPosition where
  numbers
    | .one value => numbers value
    | .two x y => numbers x ++ numbers y
    | .wide _ => []

instance : HoldsNumbers ObjectStyle := ⟨fun style => numbers style.position⟩

/-- All numbers in the value are finite. -/
def allFinite {α : Type} [HoldsNumbers α] (value : α) : Bool :=
  (numbers value).all Binary64.isFinite

/-- Not all numbers are finite just when one of them is `nan` or an infinity. -/
theorem allFinite_eq_false_iff {α : Type} [HoldsNumbers α] {value : α} :
    allFinite value = false ↔
      ∃ x ∈ numbers value, x = .nan ∨ ∃ negative, x = .infinity negative := by
  have lost : ∀ x : Binary64, ¬ x.isFinite ↔ x = .nan ∨ ∃ negative, x = .infinity negative := by
    intro x
    cases x <;> simp [Binary64.isFinite]
  simp only [allFinite, List.all_eq_false, lost]

/-! ### Decoding an encoded value -/

/-- Types whose values are read back from their trees if all their numbers are finite, and are
refused otherwise. -/
class LawfulInterchange (α : Type) [BEq α] [Encode α] [Decode α] [HoldsNumbers α] : Prop where
  decode?_encode : ∀ value : α,
      decode? (encode value) = if allFinite value then some value else none
  /-- Only a value with a `nan` in it differs from itself. -/
  beq_self : ∀ value : α, allFinite value → value == value

export LawfulInterchange (decode?_encode beq_self)

section Parts

variable {α β γ : Type} [BEq α] [Encode α] [Decode α] [HoldsNumbers α] [LawfulInterchange α]
  [BEq β] [Encode β] [Decode β] [HoldsNumbers β] [LawfulInterchange β]

/-- A value with one part behind a tag or a key is read back as this part is. -/
theorem map_decode?_encode (wrap : α → γ) (part : α) :
    wrap <$> decode? (encode part) = if allFinite part then some (wrap part) else none := by
  rw [decode?_encode]
  cases allFinite part <;> rfl

/-- A value with two parts is read back if both of them are. -/
theorem map₂_decode?_encode (wrap : α → β → γ) (first : α) (second : β) :
    wrap <$> decode? (encode first) <*> decode? (encode second) =
      if allFinite first && allFinite second then some (wrap first second) else none := by
  rw [decode?_encode, decode?_encode]
  cases allFinite first <;> cases allFinite second <;> rfl

/-- A pair of finite parts equals itself. -/
theorem beq_self_and {first : α} {second : β} (finite : allFinite first && allFinite second) :
    (first == first && second == second) = true := by
  obtain ⟨left, right⟩ := Bool.and_eq_true_iff.mp finite
  rw [beq_self first left, beq_self second right, Bool.true_and]

end Parts

instance : LawfulInterchange Binary64 where
  decode?_encode x := by cases x <;> rfl
  beq_self x finite := by
    cases x with
    | finite negative magnitude => exact Binary64.beq_iff_rank.mpr ⟨_, rfl, rfl⟩
    | nan | infinity => cases finite

instance : LawfulInterchange String where
  decode?_encode _ := rfl
  beq_self _ _ := beq_self_eq_true _

instance (priority := low) {α : Type} [BEq α] [LawfulBEq α] [Keyword α] [LawfulKeyword α] :
    LawfulInterchange α where
  decode?_encode := Keyword.ofTag?_tag
  beq_self _ _ := beq_self_eq_true _

instance : LawfulInterchange Length where
  decode?_encode length := by
    cases length with
    | dimension value unit =>
        have unitFinite : allFinite unit = true := rfl
        have both := map₂_decode?_encode Length.dimension value unit
        rwa [unitFinite, Bool.and_true] at both
    | percentage value => exact map_decode?_encode Length.percentage value
    | keyword keyword => exact map_decode?_encode Length.keyword keyword
    | calculation expression => exact map_decode?_encode Length.calculation expression
    | wide keyword => exact map_decode?_encode Length.wide keyword
  beq_self length finite := by
    cases length with
    | dimension value unit => exact beq_self_and (Bool.and_eq_true_iff.mpr ⟨finite, rfl⟩)
    | percentage value => exact beq_self value finite
    | keyword keyword => exact beq_self_eq_true keyword
    | calculation expression => exact beq_self_eq_true expression
    | wide keyword => exact beq_self_eq_true keyword

instance : LawfulInterchange PositionValue where
  decode?_encode value := by
    cases value with
    | length length => exact map_decode?_encode PositionValue.length length
    | keyword keyword => exact map_decode?_encode PositionValue.keyword keyword
  beq_self value finite := by
    cases value with
    | length length => exact beq_self length finite
    | keyword keyword => exact beq_self_eq_true keyword

instance : LawfulInterchange ObjectPosition where
  decode?_encode position := by
    cases position with
    | one value => exact map_decode?_encode ObjectPosition.one value
    | two x y =>
        have split : allFinite (ObjectPosition.two x y) = (allFinite x && allFinite y) :=
          List.all_append
        rw [split]
        exact map₂_decode?_encode ObjectPosition.two x y
    | wide keyword => exact map_decode?_encode ObjectPosition.wide keyword
  beq_self position finite := by
    cases position with
    | one value => exact beq_self value finite
    | two x y => exact beq_self_and (List.all_append.symm.trans finite)
    | wide keyword => exact beq_self_eq_true keyword

instance : LawfulInterchange ObjectStyle where
  decode?_encode style := map_decode?_encode ObjectStyle.mk style.position
  beq_self style finite := beq_self style.position finite

/-! ### Reading back -/

/-- What is read from the tree of a value: an equal value if all numbers in it are finite, nothing
if one of them is not, and never another value. -/
structure ReadsBackFinite (α : Type) [BEq α] [Encode α] [Decode α] [HoldsNumbers α] : Prop where
  reads : ∀ value : α, (∀ x ∈ numbers value, x.isFinite) →
    ∃ other, decode? (encode value) = some other ∧ other == value
  fails : ∀ value : α, (decode? (encode value) : Option α) = none ↔
    ∃ x ∈ numbers value, x = .nan ∨ ∃ negative, x = .infinity negative
  same : ∀ value other : α, decode? (encode value) = some other → other = value

/-- A type with a lawful interchange reads finite values back, and no others. -/
theorem LawfulInterchange.readsBackFinite (α : Type) [BEq α] [Encode α] [Decode α]
    [HoldsNumbers α] [LawfulInterchange α] : ReadsBackFinite α where
  reads value finite := by
    have all : allFinite value := List.all_eq_true.mpr finite
    exact ⟨value, by rw [decode?_encode, if_pos all], beq_self value all⟩
  fails value := by
    rw [decode?_encode, ← allFinite_eq_false_iff]
    cases allFinite value <;> simp
  same value other read := by
    rw [decode?_encode] at read
    split at read
    · exact (Option.some.inj read).symm
    · cases read

/-- **Finite values are read back, and no others.** A length, the position on an axis, a position
and a style are read back from their trees as an equal value if all numbers in them are finite.  The
tree of a value that holds `nan` or an infinity is refused, and no tree is read as a value other
than the one that it was written for. -/
theorem interchange_keeps_finite_values :
    ReadsBackFinite ObjectStyle ∧ ReadsBackFinite ObjectPosition ∧ ReadsBackFinite PositionValue ∧
      ReadsBackFinite Length := by
  refine ⟨?_, ?_, ?_, ?_⟩
  · exact LawfulInterchange.readsBackFinite ObjectStyle
  · exact LawfulInterchange.readsBackFinite ObjectPosition
  · exact LawfulInterchange.readsBackFinite PositionValue
  · exact LawfulInterchange.readsBackFinite Length

end CssValue
