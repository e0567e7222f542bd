import CssValue.Effect.Transform
import CssValue.Proofs.Binary64.Order

/-!
# Equality up to the signs of zeros

The comparison `==` of values is that of their parts, down to the numerical comparison of numbers.
It tells apart whatever differs but for one thing: the two zeros are equal to each other.  Equal
values are therefore the same as soon as the zeros in them agree in their signs.  Where a zero of
one value has its place in the other is read off the interchange trees.
-/

namespace CssValue

namespace Json

mutual

/-- Zeros at the same place of two trees have the same sign. -/
def ZerosAgree : Json → Json → Prop
  | number x, number y => x == 0 → y == 0 → x = y
  | array items, array others => ZerosAgreeAll items others
  | object fields, object others => ZerosAgreeFields fields others
  | _, _ => True

def ZerosAgreeAll : List Json → List Json → Prop
  | item :: rest, other :: others => ZerosAgree item other ∧ ZerosAgreeAll rest others
  | _, _ => True

def ZerosAgreeFields : List (String × Json) → List (String × Json) → Prop
  | (_, value) :: rest, (_, other) :: others =>
    ZerosAgree value other ∧ ZerosAgreeFields rest others
  | _, _ => True

end

mutual

/-- A tree agrees with itself. -/
theorem zerosAgree_self : ∀ tree : Json, ZerosAgree tree tree
  | number _ => fun _ _ => rfl
  | array items => zerosAgreeAll_self items
  | object fields => zerosAgreeFields_self fields
  | null | boolean _ | integer _ | string _ => trivial

theorem zerosAgreeAll_self : ∀ items : List Json, ZerosAgreeAll items items
  | [] => trivial
  | item :: rest => ⟨zerosAgree_self item, zerosAgreeAll_self rest⟩

theorem zerosAgreeFields_self : ∀ fields : List (String × Json), ZerosAgreeFields fields fields
  | [] => trivial
  | (_, value) :: rest => ⟨zerosAgree_self value, zerosAgreeFields_self rest⟩

end

end Json

open Json (ZerosAgree)

/-! ### Types compared by their parts -/

/-- Types whose equal values are the same when their zeros agree.  An instance that says nothing is
for a type whose values are compared constructor by constructor and part by part, and whose trees
hold the parts in the same order. -/
class LawfulUpToZeros (α : Type) [BEq α] [Encode α] : Prop where
  eq_of_beq : ∀ {first second : α}, first == second → ZerosAgree (encode first) (encode second) →
      first = second := by
    intro first second same agree
    -- The parts of an alternative are behind its tag, those of a structure are not.
    cases first <;> cases second <;>
      first
      | exact (Bool.false_ne_true same).elim
      | rfl
      | exact LawfulUpToZeros.congr_part same agree
      | exact LawfulUpToZeros.congr_part same agree.1
      | (repeat obtain ⟨rfl, same, agree⟩ := LawfulUpToZeros.eq_and_rest same agree)
        exact LawfulUpToZeros.congr_part same agree.1
      | replace agree := agree.1
        (repeat obtain ⟨rfl, same, agree⟩ := LawfulUpToZeros.eq_and_rest same agree)
        exact LawfulUpToZeros.congr_part same agree.1

namespace LawfulUpToZeros

section Parts

variable {α β : Type} [BEq α] [Encode α] [LawfulUpToZeros α] {part other : α}

/-- Values made of one part are the same if the part is. -/
theorem congr_part {wrap : α → β} (same : part == other)
    (agree : ZerosAgree (encode part) (encode other)) : wrap part = wrap other :=
  congrArg wrap (eq_of_beq same agree)

/-- The first of several parts is the same, and the others are left to compare. -/
theorem eq_and_rest {rest : Bool} {agreeing : Prop} (same : (part == other && rest) = true)
    (agree : ZerosAgree (encode part) (encode other) ∧ agreeing) :
    part = other ∧ rest = true ∧ agreeing := by
  obtain ⟨first, later⟩ := Bool.and_eq_true_iff.mp same
  exact ⟨eq_of_beq first agree.1, later, agree.2⟩

end Parts

/-! ### Numbers and collections -/

instance {α : Type} [BEq α] [LawfulBEq α] [Encode α] : LawfulUpToZeros α :=
  ⟨fun same _ => LawfulBEq.eq_of_beq same⟩

instance : LawfulUpToZeros Binary64 where
  eq_of_beq {x y} same agree := by
    rcases Binary64.eq_or_zeros_of_beq same with alike | ⟨negative, sign, rfl, rfl⟩
    · exact alike
    · exact agree (Binary64.zero_beq negative) (Binary64.zero_beq sign)

variable {α β : Type} [BEq α] [Encode α] [LawfulUpToZeros α] [BEq β] [Encode β] [LawfulUpToZeros β]

instance : LawfulUpToZeros (Option α) where

instance : LawfulUpToZeros (α × β) where

instance : LawfulUpToZeros (List α) where
  eq_of_beq {first second} same agree := by
    induction first generalizing second with
    | nil =>
        cases second with
        | nil => rfl
        | cons other others => exact (Bool.false_ne_true same).elim
    | cons item rest ih =>
        cases second with
        | nil => exact (Bool.false_ne_true same).elim
        | cons other others =>
            obtain ⟨rfl, same, agree⟩ := eq_and_rest same agree
            rw [ih same agree]

/-- The tree of a vector is that of its list. -/
instance {n : Nat} : Encode (Vector α n) := ⟨fun items => encode items.toList⟩

instance {n : Nat} : LawfulUpToZeros (Vector α n) where
  eq_of_beq {first second} same agree := by
    rw [← Vector.toList_beq_toList] at same
    exact Vector.toList_inj.mp (eq_of_beq same agree)

end LawfulUpToZeros
end CssValue
