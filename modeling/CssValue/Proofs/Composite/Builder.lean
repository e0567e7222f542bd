/-!
# Values built by calls

A value is built up by calls, each of which gives some of its fields a new value and leaves the
others alone.  After any sequence of calls a field holds what the last call gave it that sets this
field, and so the order of calls matters only among those that set the same field.

Which fields a call sets may depend on the value, as long as no call changes this.
-/

namespace CssValue

/-- Types whose values are built by calls that set fields. -/
class Builder (α : Type) where
  Call : Type
  Field : Type
  Value : Field → Type
  /-- The value after a call. -/
  call : α → Call → α
  /-- What a field of a value holds. -/
  read : α → (field : Field) → Value field
  /-- What a call gives a field, unless it does not set this field of the value. -/
  argument? : α → Call → (field : Field) → Option (Value field)

/-- Builders whose calls set their own fields and no others. -/
class LawfulBuilder (α : Type) [Builder α] : Prop where
  read_call (value : α) (call : Builder.Call α) (field : Builder.Field α) :
    Builder.read (Builder.call value call) field =
      (Builder.argument? value call field).getD (Builder.read value field)
  /-- Calls set the same fields at all times. -/
  argument?_call (value : α) (call next : Builder.Call α) (field : Builder.Field α) :
    Builder.argument? (Builder.call value call) next field = Builder.argument? value next field
  /-- The fields are all there is of a value. -/
  eq_of_read {first second : α}
    (same : ∀ field, Builder.read first field = Builder.read second field) : first = second

namespace Builder

variable {α : Type} [Builder α]

/-- The value after a sequence of calls. -/
def callAll (start : α) (calls : List (Call α)) : α := calls.foldl call start

/-- What the calls of a sequence give a field, in their order. -/
def arguments (start : α) (calls : List (Call α)) (field : Field α) : List (Value field) :=
  calls.filterMap (argument? start · field)

/-- The two calls set no field in common. -/
def Apart (value : α) (first second : Call α) : Prop :=
  ∀ field, argument? value first field = none ∨ argument? value second field = none

/-- The calls of a field in a chain are that of the first call, if it sets the field, and then the
others. -/
theorem arguments_cons (start : α) (first : Call α) (rest : List (Call α)) (field : Field α) :
    arguments start (first :: rest) field =
      (argument? start first field).toList ++ arguments start rest field := by
  rw [arguments, arguments, List.filterMap_cons]
  cases argument? start first field <;> rfl

section Lawful

variable [LawfulBuilder α]

open LawfulBuilder

/-- What a call makes of the start value does not change which calls set a field. -/
theorem arguments_call (start : α) (first : Call α) (calls : List (Call α)) (field : Field α) :
    arguments (call start first) calls field = arguments start calls field := by
  simp only [arguments, argument?_call]

/-- A field holds what the last call gave it that sets the field. -/
theorem read_callAll (start : α) (calls : List (Call α)) (field : Field α) :
    read (callAll start calls) field =
      (arguments start calls field).getLastD (read start field) := by
  induction calls generalizing start with
  | nil => rfl
  | cons first rest ih =>
      calc read (callAll start (first :: rest)) field
          = read (callAll (call start first) rest) field := rfl
        _ = (arguments start rest field).getLastD (read (call start first) field) := by
            rw [ih, arguments_call]
        _ = (arguments start (first :: rest) field).getLastD (read start field) := by
            rw [arguments_cons, read_call]
            cases argument? start first field with
            | none => rfl
            | some value => exact List.getLastD_cons.symm

/-- Sequences of calls that end alike for each field build the same value. -/
theorem callAll_eq_of_last_eq {start : α} {calls others : List (Call α)}
    (same : ∀ field, (arguments start calls field).getLast? =
      (arguments start others field).getLast?) :
    callAll start calls = callAll start others := by
  apply eq_of_read
  intro field
  rw [read_callAll, read_callAll, List.getLastD_eq_getLast?, List.getLastD_eq_getLast?, same field]

/-- Calls that set no field in common may be made in either order. -/
theorem call_comm {value : α} {first second : Call α} (apart : Apart value first second) :
    call (call value first) second = call (call value second) first := by
  have same : callAll value [first, second] = callAll value [second, first] := by
    apply callAll_eq_of_last_eq
    intro field
    simp only [arguments_cons]
    rcases apart field with absent | absent <;> simp [absent, arguments]
  exact same

end Lawful

/-- The calls of a type set their own fields: a field of the built value holds the argument of the
last call that sets it, or what it held at the start, and calls that set no field in common may be
made in either order. -/
structure SetsOwnFields (α : Type) [Builder α] : Prop where
  last : ∀ (start : α) (calls : List (Call α)) (field : Field α),
    read (callAll start calls) field = (arguments start calls field).getLastD (read start field)
  commute : ∀ (value : α) (first second : Call α), Apart value first second →
    call (call value first) second = call (call value second) first

/-- Under the laws of a builder each call of a chain sets its own field and no other. -/
theorem setsOwnFields [LawfulBuilder α] : SetsOwnFields α where
  last := read_callAll
  commute _ _ _ := call_comm

end Builder
end CssValue
