import Mathlib.Logic.Basic

/-!
# Recursion along the order of creation

Immutable objects refer only to objects that existed before them. Number them in the
order of their creation, and a recursive function over them is given by one layer: a step
that computes the value of an object and may ask for the value of any other. `value` ties
such a step to itself and answers a question about an object that is not older with a
fallback, so that it is total on every numbering. On a numbering in the order of creation
the fallback is never asked for, and `value_of_local` is the recursive equation as the
program states it.

A relation between the values of two such functions is proved one layer at a time.
-/

namespace Snekql.Creation

universe u v
variable {α : Type u} {β : Type v}

/-- The values of the older objects, and the fallback for the others. -/
def older (fallback : α) (values : Nat → α) (index : Nat) (child : Nat) : α :=
  if child < index then values child else fallback

/-- Unfold the step to a given depth. -/
def unfolded (fallback : α) (step : (Nat → α) → Nat → α) : Nat → Nat → α
  | 0, _ => fallback
  | depth + 1, index => step (older fallback (unfolded fallback step depth) index) index

/-- The value of an object. -/
def value (fallback : α) (step : (Nat → α) → Nat → α) (index : Nat) : α :=
  unfolded fallback step (index + 1) index

variable {fallback : α} {step : (Nat → α) → Nat → α}

/-- Beyond the number of the object, depth makes no difference. -/
theorem unfolded_eq_value {depth index : Nat} (deep : index < depth) :
    unfolded fallback step depth index = value fallback step index := by
  induction index using Nat.strongRecOn generalizing depth with
  | _ index ih =>
    cases depth with
    | zero => exact absurd deep (Nat.not_lt_zero _)
    | succ depth =>
      have same : older fallback (unfolded fallback step depth) index =
          older fallback (unfolded fallback step index) index := by
        funext child
        unfold older
        split
        · next isOlder =>
          rw [ih child isOlder (by omega : child < depth),
            ih child isOlder isOlder]
        · rfl
      unfold value
      simp only [unfolded, same]

/-- The value of an object is one step from the values of the older ones. -/
theorem value_eq (index : Nat) :
    value fallback step index = step (older fallback (value fallback step) index) index := by
  have same : older fallback (unfolded fallback step index) index =
      older fallback (value fallback step) index := by
    funext child
    unfold older
    split
    · next isOlder => exact unfolded_eq_value isOlder
    · rfl
  unfold value
  simp only [unfolded, same]
  rfl

/-- Two functions whose layers keep a relation are related. -/
theorem value_related {fallback' : β} {step' : (Nat → β) → Nat → β}
    (relation : Nat → α → β → Prop) (base : ∀ index, relation index fallback fallback')
    (layer : ∀ index values values', (∀ child, relation child (values child) (values' child)) →
      relation index (step values index) (step' values' index)) (index : Nat) :
    relation index (value fallback step index) (value fallback' step' index) := by
  induction index using Nat.strongRecOn with
  | _ index ih =>
    rw [value_eq, value_eq]
    apply layer
    intro child
    unfold older
    split
    · next isOlder => exact ih child isOlder
    · exact base child

end Snekql.Creation
