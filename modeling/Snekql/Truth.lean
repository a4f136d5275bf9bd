import Mathlib.Data.Fintype.Option

/-!
# Three-valued logic

A truth value is true, false or unknown. The connectives are those of SQL: a conjunction is
false as soon as one side is, a disjunction true as soon as one side is, and unknown stands
for either answer elsewhere.
-/

namespace Snekql

/-- True, false, or nothing for unknown. -/
abbrev Truth := Option Bool

namespace Truth

/-- `NOT`. -/
def not (truth : Truth) : Truth := truth.map (! ·)

/-- `AND`. -/
def and : Truth → Truth → Truth
  | some false, _ => some false
  | _, some false => some false
  | some true, some true => some true
  | _, _ => none

/-- `OR`. -/
def or : Truth → Truth → Truth
  | some true, _ => some true
  | _, some true => some true
  | some false, some false => some false
  | _, _ => none

@[simp] theorem not_some (answer : Bool) : not (some answer) = some (! answer) := rfl

@[simp] theorem not_not (truth : Truth) : truth.not.not = truth := by
  revert truth
  decide

/-- The connectives negate into each other. -/
theorem not_and (left right : Truth) : (left.and right).not = left.not.or right.not := by
  revert left right
  decide

theorem not_or (left right : Truth) : (left.or right).not = left.not.and right.not := by
  revert left right
  decide

theorem and_assoc (first second third : Truth) :
    (first.and second).and third = first.and (second.and third) := by
  revert first second third
  decide

theorem or_assoc (first second third : Truth) :
    (first.or second).or third = first.or (second.or third) := by
  revert first second third
  decide

end Truth

end Snekql
