import Snekql.Truth
import Snekql.Outcomes
import Snekql.QueryScope

/-!
# The meaning of value expressions

A value expression is evaluated on one row. What the operators, the text functions and the
predicates compute is left to the backend; `CASE` and the connectives are those of SQL.

A `CASE` records the columns that its condition reads when it is built. An expression whose
records are those that the builder collects depends on its referenced columns only.
-/

namespace Snekql.Query

open Snekql.Outcomes

variable {Value Cell : Type}

/-! ## Built expressions -/

/-- The columns that an operand of a `CASE` condition reads. -/
def conditionOperand : Selectable Value → Except QueryError (List ColumnRef)
  | .expression value => .ok value.referencedColumns
  | .column (.attr relation column) => .ok [.attr relation column]
  | _ => .error (.construction "select requires a model or field")

/-- `_condition_inputs`: a condition has no nested selects, and both sides of a column
comparison are read. -/
def conditionInputs : Predicate Value → Except QueryError (List ColumnRef)
  | .compound _ left right => do
      let first ← conditionInputs left
      let second ← conditionInputs right
      return first ++ second
  | .negated child => conditionInputs child
  | .comparison operand _ _ => conditionOperand operand
  | .null operand _ => conditionOperand operand
  | .membership operand _ _ => conditionOperand operand
  | .between operand _ _ => conditionOperand operand
  | .like operand _ _ => conditionOperand operand
  | .columnComparison _ _ (.scalar _) =>
    .error (.construction "CASE conditions do not yet support subqueries")
  | .columnComparison operand _ other => do
      let first ← conditionOperand operand
      let second ← conditionOperand other
      return first ++ second
  | .subqueryMembership _ _ _ | .existence _ _ =>
    .error (.construction "CASE conditions do not yet support subqueries")

mutual

/-- Every `CASE` records the columns that `build_case` collects. -/
def ValueExpression.Built : ValueExpression Value → Prop
  | .column _ _ => True
  | .case condition conditionColumns consequent otherwise _ =>
    conditionInputs condition = .ok conditionColumns ∧ condition.Built ∧ consequent.Built ∧
      otherwise.Built
  | .binary _ left right _ => left.Built ∧ right.Built
  | .function _ argument _ => argument.Built

def ValueOperand.Built : ValueOperand Value → Prop
  | .expression expression => expression.Built
  | .literal _ => True

def Selectable.Built : Selectable Value → Prop
  | .expression expression => expression.Built
  | _ => True

def Predicate.Built : Predicate Value → Prop
  | .comparison operand _ _ => operand.Built
  | .null operand _ => operand.Built
  | .membership operand _ _ => operand.Built
  | .between operand _ _ => operand.Built
  | .like operand _ _ => operand.Built
  | .columnComparison operand _ other => operand.Built ∧ other.Built
  | .subqueryMembership operand _ _ => operand.Built
  | .existence _ _ => True
  | .compound _ left right => left.Built ∧ right.Built
  | .negated child => child.Built

end

/-! ## Evaluation -/

/-- What a backend computes on the cells of a row. Converting a cell to the type of a column
is idempotent; no other law is assumed. -/
structure Meaning (Value Cell : Type) where
  /-- A value that is bound as it is. -/
  bound : Option Value → Cell
  binary : BinaryOperator → Cell → Cell → Cell
  function : TextFunction → Cell → Cell
  /-- A predicate without connectives, from the cells of its operands. -/
  atom : Predicate Value → List Cell → Truth
  /-- An operand that is neither a column nor a value expression. -/
  foreign : Selectable Value → (ColumnRef → Cell) → Cell
  /-- A predicate over a nested select. -/
  nested : Predicate Value → (ColumnRef → Cell) → Truth
  /-- A literal that is encoded for a column. -/
  encoded : ColumnRef → Option Value → Cell
  /-- The clock of the statement, as a column stores it. -/
  now : ColumnRef → Cell
  stored : ColumnRef → Cell → Cell
  stored_stored : ∀ column cell, stored column (stored column cell) = stored column cell

section Evaluation

variable (meaning : Meaning Value Cell) (row : ColumnRef → Cell)

mutual

/-- The cell that an expression computes on a row. -/
def ValueExpression.evaluate : ValueExpression Value → Cell
  | .column column _ => row column
  | .case condition _ consequent otherwise _ =>
    if condition.evaluate = some true then consequent.evaluate else otherwise.evaluate
  | .binary operator left right _ => meaning.binary operator left.evaluate right.evaluate
  | .function function argument _ => meaning.function function argument.evaluate

def ValueOperand.evaluate : ValueOperand Value → Cell
  | .expression expression => expression.evaluate
  | .literal value => meaning.bound value

def Selectable.evaluate : Selectable Value → Cell
  | .column column => row column
  | .expression expression => expression.evaluate
  | operand => meaning.foreign operand row

/-- The truth of a predicate on a row. -/
def Predicate.evaluate : Predicate Value → Truth
  | .comparison operand operator value =>
    meaning.atom (.comparison operand operator value) [operand.evaluate]
  | .null operand negated => meaning.atom (.null operand negated) [operand.evaluate]
  | .membership operand values negated =>
    meaning.atom (.membership operand values negated) [operand.evaluate]
  | .between operand low high => meaning.atom (.between operand low high) [operand.evaluate]
  | .like operand pattern negated =>
    meaning.atom (.like operand pattern negated) [operand.evaluate]
  | .columnComparison operand operator other =>
    meaning.atom (.columnComparison operand operator other) [operand.evaluate, other.evaluate]
  | .subqueryMembership operand subquery negated =>
    meaning.nested (.subqueryMembership operand subquery negated) row
  | .existence subquery negated => meaning.nested (.existence subquery negated) row
  | .compound .and left right => left.evaluate.and right.evaluate
  | .compound .or left right => left.evaluate.or right.evaluate
  | .negated child => child.evaluate.not

end

end Evaluation

/-! ## What an expression reads -/

/-- Two rows have the same cells in the columns. -/
def AgreeOn (columns : List ColumnRef) (row other : ColumnRef → Cell) : Prop :=
  ∀ column ∈ columns, row column = other column

@[simp] theorem agreeOn_append {first second : List ColumnRef} {row other : ColumnRef → Cell} :
    AgreeOn (first ++ second) row other ↔ AgreeOn first row other ∧ AgreeOn second row other := by
  simp only [AgreeOn, List.forall_mem_append]

section Reads

variable (meaning : Meaning Value Cell) {row other : ColumnRef → Cell}

mutual

/-- An expression depends on its referenced columns only. -/
theorem ValueExpression.evaluate_congr : (expression : ValueExpression Value) →
    expression.Built → AgreeOn expression.referencedColumns row other →
    expression.evaluate meaning row = expression.evaluate meaning other
  | .column column _, _, agree => agree column (List.mem_singleton.mpr rfl)
  | .case condition columns consequent otherwise _, ⟨inputs, conditionBuilt, firstBuilt,
      secondBuilt⟩, agree => by
    rw [ValueExpression.referencedColumns, agreeOn_append, agreeOn_append] at agree
    obtain ⟨⟨conditionAgrees, firstAgrees⟩, secondAgrees⟩ := agree
    rw [ValueExpression.evaluate, ValueExpression.evaluate,
      condition.evaluate_congr conditionBuilt inputs conditionAgrees,
      consequent.evaluate_congr firstBuilt firstAgrees,
      otherwise.evaluate_congr secondBuilt secondAgrees]
  | .binary operator left right _, ⟨leftBuilt, rightBuilt⟩, agree => by
    rw [ValueExpression.referencedColumns, agreeOn_append] at agree
    rw [ValueExpression.evaluate, ValueExpression.evaluate,
      left.evaluate_congr leftBuilt agree.1, right.evaluate_congr rightBuilt agree.2]
  | .function function argument _, built, agree => by
    rw [ValueExpression.evaluate, ValueExpression.evaluate, argument.evaluate_congr built agree]

theorem ValueOperand.evaluate_congr : (operand : ValueOperand Value) →
    operand.Built → AgreeOn operand.referencedColumns row other →
    operand.evaluate meaning row = operand.evaluate meaning other
  | .expression expression, built, agree => by
    rw [ValueOperand.evaluate, ValueOperand.evaluate, expression.evaluate_congr built agree]
  | .literal _, _, _ => rfl

/-- An operand that a `CASE` condition may have depends on the columns collected for it. -/
theorem Selectable.evaluate_congr : (operand : Selectable Value) → operand.Built →
    {columns : List ColumnRef} → conditionOperand operand = .ok columns →
    AgreeOn columns row other → operand.evaluate meaning row = operand.evaluate meaning other
  | .expression expression, built, columns, inputs, agree => by
    obtain rfl : expression.referencedColumns = columns := Except.ok.inj inputs
    rw [Selectable.evaluate, Selectable.evaluate, expression.evaluate_congr built agree]
  | .column (.attr relation column), _, columns, inputs, agree => by
    obtain rfl : [.attr relation column] = columns := Except.ok.inj inputs
    exact agree _ (List.mem_singleton.mpr rfl)
  | .column (.output _ _), _, _, inputs, _
  | .aggregate _, _, _, inputs, _
  | .scalar _, _, _, inputs, _
  | .integerLiteral _ _, _, _, inputs, _
  | .jsonExtractInt _ _, _, _, inputs, _
  | .tablePresence _ _, _, _, inputs, _
  | .ctePresence _, _, _, inputs, _ => by cases inputs

/-- A condition depends on the columns collected for it. -/
theorem Predicate.evaluate_congr : (predicate : Predicate Value) → predicate.Built →
    {columns : List ColumnRef} → conditionInputs predicate = .ok columns →
    AgreeOn columns row other →
    predicate.evaluate meaning row = predicate.evaluate meaning other
  | .comparison operand _ _, built, _, inputs, agree
  | .null operand _, built, _, inputs, agree
  | .membership operand _ _, built, _, inputs, agree
  | .between operand _ _, built, _, inputs, agree
  | .like operand _ _, built, _, inputs, agree => by
    rw [Predicate.evaluate, Predicate.evaluate, operand.evaluate_congr built inputs agree]
  | .columnComparison left _ right, ⟨leftBuilt, rightBuilt⟩, columns, inputs, agree => by
    have each : (do
        let first ← conditionOperand left
        let second ← conditionOperand right
        return first ++ second) = Except.ok (ε := QueryError) columns := by
      cases right with
      | scalar => cases inputs
      | _ => exact inputs
    obtain ⟨first, leftInputs, each⟩ := bind_eq_ok.mp each
    obtain ⟨second, rightInputs, ⟨⟩⟩ := bind_eq_ok.mp each
    rw [agreeOn_append] at agree
    rw [Predicate.evaluate, Predicate.evaluate, left.evaluate_congr leftBuilt leftInputs agree.1,
      right.evaluate_congr rightBuilt rightInputs agree.2]
  | .compound operator left right, ⟨leftBuilt, rightBuilt⟩, columns, inputs, agree => by
    obtain ⟨first, leftInputs, inputs⟩ := bind_eq_ok.mp inputs
    obtain ⟨second, rightInputs, ⟨⟩⟩ := bind_eq_ok.mp inputs
    rw [agreeOn_append] at agree
    have leftSame := left.evaluate_congr leftBuilt leftInputs agree.1
    have rightSame := right.evaluate_congr rightBuilt rightInputs agree.2
    cases operator <;> rw [Predicate.evaluate, Predicate.evaluate, leftSame, rightSame]
  | .negated child, built, _, inputs, agree => by
    rw [Predicate.evaluate, Predicate.evaluate, child.evaluate_congr built inputs agree]
  | .subqueryMembership _ _ _, _, _, inputs, _
  | .existence _ _, _, _, inputs, _ => by cases inputs

end

end Reads

end Snekql.Query
