import Snekql.OutputLayout

/-!
# Query scopes

Which sources an operand may reference, and which operands a clause admits. The validators
walk a predicate tree through the operands, children and nested selects that each node
exposes. `correlatedColumns` finds the columns that a nested select reads from the queries
around it, and the grouping check rejects an aggregated select that reads a column of one
of its own rows which is not a grouping key.

Names are compared after `str.casefold`, which is a parameter.
-/

namespace Snekql.Query

variable {Value : Type}

inductive QueryError where
  | construction (message : String)
  | compilation (message : String)
  /-- An object refers to one that was not created before it; no builder does this. -/
  | dangling
deriving DecidableEq, Repr

/-- The error class that a validator's caller raises. -/
inductive Phase where
  | construction
  | compilation
deriving DecidableEq, Repr

def Phase.error : Phase → String → QueryError
  | .construction, message => .construction message
  | .compilation, message => .compilation message

/-! ## Owner identities -/

/-- The definition and the role of a `_CteRelation`; set operations share a private role. -/
def Relation.cteCoordinates : Relation → Option (Nat × Option Nat)
  | .cte _ definition role _ _ => some (definition, some role)
  | .compound _ definition _ => some (definition, none)
  | _ => none

/-- Whether a state's models have the identities of the given ones, for older states. -/
abbrev SameModels := Nat → List Relation → Bool

/-- Equality of `_query_owner_identity`: an alias is its model and role, a reference is its
role and the set of the identities of the models it is defined over. -/
def Heap.sameOwner (heap : Heap Value) (sameModels : SameModels) (left right : Relation) : Bool :=
  match left, right with
  | .alias _ source role _, .alias _ source' role' _ => source == source' && role == role'
  | left, right =>
    match left.cteCoordinates, right.cteCoordinates with
    | some (definition, role), some (definition', role') =>
      match heap.definitions[definition]?, heap.definitions[definition']? with
      | some first, some second =>
        match heap.states[second.state]? with
        | some state => role == role' && sameModels first.state state.resultModels
        | none => false
      | _, _ => false
    | none, none => left == right
    | _, _ => false

def Heap.sameModelsStep (heap : Heap Value) (sameModels : SameModels) (index : Nat)
    (others : List Relation) : Bool :=
  match heap.states[index]? with
  | some state =>
    state.resultModels.all (fun model => others.any (heap.sameOwner sameModels model)) &&
      others.all (fun other => state.resultModels.any (heap.sameOwner sameModels · other))
  | none => false

def Heap.sameOwnerIdentity (heap : Heap Value) : Relation → Relation → Bool :=
  heap.sameOwner (Creation.value (fun _ => false) heap.sameModelsStep)

/-! ## Scopes -/

/-- The statement's own sources in join order, and those of the enclosing queries. -/
structure ScopeResolver where
  ownModels : List Relation
  outerModels : List Relation := []
deriving DecidableEq, Repr

namespace ScopeResolver

def models (scope : ScopeResolver) : List Relation :=
  scope.ownModels ++ scope.outerModels

/-- Whether column references must name their source. -/
def qualified (scope : ScopeResolver) : Bool :=
  decide (1 < scope.ownModels.length) || !scope.outerModels.isEmpty

end ScopeResolver

/-- The loop of `ensure_unambiguous_aliases`, with the sources seen so far, latest first. -/
def Heap.ensureUnambiguous (heap : Heap Value) (casefold : String → String) :
    List Relation → List Relation → Except QueryError Unit
  | _, [] => .ok ()
  | seen, model :: rest => do
      let named := seen.find? (fun other => casefold other.tableName = casefold model.tableName)
      if named.any (fun previous => previous != model ||
          (model.isAlias || model.definition.isSome) ||
          (previous.isAlias || previous.definition.isSome)) then
        throw (.compilation "query source name collides with a visible query source")
      if model.isAlias &&
          seen.any (fun other => other.isAlias && heap.sameOwnerIdentity other model) then
        throw (.compilation "alias role is already visible in this query scope")
      if model.definition.isSome &&
          seen.any (fun other => other.definition.isSome && heap.sameOwnerIdentity other model) then
        throw (.compilation "CTE role is already visible in this query scope")
      heap.ensureUnambiguous casefold (model :: seen) rest

namespace ScopeResolver

/-- `ensure_unambiguous_aliases`. -/
def ensureUnambiguousAliases (scope : ScopeResolver) (heap : Heap Value)
    (casefold : String → String) : Except QueryError Unit :=
  heap.ensureUnambiguous casefold [] scope.models

/-- `enter_subquery`: everything visible here stays reachable as the outer scope. -/
def enterSubquery (scope : ScopeResolver) (innerOwn : List Relation) :
    Except QueryError ScopeResolver :=
  match innerOwn ++ scope.models with
  | [] => .ok { ownModels := innerOwn, outerModels := scope.models }
  | first :: rest =>
    if rest.all (fun model => model.backend == first.backend) then
      .ok { ownModels := innerOwn, outerModels := scope.models }
    else .error (.compilation "subquery backend differs from the enclosing query")

/-- `ensure_operand_in_scope`. -/
def ensureOperandInScope (scope : ScopeResolver) (operand : Selectable Value) (clause : String)
    (phase : Phase) (ownOnly : Bool) : Except QueryError Unit :=
  let models := if ownOnly then scope.ownModels else scope.models
  match operand with
  | .integerLiteral backend _ =>
    if models.isEmpty || models.any (fun model => model.backend != backend) then
      .error (phase.error "literal backend differs from the query")
    else .ok ()
  | operand =>
    match operand.ownerModel with
    | some owner =>
      if owner ∈ models then .ok ()
      else .error (phase.error (clause ++ " references a table that is not in the query"))
    | none => .error (.construction "select requires a model or field")

end ScopeResolver

/-! ## Clause validators -/

/-- `require_subquery_state`. -/
def Heap.requireSubqueryState (heap : Heap Value) (subquery : Nat) :
    Except QueryError (SelectState Value) :=
  match heap.states[subquery]? with
  | some state => .ok state
  | none => .error .dangling

/-- `require_single_column_subquery`. -/
def Heap.requireSingleColumnSubquery (heap : Heap Value) (subquery : Nat) :
    Except QueryError (SelectState Value) := do
  let state ← heap.requireSubqueryState subquery
  if state.returnsModel || state.namedProjection.isSome || state.fields.length != 1 then
    throw (.construction "a subquery value set must select exactly one column")
  return state

/-- The part of `ensure_predicate_targets_models` that concerns a node's own operands. -/
def ScopeResolver.ensureDirectOperands (scope : ScopeResolver) (predicate : Predicate Value) :
    Except QueryError Unit := do
  if predicate.groupingOperands.any Selectable.isAggregate then
    throw (.construction "aggregates cannot appear in where(); use having()")
  match predicate.operand with
  | some operand => scope.ensureOperandInScope operand "predicate" .construction false
  | none => return ()

/-- `ensure_predicate_targets_models`. -/
def ScopeResolver.ensurePredicateTargetsModels (scope : ScopeResolver) (heap : Heap Value) :
    Predicate Value → Except QueryError Unit
  | .existence subquery _ => do
      let _ ← heap.requireSubqueryState subquery
  | .subqueryMembership operand subquery negated => do
      let _ ← heap.requireSingleColumnSubquery subquery
      scope.ensureDirectOperands (.subqueryMembership operand subquery negated)
  | .compound _ left right => do
      scope.ensurePredicateTargetsModels heap left
      scope.ensurePredicateTargetsModels heap right
  | .negated child => scope.ensurePredicateTargetsModels heap child
  | predicate => scope.ensureDirectOperands predicate

/-- `require_grouping_column` of an operand: a column or an output of a definition. -/
def Selectable.requireGroupingColumn : Selectable Value → Except QueryError ColumnRef
  | .column ref => .ok ref
  | _ => .error (.construction "select requires a model or field")

/-- The grouping keys of a state. -/
def SelectState.groupedKeys (state : SelectState Value) : List GroupingKey :=
  state.groupings.map ColumnRef.groupingKey

/-- `ensure_having_selectable`. -/
def ScopeResolver.ensureHavingSelectable (scope : ScopeResolver) (state : SelectState Value)
    (operand : Selectable Value) : Except QueryError Unit := do
  scope.ensureOperandInScope operand "having" .construction false
  if operand.isAggregate then
    return ()
  let column ← operand.requireGroupingColumn
  if column.groupingKey ∉ state.groupedKeys then
    throw (.construction "having references a column that is not grouped or aggregated")

/-- Run a check on each element in order. -/
def ensureEach {α : Type} (check : α → Except QueryError Unit) : List α → Except QueryError Unit
  | [] => .ok ()
  | first :: rest => do
      check first
      ensureEach check rest

/-- `ensure_having_targets`. -/
def ScopeResolver.ensureHavingTargets (scope : ScopeResolver) (state : SelectState Value) :
    Predicate Value → Except QueryError Unit
  | .compound _ left right => do
      scope.ensureHavingTargets state left
      scope.ensureHavingTargets state right
  | .negated child => scope.ensureHavingTargets state child
  | predicate => ensureEach (scope.ensureHavingSelectable state) predicate.groupingOperands

/-- `ensure_ordering_targets_models`. -/
def ScopeResolver.ensureOrderingTargetsModels (scope : ScopeResolver) (ordering : OrderBy Value) :
    Except QueryError Unit :=
  scope.ensureOperandInScope ordering.column "ordering" .construction true

/-- `ensure_grouping_targets_models`. -/
def ScopeResolver.ensureGroupingTargetsModels (Value : Type) (scope : ScopeResolver)
    (columns : List ColumnRef) : Except QueryError Unit :=
  ensureEach (fun column =>
    scope.ensureOperandInScope (.column column : Selectable Value) "group_by" .construction false)
    columns

/-! ## Grouping -/

/-- The columns that a nested select reads from the queries around it, given the models
bound so far, for older states. -/
abbrev Correlations := Nat → List Relation → List ColumnRef

def readColumn (bound : List Relation) (column : ColumnRef) : List ColumnRef :=
  if column.owner ∈ bound then [] else [column]

/-- `read_operand` of `_correlated_columns`. -/
def readOperand (correlations : Correlations) (bound : List Relation) :
    Selectable Value → List ColumnRef
  | .column column => readColumn bound column
  | .scalar subquery => correlations subquery bound
  | operand => (operand.referencedColumns.getD []).flatMap (readColumn bound)

/-- `read_predicate` of `_correlated_columns`. -/
def readPredicate (correlations : Correlations) (bound : List Relation) :
    Predicate Value → List ColumnRef
  | .compound _ left right =>
    readPredicate correlations bound left ++ readPredicate correlations bound right
  | .negated child => readPredicate correlations bound child
  | predicate =>
    predicate.groupingOperands.flatMap (readOperand correlations bound) ++
      predicate.nestedSelects.flatMap (fun nested => correlations nested bound)

/-- One layer of `_correlated_columns`. -/
def Heap.correlatedColumnsStep (heap : Heap Value) (correlations : Correlations) (index : Nat)
    (outer : List Relation) : List ColumnRef :=
  match heap.states[index]? with
  | none => []
  | some state =>
    let bound := state.resultModels ++ outer
    state.fields.flatMap (readOperand correlations bound) ++
      state.groupings.flatMap (readColumn bound) ++
      state.orderings.flatMap (fun entry => readOperand correlations bound entry.column) ++
      state.predicates.flatMap (readPredicate correlations bound) ++
      state.having.flatMap (readPredicate correlations bound) ++
      state.joins.flatMap (fun join => readPredicate correlations bound join.predicate) ++
      match state.compound with
      | some compound => correlations compound.left bound ++ correlations compound.right bound
      | none => []

/-- `_correlated_columns`. -/
def Heap.correlatedColumns (heap : Heap Value) : Correlations :=
  Creation.value (fun _ => []) heap.correlatedColumnsStep

/-- The columns that a projected or ordering operand reads outside an aggregate. -/
def Heap.operandInputs (heap : Heap Value) : Selectable Value → List ColumnRef
  | .column column => [column]
  | .scalar subquery => heap.correlatedColumns subquery []
  | operand => operand.referencedColumns.getD []

/-- The columns that the nested selects of a `HAVING` predicate read. -/
def Heap.havingInputs (heap : Heap Value) : Predicate Value → List ColumnRef
  | .compound _ left right => heap.havingInputs left ++ heap.havingInputs right
  | .negated child => heap.havingInputs child
  | predicate => predicate.nestedSelects.flatMap (fun nested => heap.correlatedColumns nested [])

/-- Whether a select is evaluated by groups. -/
def SelectState.isGrouped (state : SelectState Value) : Bool :=
  state.fields.any Selectable.isAggregate ||
    state.orderings.any (fun ordering => ordering.column.isAggregate) ||
    !state.groupings.isEmpty || !state.having.isEmpty

/-- `ensure_grouping_covers_projection`. -/
def Heap.ensureGroupingCoversProjection (heap : Heap Value) (state : SelectState Value) :
    Except QueryError Unit :=
  if !state.isGrouped then .ok ()
  else
    let inputs := (state.fields ++ state.orderings.map OrderBy.column).flatMap heap.operandInputs ++
      state.having.flatMap heap.havingInputs
    ensureEach (fun input =>
      if input.owner ∈ state.resultModels ∧ input.groupingKey ∉ state.groupedKeys then
        .error (.compilation
          "non-aggregated column in SELECT, HAVING or ORDER BY must appear in group_by()")
      else .ok ()) inputs

end Snekql.Query
