import Snekql.Creation
import Snekql.QueryAst

/-!
# Output layouts

A named definition fixes the label and the logical domain of each of its outputs when it is
created. A reference to an output reads the label and the domain of the slot, so both are
functions of the definition's state, and of the definitions that state reads in turn.
-/

namespace Snekql.Query

variable {Value : Type}

/-- Known logical values and SQL nullability; an absent nullability is unknown. -/
structure OutputDomain where
  logical : List CoreType := [.any]
  nullable : Option Bool := none
deriving DecidableEq, Repr

/-! ## Reading the heap -/

/-- The state that a reference's definition was built from. -/
def Heap.definitionState (heap : Heap Value) (relation : Relation) : Option (SelectState Value) := do
  let definition ← heap.definitions[← relation.definition]?
  heap.states[definition.state]?

/-- The labels of a definition's slots. -/
def SelectState.labels (state : SelectState Value) : List String :=
  match state.namedProjection with
  | some projection => projection.labels
  | none => []

/-- The label of `__output_slot__`. -/
def Heap.outputLabel (heap : Heap Value) (relation : Relation) (position : Nat) : String :=
  match heap.definitionState relation with
  | some state => state.labels.getD position ""
  | none => ""

/-- The name by which a column is read from a row of its source. -/
def Heap.columnName (heap : Heap Value) : ColumnRef → String
  | .attr _ column => column.name
  | .output relation position => heap.outputLabel relation position

/-- Models that a row of the state may lack. -/
def SelectState.nullableModels (state : SelectState Value) : List Relation :=
  (state.joins.filter (fun join => join.joinType = .left)).map JoinSpec.model

/-! ## Domains -/

mutual

/-- `__nullable_when_extended__`: whether the value may be `NULL` when the row of its owner
is absent. -/
def ValueExpression.nullableWhenExtended : ValueExpression Value → Bool
  | .column _ _ => true
  | .case _ _ consequent otherwise _ =>
    consequent.nullableWhenExtended || otherwise.nullableWhenExtended
  | .binary .coalesce left right _ => left.nullableWhenExtended && right.nullableWhenExtended
  | .binary _ left right _ => left.nullableWhenExtended || right.nullableWhenExtended
  | .function _ argument _ => argument.nullableWhenExtended

def ValueOperand.nullableWhenExtended : ValueOperand Value → Bool
  | .expression expression => expression.nullableWhenExtended
  | .literal value => value.isNone

end

/-- The domains of the fields of every older state. -/
abbrev Domains := Nat → List OutputDomain

/-- The domain of a slot of a definition, `_CteOutput.__output_domain__`. -/
def Heap.slotDomain (heap : Heap Value) (domains : Domains) (relation : Relation)
    (position : Nat) : OutputDomain :=
  match relation.definition.bind (fun definition => heap.definitions[definition]?) with
  | some definition => (domains definition.state).getD position {}
  | none => {}

def Heap.columnDomain (heap : Heap Value) (domains : Domains) : ColumnRef → OutputDomain
  | .attr _ column => { logical := column.logical, nullable := some column.nullable }
  | .output relation position => heap.slotDomain domains relation position

/-- `_aggregate_domain`. -/
def Heap.aggregateDomain (heap : Heap Value) (domains : Domains) (aggregate : Aggregate) :
    OutputDomain :=
  match aggregate.func with
  | .count => { logical := [.int], nullable := some false }
  | .avg => { logical := [.float], nullable := some true }
  | _ =>
    match aggregate.column with
    | some column =>
      { logical := (heap.columnDomain domains column).logical, nullable := some true }
    | none => { nullable := some true }

/-- `output_domain`. -/
def Heap.outputDomain (heap : Heap Value) (domains : Domains) : Selectable Value → OutputDomain
  | .column column => heap.columnDomain domains column
  | .expression expression =>
    { logical := [expression.facts.valueType.coreType],
      nullable := some expression.facts.nullable }
  | .aggregate aggregate => heap.aggregateDomain domains aggregate
  | .integerLiteral _ _ => { logical := [.int], nullable := some false }
  | _ => {}

/-- Whether the absence of its owner's row turns a projected value into `NULL`. -/
def SelectState.nullExtends (state : SelectState Value) : Selectable Value → Bool
  | .column column => decide (column.owner ∈ state.nullableModels)
  | .expression expression =>
    decide (expression.facts.owner ∈ state.nullableModels) && expression.nullableWhenExtended
  | _ => false

/-- `definition_output_domain`. -/
def Heap.definitionOutputDomain (heap : Heap Value) (domains : Domains)
    (state : SelectState Value) : Selectable Value → OutputDomain
  | .scalar subquery =>
    { logical := ((domains subquery).getD 0 {}).logical, nullable := some true }
  | source =>
    let domain := heap.outputDomain domains source
    if state.nullExtends source then { domain with nullable := some true } else domain

/-- One layer of `build_output_layout`: the domains of one state's fields. -/
def Heap.fieldDomainsStep (heap : Heap Value) (domains : Domains) (index : Nat) :
    List OutputDomain :=
  match heap.states[index]? with
  | some state => state.fields.map (heap.definitionOutputDomain domains state)
  | none => []

/-- The domains of a state's fields. -/
def Heap.fieldDomains (heap : Heap Value) : Domains :=
  Creation.value [] heap.fieldDomainsStep

end Snekql.Query
