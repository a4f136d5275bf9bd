import Mathlib.Data.List.Basic

/-!
# Query states

The immutable objects that the query builder produces and that scope checks, compilation
and layouts read. Objects are compared by identity in the source. Here a table, an alias
and a reference to a named definition carry a number that tells them apart, and states and
definitions are entries of a heap and referred to by their position in it. A query object
wraps one state, so a nested query is the position of its state.

A value expression keeps its operations in a tuple that is folded from the left. Here the
tuple is the spine of a tree: each operation is a node over the expression before it.
Values are Python objects about which nothing is assumed, and `none` is Python's `None`.
-/

namespace Snekql.Query

inductive BackendFamily where
  | sqlite
  | mariadb
deriving DecidableEq, Repr

/-- A member of `_annotation_core_types`, the types a logical annotation is made of. -/
inductive CoreType where
  | any
  | int
  | float
  | str
  | utcDatetime
  | localDatetime
  | zonedDatetime
  | other (name : String)
deriving DecidableEq, Repr

/-- The `value_type` of a native value expression. -/
inductive NativeType where
  | int
  | float
  | str
deriving DecidableEq, Repr

def NativeType.coreType : NativeType → CoreType
  | .int => .int
  | .float => .float
  | .str => .str

/-! ## Sources and columns -/

/-- The declaration of a column, as far as queries read it. -/
structure Column where
  name : String
  nullable : Bool
  storageType : String
  logical : List CoreType
  /-- The type that `__value_operand__` derives from storage and annotation. -/
  native : Option NativeType
  /-- The fractional digits of a MariaDB `DATETIME`. -/
  datetimePrecision : Fin 7
deriving DecidableEq, Repr

/-- The precision of a column that stores no fractions of a second. -/
def wholeSeconds : Fin 7 := 0

/-- A table model. -/
structure Table where
  ident : Nat
  name : String
  backend : BackendFamily
  columns : List Column
deriving DecidableEq, Repr

/-- A query source: a table, an alias of one, a reference to a named definition, or the
private output relation of a set operation. -/
inductive Relation where
  | table (table : Table)
  | alias (ident : Nat) (source : Table) (role : Nat) (name : String)
  | cte (ident : Nat) (definition : Nat) (role : Nat) (name : String) (backend : BackendFamily)
  | compound (ident : Nat) (definition : Nat) (backend : BackendFamily)
deriving DecidableEq, Repr

namespace Relation

/-- `require_model_table_name`. -/
def tableName : Relation → String
  | .table model => model.name
  | .alias _ _ _ name => name
  | .cte _ _ _ name _ => name
  | .compound _ _ _ => "__snekql_union"

/-- `require_model_backend`. -/
def backend : Relation → BackendFamily
  | .table model => model.backend
  | .alias _ source _ _ => source.backend
  | .cte _ _ _ _ backend => backend
  | .compound _ _ backend => backend

/-- `issubclass(model, _AliasRelation)`. -/
def isAlias : Relation → Bool
  | .alias _ _ _ _ => true
  | _ => false

/-- The definition of a `_CteRelation`; the output of a set operation is one too. -/
def definition : Relation → Option Nat
  | .cte _ definition _ _ _ => some definition
  | .compound _ definition _ => some definition
  | _ => none

/-- The model whose rows a physical source has. -/
def physical : Relation → Option Table
  | .table model => some model
  | .alias _ source _ _ => some source
  | _ => none

end Relation

/-- A column of a table or alias, or an output of a definition by its position. -/
inductive ColumnRef where
  | attr (relation : Relation) (column : Column)
  | output (relation : Relation) (position : Nat)
deriving DecidableEq, Repr

/-- `require_column_model` and `_CteOutput.__owner_model__`. -/
def ColumnRef.owner : ColumnRef → Relation
  | .attr relation _ => relation
  | .output relation _ => relation

/-- A source with a column name or an output position. -/
inductive GroupingKey where
  | named (relation : Relation) (name : String)
  | placed (relation : Relation) (position : Nat)
deriving DecidableEq, Repr

/-- `grouping_key`. -/
def ColumnRef.groupingKey : ColumnRef → GroupingKey
  | .attr relation column => .named relation column.name
  | .output relation position => .placed relation position


/-! ## Expressions and predicates -/

inductive ComparisonOperator where
  | eq
  | ne
  | gt
  | gte
  | lt
  | lte
deriving DecidableEq, Repr

inductive BinaryOperator where
  | add
  | sub
  | mul
  | coalesce
deriving DecidableEq, Repr

inductive TextFunction where
  | lower
  | charLength
deriving DecidableEq, Repr

inductive AggregateFunction where
  | avg
  | count
  | max
  | min
  | sum
deriving DecidableEq, Repr

inductive CompoundOperator where
  | and
  | or
deriving DecidableEq, Repr

/-- `_Aggregate`; a column that is absent is that of `COUNT(*)`. -/
structure Aggregate where
  column : Option ColumnRef
  func : AggregateFunction
  owner : Relation
deriving DecidableEq, Repr

/-- What a value expression records about itself. -/
structure ValueFacts where
  nullable : Bool
  valueType : NativeType
  owner : Relation
deriving DecidableEq, Repr

mutual

/-- `ValueExpression`, with `CaseRoot` as one of its roots. -/
inductive ValueExpression (Value : Type) where
  | column (column : ColumnRef) (facts : ValueFacts)
  | case (condition : Predicate Value) (conditionColumns : List ColumnRef)
      (consequent otherwise : ValueOperand Value) (facts : ValueFacts)
  | binary (operator : BinaryOperator) (left : ValueExpression Value)
      (right : ValueOperand Value) (facts : ValueFacts)
  | function (function : TextFunction) (argument : ValueExpression Value) (facts : ValueFacts)

/-- The right side of an operation, or a branch of a `CASE`. -/
inductive ValueOperand (Value : Type) where
  | expression (expression : ValueExpression Value)
  | literal (value : Option Value)

/-- `Selectable`: what can be projected or compared. -/
inductive Selectable (Value : Type) where
  | column (column : ColumnRef)
  | aggregate (aggregate : Aggregate)
  | scalar (subquery : Nat)
  | expression (expression : ValueExpression Value)
  | integerLiteral (backend : BackendFamily) (value : Value)
  | jsonExtractInt (column : ColumnRef) (path : Value)
  | tablePresence (source : Relation) (name : String)
  | ctePresence (relation : Relation)

/-- The nodes of `_PredicateNode`. -/
inductive Predicate (Value : Type) where
  | comparison (operand : Selectable Value) (operator : ComparisonOperator) (value : Option Value)
  | null (operand : Selectable Value) (negated : Bool)
  | membership (operand : Selectable Value) (values : List (Option Value)) (negated : Bool)
  | between (operand : Selectable Value) (low high : Option Value)
  | like (operand : Selectable Value) (pattern : Value) (negated : Bool)
  | columnComparison (operand : Selectable Value) (operator : ComparisonOperator)
      (other : Selectable Value)
  | subqueryMembership (operand : Selectable Value) (subquery : Nat) (negated : Bool)
  | existence (subquery : Nat) (negated : Bool)
  | compound (operator : CompoundOperator) (left right : Predicate Value)
  | negated (child : Predicate Value)

end

variable {Value : Type}

/-- `selectable_owner_model` of an aggregate. -/
def Aggregate.ownerModel (aggregate : Aggregate) : Relation :=
  match aggregate.column with
  | some column => column.owner
  | none => aggregate.owner

def ValueExpression.facts : ValueExpression Value → ValueFacts
  | .column _ facts => facts
  | .case _ _ _ _ facts => facts
  | .binary _ _ _ facts => facts
  | .function _ _ facts => facts

mutual

/-- `__referenced_columns__` of a value expression. -/
def ValueExpression.referencedColumns : ValueExpression Value → List ColumnRef
  | .column column _ => [column]
  | .case _ conditionColumns consequent otherwise _ =>
    conditionColumns ++ consequent.referencedColumns ++ otherwise.referencedColumns
  | .binary _ left right _ => left.referencedColumns ++ right.referencedColumns
  | .function _ argument _ => argument.referencedColumns

def ValueOperand.referencedColumns : ValueOperand Value → List ColumnRef
  | .expression expression => expression.referencedColumns
  | .literal _ => []

end

namespace Selectable

/-- `selectable_owner_model`; a scalar subquery and a constant have no owning source. -/
def ownerModel : Selectable Value → Option Relation
  | .column ref => some ref.owner
  | .aggregate function => some function.ownerModel
  | .scalar _ => none
  | .expression value => some value.facts.owner
  | .integerLiteral _ _ => none
  | .jsonExtractInt ref _ => some ref.owner
  | .tablePresence source _ => some source
  | .ctePresence relation => some relation

/-- `__referenced_columns__` of an operand that satisfies `ReferencedColumns`. -/
def referencedColumns : Selectable Value → Option (List ColumnRef)
  | .expression value => some value.referencedColumns
  | .jsonExtractInt ref _ => some [ref]
  | _ => none

def isAggregate : Selectable Value → Bool
  | .aggregate _ => true
  | _ => false

end Selectable

namespace Predicate

/-- `__predicate_operand__`. -/
def operand : Predicate Value → Option (Selectable Value)
  | .comparison operand _ _ => some operand
  | .null operand _ => some operand
  | .membership operand _ _ => some operand
  | .between operand _ _ => some operand
  | .like operand _ _ => some operand
  | .columnComparison operand _ _ => some operand
  | .subqueryMembership operand _ _ => some operand
  | .existence _ _ => none
  | .compound _ _ _ => none
  | .negated _ => none

/-- `__predicate_grouping_operands__`: both sides of a column comparison, unless the right
one is a scalar subquery. -/
def groupingOperands : Predicate Value → List (Selectable Value)
  | .columnComparison operand _ (.scalar _) => [operand]
  | .columnComparison operand _ other => [operand, other]
  | predicate => predicate.operand.toList

/-- `__predicate_nested_selects__`. -/
def nestedSelects : Predicate Value → List Nat
  | .columnComparison _ _ (.scalar subquery) => [subquery]
  | .subqueryMembership _ subquery _ => [subquery]
  | .existence subquery _ => [subquery]
  | _ => []

end Predicate

/-! ## States -/

inductive JoinType where
  | inner
  | left
deriving DecidableEq, Repr

inductive LockWait where
  | block
  | nowait
  | skipLocked
deriving DecidableEq, Repr

inductive Direction where
  | asc
  | desc
deriving DecidableEq, Repr

inductive SetOperator where
  | union
  | unionAll
deriving DecidableEq, Repr

/-- `NamedProjection`: the labels in output order and the result model that they fill. -/
structure NamedProjection where
  labels : List String
  resultType : Nat
deriving DecidableEq, Repr

structure JoinSpec (Value : Type) where
  model : Relation
  joinType : JoinType
  predicate : Predicate Value

structure OrderBy (Value : Type) where
  column : Selectable Value
  direction : Direction

/-- A binary set operation of two states. -/
structure CompoundSpec where
  left : Nat
  right : Nat
  operator : SetOperator
deriving DecidableEq, Repr

structure SelectState (Value : Type) where
  model : Relation
  fields : List (Selectable Value)
  namedProjection : Option NamedProjection := none
  returnsModel : Bool := false
  distinct : Bool := false
  lockWait : Option LockWait := none
  predicates : List (Predicate Value) := []
  groupings : List ColumnRef := []
  having : List (Predicate Value) := []
  orderings : List (OrderBy Value) := []
  limitValue : Option Value := none
  offsetValue : Option Value := none
  joins : List (JoinSpec Value) := []
  compound : Option CompoundSpec := none

/-- The base model followed by each joined model, in join order. -/
def SelectState.resultModels (state : SelectState Value) : List Relation :=
  state.model :: state.joins.map JoinSpec.model

/-- `_CteDefinition`, by the positions of its states. -/
structure Definition where
  name : String
  state : Nat
  recursiveStep : Option Nat := none
  recursiveSeed : Option Nat := none
  isRecursiveSeed : Bool := false
deriving DecidableEq, Repr

/-- The states and definitions that exist, in the order of their creation. -/
structure Heap (Value : Type) where
  states : List (SelectState Value)
  definitions : List Definition

end Snekql.Query
