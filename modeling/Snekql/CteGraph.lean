import Snekql.QueryScope

/-!
# Reachable definitions

`collect_cte_definitions` walks the sources and nested selects of a statement depth first,
follows every definition that it finds, and lists the definitions in the order in which
their own walk ended. The walk keeps the names of the definitions, the names of all other
sources, the definitions under way, and the recursive member that may refer to its seed.

The walk over one state is one layer: it receives the walks over the older states.
-/

namespace Snekql.Query

variable {Value : Type}

/-- The fields of `_DefinitionGraph`. A definition is emitted when it is in the list. -/
structure DefinitionGraph where
  definitions : List Nat := []
  names : List (String × Nat) := []
  physicalNames : List String := []
  visiting : List Nat := []
  recursiveScope : Option (Nat × Option Nat) := none
deriving DecidableEq, Repr

/-- A traversal step on the graph. -/
abbrev Walk := DefinitionGraph → Except QueryError DefinitionGraph

/-- Walk over the elements in order. -/
def walkEach {α : Type} (walk : α → Walk) : List α → Walk
  | [], graph => .ok graph
  | first :: rest, graph => do
      let next ← walk first graph
      walkEach walk rest next

namespace DefinitionGraph

def addPhysicalName (graph : DefinitionGraph) (name : String) : DefinitionGraph :=
  { graph with physicalNames := name :: graph.physicalNames }

/-- `self._names[name] = definition`. -/
def setName (graph : DefinitionGraph) (name : String) (definition : Nat) : DefinitionGraph :=
  { graph with names := (name, definition) :: graph.names }

end DefinitionGraph

section Walks

variable (heap : Heap Value) (casefold : String → String) (collect : Nat → Walk)

/-- `_definition`: visit the dependencies, permitting the member to read its seed. -/
def walkDefinition (position : Nat) (definition : Definition) : Walk := fun graph =>
  if position ∈ graph.visiting then .error (.compilation "CTE dependency cycle")
  else if position ∈ graph.definitions then .ok graph
  else do
    let body ← collect definition.state { graph with visiting := position :: graph.visiting }
    let walked ← match definition.recursiveStep with
      | none => Except.ok body
      | some member => do
          let previous := body.recursiveScope
          let inside ← collect member
            { body with recursiveScope := some (member, definition.recursiveSeed) }
          Except.ok { inside with recursiveScope := previous }
    return { walked with
      visiting := walked.visiting.erase position,
      definitions := walked.definitions ++ [position] }

/-- `_source` for a reference to a definition. -/
def walkReference (query : Nat) (name : String) (position : Nat) (definition : Definition) :
    Walk := fun graph =>
  if definition.isRecursiveSeed then
    if graph.recursiveScope = some (query, some position) then .ok graph
    else .error (.compilation "recursive self reference escaped its direct member")
  else
    let definitionName := casefold definition.name
    let referred := if casefold name ≠ definitionName then graph.addPhysicalName (casefold name)
      else graph
    if (referred.names.lookup definitionName).any (fun known => known != position) then
      .error (.compilation "CTE names must be unique ignoring case")
    else walkDefinition collect position definition (referred.setName definitionName position)

/-- `_source`. -/
def walkSource (query : Nat) : Relation → Walk
  | .compound _ _ _ => fun _ =>
    .error (.compilation "combined outputs require cte() before use as a query source")
  | .table model => fun graph => .ok (graph.addPhysicalName (casefold model.name))
  | .alias _ source _ name => fun graph =>
    .ok ((graph.addPhysicalName (casefold name)).addPhysicalName (casefold source.name))
  | .cte _ position _ name _ => fun graph =>
    match heap.definitions[position]? with
    | some definition => walkReference casefold collect query name position definition graph
    | none => .error .dangling

/-- `_predicate`. -/
def walkPredicate : Predicate Value → Walk
  | .compound _ left right => fun graph => do
      let between ← walkPredicate left graph
      walkPredicate right between
  | .negated child => walkPredicate child
  | predicate => walkEach collect predicate.nestedSelects

/-- The subqueries of scalar fields. -/
def walkField : Selectable Value → Walk
  | .scalar subquery => collect subquery
  | _ => fun graph => .ok graph

/-- One layer of `collect`. -/
def collectStep (query : Nat) : Walk := fun graph =>
  match heap.states[query]? with
  | none => .error .dangling
  | some state => do
      let sources ← match state.compound with
        | some compound => do
            let left ← collect compound.left graph
            collect compound.right left
        | none => walkEach (walkSource heap casefold collect query) state.resultModels graph
      let fields ← walkEach (walkField collect) state.fields sources
      let predicates ← walkEach (walkPredicate collect) (state.predicates ++ state.having) fields
      walkEach (fun join => walkPredicate collect join.predicate) state.joins predicates

end Walks

/-- `_DefinitionGraph.collect`. -/
def Heap.collect (heap : Heap Value) (casefold : String → String) : Nat → Walk :=
  Creation.value (fun _ => .error .dangling) (collectStep heap casefold)

/-- `_DefinitionGraph.finish`. -/
def DefinitionGraph.finish (graph : DefinitionGraph) : Except QueryError (List Nat) :=
  if graph.names.any (fun entry => decide (entry.1 ∈ graph.physicalNames)) then
    .error (.compilation "CTE name collides with a visible query source")
  else .ok graph.definitions

/-- `collect_cte_definitions`. -/
def Heap.collectCteDefinitions (heap : Heap Value) (casefold : String → String) (state : Nat)
    (outerModels : List Relation) : Except QueryError (List Nat) := do
  let graph ← heap.collect casefold state
    { physicalNames := outerModels.map (fun model => casefold model.tableName) }
  graph.finish

end Snekql.Query
