import Snekql.QueryCompile

/-!
# Compiling a select

A select is compiled clause by clause: the texts of the clauses are collected in one list
and joined by blanks, and the values bound in them are collected in another. A nested
select, a member of a set operation and the body of a definition are compiled by the same
function, so one select is a layer over the older ones.
-/

namespace Snekql.Query

open Snekql.Splicing

variable {Value : Type}

/-- Compile a state under an enclosing scope, if any, with a presence column, if any. -/
abbrev SelectCompiler (Value : Type) :=
  Option ScopeResolver → Option String → Except QueryError (Fragment (Option Value))

section Select

variable (heap : Heap Value) (casefold : String → String) (dialect : QueryDialect)
  (encoders : Encoders Value) (mark : Option Value → Text)

/-! ## Sources -/

/-- The hidden column of a source in `JoinedRowShape.for_sources`. -/
def sourceMarker (source : Relation) : Except QueryError (Option String) :=
  match source.physical with
  | some table => .ok (table.presenceMarker casefold)
  | none =>
    match heap.definitionState source with
    | none => .error .dangling
    | some state =>
      if state.namedProjection.isSome then .ok none
      else .error (.compilation "CTE row requires a named result contract")

/-- The hidden columns of the sources of a state; only joined rows have them. -/
def joinedShape (state : SelectState Value) : Except QueryError (List (Option String)) :=
  if state.returnsModel && !state.joins.isEmpty then
    compileEach (sourceMarker heap casefold) state.resultModels
  else .ok []

/-- `_compile_source_sql`. -/
def compileSourceSql (marker : Option String) (source : Relation) : Except QueryError Text :=
  let name := dialect.quoteIdentifier source.tableName
  match source.physical with
  | none =>
    match source.definition.bind (fun position => heap.definitions[position]?) with
    | none => .error .dangling
    | some definition =>
      let defined := dialect.quoteIdentifier definition.name
      .ok (if defined = name then defined else defined ++ " AS ".toList ++ name)
  | some table =>
    let physical := dialect.quoteIdentifier table.name
    match marker with
    | some marker =>
      let columns := joinWith ", ".toList
        (table.columns.map (fun column => dialect.quoteIdentifier column.name))
      .ok ("(SELECT ".toList ++ columns ++ ", 1 AS ".toList ++ dialect.quoteIdentifier marker ++
        " FROM ".toList ++ physical ++ ") AS ".toList ++ name)
    | none =>
      .ok (if source.isAlias then physical ++ " AS ".toList ++ name else name)

variable (select : Nat → SelectCompiler Value)

/-- `_compile_select_source`: the operands of a set operation see no enclosing query. -/
def compileSelectSource (state : SelectState Value) (marker : Option String) :
    Except QueryError (Fragment (Option Value)) :=
  match state.compound with
  | none => do
      let sql ← compileSourceSql heap dialect marker state.model
      return plain sql
  | some compound => do
      let left ← select compound.left none none
      let right ← select compound.right none none
      return {
        sql := "(".toList ++ left.sql ++ " ".toList ++ compound.operator.sql ++ " ".toList ++
          right.sql ++ ") AS ".toList ++ dialect.quoteIdentifier state.model.tableName,
        params := left.params ++ right.params }

/-! ## Clauses -/

/-- The compiler of the selects nested in a scope. -/
def nestedSelect (scope : ScopeResolver) (_includeCtes : Bool) (nested : Nat) :
    Except QueryError (Fragment (Option Value)) :=
  select nested (some scope) none

def compileField (scope : ScopeResolver) :
    Selectable Value → Except QueryError (Fragment (Option Value))
  | .scalar nested => compileScalar heap (nestedSelect select scope) false nested
  | field => renderSelectable heap casefold dialect encoders mark scope (nestedSelect select scope)
      field

/-- `AS label` behind each column of a named projection. -/
def labelled (parts : List Text) (labels : List String) : List Text :=
  List.zipWith (fun sql label => sql ++ " AS ".toList ++ dialect.quoteIdentifier label) parts labels

def nameColumns (state : SelectState Value) (parts : List Text) : Except QueryError (List Text) :=
  match state.namedProjection with
  | none => .ok parts
  | some projection =>
    if parts.length = projection.labels.length then
      .ok (labelled dialect parts projection.labels)
    else .error (.compilation "named projection width does not match its labels")

/-- `_compile_select_list`. -/
def compileSelectList (scope : ScopeResolver) (presenceName : Option String)
    (state : SelectState Value) : Except QueryError (Fragment (Option Value)) := do
  let fields ← compileEach (compileField heap casefold dialect encoders mark select scope)
    state.fields
  let named ← nameColumns dialect state (fields.map Fragment.sql)
  let presence := presenceName.toList.map (fun name => "1 AS ".toList ++ dialect.quoteIdentifier name)
  return {
    sql := joinWith ", ".toList (named ++ presence),
    params := fields.flatMap Fragment.params }

/-- The loop over the joins. `ON` sees the sources before it and its own. -/
def compileJoins (outerModels : List Relation) :
    List Relation → List (Option String) → List (JoinSpec Value) →
      Except QueryError (Clauses (Option Value))
  | _, _, [] => .ok { parts := [], params := [] }
  | visible, markers, join :: rest => do
      let table ← compileSourceSql heap dialect (markers.headD none) join.model
      let own := visible ++ [join.model]
      let scope : ScopeResolver := { ownModels := own, outerModels := outerModels }
      let on ← compilePredicate heap casefold dialect encoders mark scope
        (nestedSelect select scope) false join.predicate
      let after ← compileJoins outerModels own markers.tail rest
      return {
        parts := (join.joinType.sql ++ " JOIN ".toList ++ table ++ " ON ".toList ++ on.sql) ::
          after.parts,
        params := on.params ++ after.params }

/-- `_compile_predicates_sql`. -/
def compilePredicates (scope : ScopeResolver)
    (subquery : Bool → Nat → Except QueryError (Fragment (Option Value))) (includeCtes : Bool)
    (predicates : List (Predicate Value)) : Except QueryError (Fragment (Option Value)) := do
  let compiled ← compileEach
    (compilePredicate heap casefold dialect encoders mark scope subquery includeCtes) predicates
  return {
    sql := joinWith " AND ".toList
      (compiled.map (fun part => "(".toList ++ part.sql ++ ")".toList)),
    params := compiled.flatMap Fragment.params }

/-- A `WHERE` or `HAVING` clause; there is none without predicates. -/
def compileFilter (keyword : String) (scope : ScopeResolver)
    (predicates : List (Predicate Value)) : Except QueryError (Clauses (Option Value)) :=
  if predicates.isEmpty then .ok { parts := [], params := [] }
  else do
    let filter ← compilePredicates heap casefold dialect encoders mark scope
      (nestedSelect select scope) false predicates
    return { parts := [keyword.toList ++ " ".toList ++ filter.sql], params := filter.params }

/-- `_compile_group_by_sql`. -/
def compileGroupBy (scope : ScopeResolver) (groupings : List ColumnRef) : List Text :=
  if groupings.isEmpty then []
  else ["GROUP BY ".toList ++
    joinWith ", ".toList (groupings.map (renderColumn heap dialect scope.qualified))]

/-- `_compile_ordering_sql`. -/
def compileOrdering (scope : ScopeResolver) (ordering : OrderBy Value) : Except QueryError Text := do
  scope.ensureOrderingTargetsModels ordering
  let rendered ← renderSelectable heap casefold dialect encoders mark scope
    (nestedSelect select scope) ordering.column
  if rendered.params.isEmpty then
    return rendered.sql ++ " ".toList ++ ordering.direction.sql
  else
    throw (.compilation "dialect expressions with bound values cannot be used for ordering")

def compileOrderBy (scope : ScopeResolver) (orderings : List (OrderBy Value)) :
    Except QueryError (List Text) :=
  if orderings.isEmpty then .ok []
  else do
    let parts ← compileEach (compileOrdering heap casefold dialect encoders mark select scope)
      orderings
    return ["ORDER BY ".toList ++ joinWith ", ".toList parts]

/-- `_compile_limit_offset_sql`. -/
def compileLimitOffset (state : SelectState Value) : Clauses (Option Value) :=
  match state.limitValue, state.offsetValue with
  | none, none => { parts := [], params := [] }
  | some limit, none => { parts := ["LIMIT ".toList ++ mark (some limit)], params := [some limit] }
  | none, some offset => {
      parts := [dialect.offsetOnlyLimitSql, "OFFSET ".toList ++ mark (some offset)],
      params := [some offset] }
  | some limit, some offset => {
      parts := ["LIMIT ".toList ++ mark (some limit), "OFFSET ".toList ++ mark (some offset)],
      params := [some limit, some offset] }

/-- `_compile_locking_clause`. -/
def compileLockingClause (state : SelectState Value) (nested : Bool) :
    Except QueryError (List Text) :=
  match state.lockWait, dialect.forUpdateSql with
  | none, _ => .ok []
  | some _, none => .error (.compilation "FOR UPDATE is not supported by this dialect")
  | some wait, some forUpdateSql =>
    if state.model.definition.isSome then
      .error (.compilation "FOR UPDATE requires a physical table source, not a CTE")
    else if nested then .error (.compilation "locking subqueries are not supported")
    else if state.distinct || !state.joins.isEmpty || !state.groupings.isEmpty ||
        !state.having.isEmpty || state.fields.any Selectable.isAggregate ||
        state.orderings.any (fun ordering => ordering.column.isAggregate) then
      .error (.compilation "FOR UPDATE requires a non-distinct, ungrouped, single-source SELECT")
    else .ok [forUpdateSql wait]

/-! ## States -/

def selectScope (outer : Option ScopeResolver) (state : SelectState Value) :
    Except QueryError ScopeResolver :=
  match outer with
  | some outer => outer.enterSubquery state.resultModels
  | none => .ok { ownModels := state.resultModels }

/-- A projected operand reads the statement's own sources. -/
def ensureFieldInScope (scope : ScopeResolver) : Selectable Value → Except QueryError Unit
  | .scalar _ => .ok ()
  | field => scope.ensureOperandInScope field "select" .compilation true

/-- The clauses of `_compile_select_state` in their order. -/
def compileClauses (state : SelectState Value) (shape : List (Option String))
    (scope : ScopeResolver) (nested : Bool) (presenceName : Option String) :
    Except QueryError (Fragment (Option Value)) := do
  let columns ← compileSelectList heap casefold dialect encoders mark select scope presenceName
    state
  let source ← compileSelectSource heap dialect select state (shape.headD none)
  let joins ← compileJoins heap casefold dialect encoders mark select scope.outerModels
    [state.model] shape.tail state.joins
  let filter ← compileFilter heap casefold dialect encoders mark select "WHERE" scope
    state.predicates
  ensureEach (scope.ensureHavingTargets state) state.having
  let having ← compileFilter heap casefold dialect encoders mark select "HAVING" scope state.having
  let orderBy ← compileOrderBy heap casefold dialect encoders mark select scope state.orderings
  let limit := compileLimitOffset dialect mark state
  let locking ← compileLockingClause dialect state nested
  let keyword := (if state.distinct then "SELECT DISTINCT" else "SELECT").toList
  return {
    sql := joinWith " ".toList
      ([keyword ++ " ".toList ++ columns.sql ++ " FROM ".toList ++ source.sql] ++ joins.parts ++
        filter.parts ++ compileGroupBy heap dialect scope state.groupings ++ having.parts ++
        orderBy ++ limit.parts ++ locking),
    params := columns.params ++ source.params ++ joins.params ++ filter.params ++ having.params ++
      limit.params }

/-- One layer of `_compile_select_state`. -/
def compileSelectStep (index : Nat) : SelectCompiler Value := fun outer presenceName =>
  match heap.states[index]? with
  | none => .error .dangling
  | some state => do
      let shape ← joinedShape heap casefold state
      let scope ← selectScope outer state
      scope.ensureUnambiguousAliases heap casefold
      ensureEach (ensureFieldInScope scope) state.fields
      heap.ensureGroupingCoversProjection state
      compileClauses heap casefold dialect encoders mark select state shape scope outer.isSome
        presenceName

end Select

section Statements

variable (heap : Heap Value) (casefold : String → String) (dialect : QueryDialect)
  (encoders : Encoders Value) (mark : Option Value → Text)

/-- `_compile_select_state`. -/
def compileSelectState : Nat → SelectCompiler Value :=
  Creation.value (fun _ _ => .error .dangling)
    (compileSelectStep heap casefold dialect encoders mark)

/-- `_CteDefinition.presence_name`. -/
def definitionPresence (definition : Definition) : String :=
  presenceNameAmong casefold ((heap.states[definition.state]?).elim [] SelectState.labels)

/-- The recursive member of a definition, behind its body. -/
def compileMember (presenceName : String) (recursiveStep : Option Nat)
    (body : Fragment (Option Value)) : Except QueryError (Fragment (Option Value)) :=
  match recursiveStep with
  | none => .ok body
  | some member => do
      let step ← compileSelectState heap casefold dialect encoders mark member none
        (some presenceName)
      return {
        sql := body.sql ++ " UNION ALL ".toList ++ step.sql,
        params := body.params ++ step.params }

/-- A definition of the `WITH` clause. -/
def compileDefinition (position : Nat) : Except QueryError (Fragment (Option Value)) :=
  match heap.definitions[position]? with
  | none => .error .dangling
  | some definition => do
      let presenceName := definitionPresence heap casefold definition
      let anchor ← compileSelectState heap casefold dialect encoders mark definition.state none
        (some presenceName)
      let body ← compileMember heap casefold dialect encoders mark presenceName
        definition.recursiveStep anchor
      return {
        sql := dialect.quoteIdentifier definition.name ++ " AS (".toList ++ body.sql ++ ")".toList,
        params := body.params }

/-- `compile_select_sql_for_dialect`. -/
def compileSelect (outer : Option ScopeResolver) (index : Nat) :
    Except QueryError (Fragment (Option Value)) := do
  let definitions ← heap.collectCteDefinitions casefold index
    (outer.elim [] ScopeResolver.models)
  let main ← compileSelectState heap casefold dialect encoders mark index outer none
  if definitions.isEmpty then
    return main
  else
    let parts ← compileEach (compileDefinition heap casefold dialect encoders mark) definitions
    let recursive := definitions.any (fun position =>
      (heap.definitions[position]?).any (fun definition => definition.recursiveStep.isSome))
    return {
      sql := (if recursive then "WITH RECURSIVE" else "WITH").toList ++ " ".toList ++
        joinWith ", ".toList (parts.map Fragment.sql) ++ " ".toList ++ main.sql,
      params := parts.flatMap Fragment.params ++ main.params }

end Statements

end Snekql.Query
