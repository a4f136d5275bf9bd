import Snekql.SelectCompile

/-!
# Compiling writes

Inserts, updates and deletes. A write cannot start with `WITH`, so the subqueries of its
predicates carry the definitions that they read. Rows and assignments hold Python values,
which the codecs encode for their column.
-/

namespace Snekql.Query

open Snekql.Splicing

variable {Value : Type}

/-! ## States -/

/-- An attribute of a pending row: `PENDING_GENERATION` leaves the value to the database. -/
inductive RowValue (Value : Type) where
  | pendingGeneration
  | value (value : Option Value)

/-- A model instance that is to be inserted. -/
structure InsertRow (Value : Type) where
  model : Table
  pending : Bool
  held : String → RowValue Value

inductive AssignedValue (Value : Type) where
  | literal (value : Option Value)
  | expression (expression : ValueExpression Value)
  | inserted
  | currentTimestamp

/-- `_Assignment`; the number tells assignment objects apart. -/
structure Assignment (Value : Type) where
  ident : Nat
  column : ColumnRef
  value : AssignedValue Value

inductive ConflictAction (Value : Type) where
  | doNothing
  | doUpdate (assignments : List (Assignment Value))

structure InsertState (Value : Type) where
  rows : List (InsertRow Value)
  destination : Option Table := none
  conflictAction : Option (ConflictAction Value) := none
  conflictTargets : List Column := []
  namedProjection : Option NamedProjection := none
  returning : Bool := false
  returningFields : List (Selectable Value) := []

structure UpdateState (Value : Type) where
  model : Table
  assignments : List (Assignment Value) := []
  explicitAll : Bool := false
  predicates : List (Predicate Value) := []
  namedProjection : Option NamedProjection := none
  returning : Bool := false
  returningFields : List (Selectable Value) := []

structure DeleteState (Value : Type) where
  model : Table
  explicitAll : Bool := false
  predicates : List (Predicate Value) := []
  namedProjection : Option NamedProjection := none
  returning : Bool := false
  returningFields : List (Selectable Value) := []

/-- `InsertState.model`. -/
def InsertState.model (state : InsertState Value) : Option Table :=
  match state.destination with
  | some model => some model
  | none => state.rows.head?.map InsertRow.model

/-- `require_field`. -/
def Selectable.requireField : Selectable Value → Except QueryError Column
  | .column (.attr _ declared) => .ok declared
  | _ => .error (.construction "select requires a model or field")

/-- The scope of a statement that writes one table. -/
def Table.writeScope (table : Table) : ScopeResolver where
  ownModels := [.table table]

/-- `ensure_assignment_targets_model`, with the column that it checked. -/
def Assignment.requireTarget (assignment : Assignment Value) (scope : ScopeResolver) :
    Except QueryError Column := do
  let target : Selectable Value := .column assignment.column
  let column ← target.requireField
  scope.ensureOperandInScope target "assignment" .construction false
  return column

section Writes

variable (heap : Heap Value) (casefold : String → String) (dialect : QueryDialect)
  (encoders : Encoders Value) (mark : Option Value → Text)

/-! ## Inserts -/

/-- The attributes that have a value, encoded for their columns. -/
def encodeAttributes (held : String → RowValue Value) :
    List Column → Except QueryError (List (String × Option Value))
  | [] => .ok []
  | column :: rest =>
    match held column.name with
    | .pendingGeneration => encodeAttributes held rest
    | .value value => do
        let encoded ← encoders.write column value
        let others ← encodeAttributes held rest
        return (column.name, encoded) :: others

/-- `_encode_insert_row`. -/
def encodeInsertRow (model : Table) (row : InsertRow Value) :
    Except QueryError (List (String × Option Value)) := do
  if !row.pending then
    throw (.construction "insert requires a Pending model instance")
  if row.model ≠ model then
    throw (.compilation "bulk insert rows must be instances of the same model")
  encodeAttributes encoders row.held model.columns

/-- `row_values[name]` for each name. -/
def rowValues (names : List String) (row : List (String × Option Value)) : List (Option Value) :=
  names.map (fun name => (row.lookup name).getD none)

/-- An explicit projection lists its columns; otherwise all columns are returned. -/
def returningColumns (model : Table) (fields : List (Selectable Value)) :
    Except QueryError (List Column) :=
  if fields.isEmpty then .ok model.columns else compileEach Selectable.requireField fields

/-- `_returning_clause`. -/
def returningClause (model : Table) (fields : List (Selectable Value))
    (projection : Option NamedProjection) : Except QueryError Text := do
  let columns ← returningColumns model fields
  let parts := columns.map (fun column => dialect.quoteIdentifier column.name)
  match projection with
  | none => return " RETURNING ".toList ++ joinWith ", ".toList parts
  | some projection =>
    if parts.length = projection.labels.length then
      return " RETURNING ".toList ++ joinWith ", ".toList (labelled dialect parts projection.labels)
    else throw (.compilation "named returning width does not match its labels")

/-- An assignment of a conflict update. -/
def compileConflictAssignment (model : Table) (assignment : Assignment Value) :
    Except QueryError (Fragment (Option Value)) :=
  match assignment.value with
  | .expression _ =>
    .error (.compilation "expression assignments are only supported in UPDATE")
  | .inserted => do
      let column ← assignment.requireTarget model.writeScope
      let name := dialect.quoteIdentifier column.name
      return plain (name ++ " = ".toList ++ dialect.insertedValueSql name)
  | .currentTimestamp => do
      let column ← assignment.requireTarget model.writeScope
      let now ← dialect.currentTimestampSql column
      return plain (dialect.quoteIdentifier column.name ++ " = ".toList ++ now)
  | .literal value => do
      let column ← assignment.requireTarget model.writeScope
      let encoded ← encoders.write column value
      return {
        sql := dialect.quoteIdentifier column.name ++ " = ".toList ++ mark encoded,
        params := [encoded] }

/-- `_compile_insert_conflict_sql`. -/
def compileInsertConflict (model : Table) (state : InsertState Value) :
    Except QueryError (Fragment (Option Value)) :=
  let targets := state.conflictTargets.map (fun column => dialect.quoteIdentifier column.name)
  match state.conflictAction with
  | none => .ok (plain [])
  | some .doNothing =>
    if state.returning then
      .error (.compilation "DoNothing cannot be combined with returning()")
    else .ok (plain (dialect.conflictDoNothingSql targets))
  | some (.doUpdate assignments) => do
      let parts ← compileEach (compileConflictAssignment dialect encoders mark model) assignments
      return {
        sql := dialect.conflictUpdateSql targets (joinWith ", ".toList (parts.map Fragment.sql)),
        params := parts.flatMap Fragment.params }

/-- The `RETURNING` clause of a write, or nothing. -/
def compileReturning (model : Table) (returning : Bool) (fields : List (Selectable Value))
    (projection : Option NamedProjection) : Except QueryError Text :=
  if returning then returningClause dialect model fields projection else .ok []

/-- An insert without explicit columns. -/
def compileEmptyInsert (model : Table) (state : InsertState Value) (rows : Nat) (returning : Text) :
    Except QueryError (Fragment (Option Value)) :=
  if 1 < rows then .error (.compilation "bulk insert requires at least one explicit column")
  else if state.conflictAction.isSome then
    .error (.compilation "on_conflict requires at least one explicit insert column")
  else .ok (plain (dialect.emptyInsertSql (dialect.quoteIdentifier model.name) ++ returning))

/-- An insert of the named columns of each row. -/
def compileValues (model : Table) (state : InsertState Value) (names : List String)
    (rows : List (List (Option Value))) (returning : Text) :
    Except QueryError (Fragment (Option Value)) := do
  let groups := rows.map
    (fun values => "(".toList ++ joinWith ", ".toList (values.map mark) ++ ")".toList)
  let conflict ← compileInsertConflict dialect encoders mark model state
  return {
    sql := "INSERT INTO ".toList ++ dialect.quoteIdentifier model.name ++ " (".toList ++
      joinWith ", ".toList (names.map dialect.quoteIdentifier) ++ ") VALUES ".toList ++
      joinWith ", ".toList groups ++ conflict.sql ++ returning,
    params := rows.flatten ++ conflict.params }

/-- `_compile_insert_sql`. -/
def compileInsert (state : InsertState Value) : Except QueryError (Fragment (Option Value)) :=
  match state.model, state.rows with
  | none, _ => .error (.compilation "insert requires at least one row")
  | some _, [] => .error (.compilation "insert requires at least one row")
  | some model, first :: rest => do
      let head ← encodeInsertRow encoders model first
      let others ← compileEach (encodeInsertRow encoders model) rest
      let names := head.map Prod.fst
      if others.any (fun row => row.map Prod.fst != names) then
        throw (.compilation "bulk insert rows must set the same columns")
      let returning ← compileReturning dialect model state.returning state.returningFields
        state.namedProjection
      if names.isEmpty then
        compileEmptyInsert dialect model state (others.length + 1) returning
      else
        compileValues dialect encoders mark model state names
          ((head :: others).map (rowValues names)) returning

/-! ## Updates and deletes -/

/-- The compiler of the selects in the predicates of a write. -/
def writeSubquery (scope : ScopeResolver) (includeCtes : Bool) (nested : Nat) :
    Except QueryError (Fragment (Option Value)) :=
  if includeCtes then compileSelect heap casefold dialect encoders mark (some scope) nested
  else compileSelectState heap casefold dialect encoders mark nested (some scope) none

/-- `_ensure_expression_assignment_dependencies`. -/
def ensureExpressionAssignmentDependencies (assignments : List (Assignment Value)) :
    Except QueryError Unit :=
  ensureEach (fun assignment =>
    match assignment.value with
    | .expression expression =>
      if expression.referencedColumns.any (fun referenced => assignments.any (fun other =>
          other.column == referenced && other.ident != assignment.ident)) then
        .error (.compilation "expression cannot read another column assigned by this statement")
      else .ok ()
    | _ => .ok ()) assignments

/-- An assignment of an update. -/
def compileAssignment (model : Table) (assignment : Assignment Value) :
    Except QueryError (Fragment (Option Value)) := do
  let scope := model.writeScope
  let column ← assignment.requireTarget scope
  let name := dialect.quoteIdentifier column.name
  match assignment.value with
  | .inserted => throw (.compilation "to_inserted() is only valid in a conflict update")
  | .expression expression => do
      let value ← compileExpression heap casefold dialect encoders mark scope
        (writeSubquery heap casefold dialect encoders mark scope) expression
      return { sql := name ++ " = ".toList ++ value.sql, params := value.params }
  | .currentTimestamp => do
      let now ← dialect.currentTimestampSql column
      return plain (name ++ " = ".toList ++ now)
  | .literal value => do
      let encoded ← encoders.write column value
      return { sql := name ++ " = ".toList ++ mark encoded, params := [encoded] }

/-- The `WHERE` clause of a write, or nothing. -/
def compileWriteFilter (model : Table) (predicates : List (Predicate Value)) :
    Except QueryError (Fragment (Option Value)) :=
  if predicates.isEmpty then .ok (plain [])
  else do
    let scope := model.writeScope
    let filter ← compilePredicates heap casefold dialect encoders mark scope
      (writeSubquery heap casefold dialect encoders mark scope) true predicates
    return { sql := " WHERE ".toList ++ filter.sql, params := filter.params }

/-- `_compile_update_sql`. -/
def compileUpdate (state : UpdateState Value) : Except QueryError (Fragment (Option Value)) := do
  if state.assignments.isEmpty then
    throw (.compilation "update requires set() before execution")
  if !state.explicitAll && state.predicates.isEmpty then
    throw (.compilation "update requires all() or where() before execution")
  ensureExpressionAssignmentDependencies state.assignments
  let parts ← compileEach
    (compileAssignment heap casefold dialect encoders mark state.model) state.assignments
  let filter ← compileWriteFilter heap casefold dialect encoders mark state.model state.predicates
  if state.returning && !dialect.supportsUpdateReturning then
    throw (.compilation "backend does not support UPDATE RETURNING")
  let returning ← compileReturning dialect state.model state.returning state.returningFields
    state.namedProjection
  return {
    sql := "UPDATE ".toList ++ dialect.quoteIdentifier state.model.name ++ " SET ".toList ++
      joinWith ", ".toList (parts.map Fragment.sql) ++ filter.sql ++ returning,
    params := parts.flatMap Fragment.params ++ filter.params }

/-- `_compile_delete_sql`. -/
def compileDelete (state : DeleteState Value) : Except QueryError (Fragment (Option Value)) := do
  if !state.explicitAll && state.predicates.isEmpty then
    throw (.compilation "delete requires all() or where() before execution")
  let filter ← compileWriteFilter heap casefold dialect encoders mark state.model state.predicates
  if state.returning && !dialect.supportsDeleteReturning then
    throw (.compilation "backend does not support DELETE RETURNING")
  let returning ← compileReturning dialect state.model state.returning state.returningFields
    state.namedProjection
  return {
    sql := "DELETE FROM ".toList ++ dialect.quoteIdentifier state.model.name ++ filter.sql ++
      returning,
    params := filter.params }

/-! ## Statements -/

/-- The states that `compile_query_sql` accepts. -/
inductive Statement (Value : Type) where
  | select (state : Nat)
  | insert (state : InsertState Value)
  | update (state : UpdateState Value)
  | delete (state : DeleteState Value)

/-- `compile_select_sql_for_dialect` and `compile_write_sql_for_dialect`. -/
def compileStatement : Statement Value → Except QueryError (Fragment (Option Value))
  | .select state => compileSelect heap casefold dialect encoders mark none state
  | .insert state => compileInsert dialect encoders mark state
  | .update state => compileUpdate heap casefold dialect encoders mark state
  | .delete state => compileDelete heap casefold dialect encoders mark state

end Writes

end Snekql.Query
