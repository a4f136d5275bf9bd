import Snekql.RecordedState

/-!
# Compilation of recorded migrations

`compileV1` validates the route of a draft and emits its SQL. Consecutive column changes of
one table wait in one pending contraction, which is emitted when anything else follows.
-/

namespace Snekql.Recorded

open Snekql.Splicing (Text joinWith)

variable (grammar : Grammar)

/-! ## Validation of drafts -/

/-- `_RESERVED`. -/
def reserved : List Text :=
  ["snekql_migrations".toList, "snekql_experimental_migrations".toList]

/-- The message of a wrapped `SchemaError`. -/
def wrapped {α : Type} (message : String) :
    Except MigrationError α → Except MigrationError α
  | .error (.schema inner) => .error (.package message [inner.toList])
  | outcome => outcome

/-- The comparison in `_validate_column_identifier`. -/
def declaresColumn (column : ColumnState) (backend : Backend) : Except MigrationError Bool := do
  match ← tokens grammar.unicode column.definition backend.mysql with
  | [] => return false
  | first :: _ =>
    if column.name.isEmpty || (first.kind != .identifier && first.kind != .word) then
      return false
    else
      return (← columnName grammar.unicode column.definition backend.mysql) == some column.name

/-- `_validate_column_identifier`. -/
def validateColumnIdentifier (column : ColumnState) (backend : Backend) :
    Except MigrationError Unit := do
  if !(← wrapped "column identifier claim is invalid: %" (declaresColumn grammar column backend))
  then throw (.package "column identifier claim must match its SQL definition" [])

/-- `_unique_identifiers`, after the folded names already seen. -/
def uniqueIdentifiers : List Text → List Text → Except MigrationError Unit
  | _, [] => .ok ()
  | seen, name :: rest =>
    if name.isEmpty || seen.contains (asciiLower name) then
      .error (.package "ambiguous recorded identifiers require an explicit adapter" [])
    else uniqueIdentifiers (asciiLower name :: seen) rest

/-- The column that a declaration names, if it names one. -/
def declaredColumn (mysql : Bool) (part : Text) : Except MigrationError (Option Text) := do
  match ← tokens grammar.unicode part mysql with
  | [] => return none
  | first :: _ =>
    if first.kind != .identifier && first.kind != .word then return none
    else columnName grammar.unicode part mysql

/-- `_validate_column_coverage`. -/
def validateColumnCoverage (table : TableState) (backend : Backend) :
    Except MigrationError Unit := do
  let names ← wrapped "managed column construction cannot be verified: %" (do
    let split ← splitTable grammar.unicode table.sql backend.mysql
    split.parts.mapM (declaredColumn grammar backend.mysql))
  let names := names.filterMap (Option.map asciiLower)
  match table.columns.find? (fun column => names.count (asciiLower column.name) != 1) with
  | none => return ()
  | some column => throw (.package
      "managed column construction requires exactly one declaration for %.%"
      [table.name, column.name])

/-- `_validate_construction_header`. -/
def validateConstructionHeader (table : TableState) (backend : Backend) :
    Except MigrationError Unit := do
  let stream ← wrapped "unsupported table construction header: %"
    (tokens grammar.unicode table.sql backend.mysql)
  let malformed : MigrationError := .package
    "table construction header must be an unqualified ordinary CREATE TABLE naming its recorded owner"
    []
  match stream with
  | create :: word :: owner :: opening :: _ =>
    if !create.isWord "create" || !word.isWord "table" ||
        (owner.kind != .word && owner.kind != .identifier) || owner.value != table.name ||
        !opening.isPunct '(' then
      throw malformed
    if !blankGaps table.sql 0 (stream.take 4) then
      throw (.package "table construction header comments require an explicit adapter" [])
  | _ => throw malformed

/-- `_validate_table_identifiers`. -/
def validateTableIdentifiers (table : TableState) (backend : Backend) :
    Except MigrationError Unit := do
  let identifier ← wrapped "table identifier claim is invalid: %"
    (tokens grammar.unicode table.quotedName backend.mysql)
  let malformed : MigrationError :=
    .package "table identifier claim must match its single quoted SQL name" []
  match identifier with
  | [token] =>
    if table.name.isEmpty || token.kind != .identifier || token.value != table.name ||
        table.quotedName != slice table.quotedName token.start token.stop then
      throw malformed
  | _ => throw malformed
  uniqueIdentifiers [] (table.columns.map ColumnState.name)
  table.columns.forM (fun column => validateColumnIdentifier grammar column backend)

/-- The tables that the operations create or adopt. -/
def Draft.introduced (draft : Draft) : List TableState :=
  draft.operations.filterMap (fun
    | .createTable table => some table
    | .adoptTable table => some table
    | _ => none)

/-- The columns that the operations declare. -/
def Draft.declared (draft : Draft) : List ColumnState :=
  draft.operations.filterMap (fun
    | .addColumn _ column => some column
    | .contract _ (.changeDefault column) => some column
    | _ => none)

/-- `_validate_draft`. -/
def validateDraft (draft : Draft) : Except MigrationError Unit := do
  let backend := draft.target.backend
  let tables := draft.before.tables ++ draft.target.tables ++ draft.introduced
  uniqueIdentifiers [] (draft.before.tables.map TableState.name)
  uniqueIdentifiers [] (draft.target.tables.map TableState.name)
  tables.forM (fun table => do
    validateTableIdentifiers grammar table backend
    validateConstructionHeader grammar table backend
    validateColumnCoverage grammar table backend
    grammar.tableClaims.forM (fun validate => validate table backend))
  draft.declared.forM (fun column => do
    validateColumnIdentifier grammar column backend
    grammar.columnClaims.forM (fun validate => validate column backend))
  if tables.any (fun table => reserved.contains (grammar.unicode.casefold table.name)) then
    throw (.package "runner metadata cannot be managed by application migrations" [])
  if isBlank draft.revision || !draft.unresolved.isEmpty then
    throw (.package "unresolved migration %: %" (draft.revision :: draft.unresolved))
  if draft.before.backend != draft.target.backend then
    throw (.package "a migration cannot change backend" [])

/-! ## The SQL budget -/

def budgetLimit : Nat := 1024 * 1024

/-- The length of a source in bytes, where that is worth counting. -/
def sourceSize (sql : Text) : Nat :=
  if sql.length ≤ budgetLimit then (sql.map Char.utf8Size).sum else sql.length

/-- `_check_sql_budget`. -/
def checkSqlBudget : List Text → Nat → Except MigrationError Nat
  | [], used => .ok used
  | sql :: rest, used =>
    let size := sourceSize sql
    if budgetLimit < size then
      .error (.package "migration SQL source exceeds UTF-8 byte limit (1 MiB)" [])
    else if 4 * budgetLimit < used + size then
      .error (.package "migration aggregate SQL exceeds UTF-8 byte limit (4 MiB)" [])
    else checkSqlBudget rest (used + size)

/-- `_table_sql`. -/
def tableSql (table : TableState) : List Text :=
  table.sql :: table.indexes ++ table.columns.map ColumnState.definition

/-- The SQL that an operation of the draft holds. -/
def Operation.sources : Operation → List Text
  | .createTable table => tableSql table
  | .adoptTable table => tableSql table
  | .addColumn _ column => [column.definition]
  | .contract _ (.changeDefault column) => [column.definition]
  | .auxiliary _ (.addCheck definition) => [definition]
  | .auxiliary _ (.createIndex sql) => [sql]
  | .dataChange change => [change.sql]
  | _ => []

/-- `_draft_sql`. -/
def draftSql (draft : Draft) : List Text :=
  draft.before.tables.flatMap tableSql ++ draft.target.tables.flatMap tableSql ++
    draft.operations.flatMap Operation.sources

/-! ## Emission -/

structure Contraction where
  before : TableState
  after : TableState
  required : List Text
  dropped : List Text
  defaults : List Text
  relaxed : List Text
  removedChecks : List Text
  addedChecks : List Text
deriving DecidableEq, Repr

/-- A contraction that lists no change yet. -/
def Contraction.between (before after : TableState) : Contraction where
  before := before
  after := after
  required := []
  dropped := []
  defaults := []
  relaxed := []
  removedChecks := []
  addedChecks := []

/-- A further change of the same table. -/
def Contraction.extend (pending : Contraction) (after : TableState) (change : ColumnChange) :
    Contraction :=
  match change with
  | .requireNotNull name => { pending with after := after, required := pending.required ++ [name] }
  | .dropColumn name => { pending with after := after, dropped := pending.dropped ++ [name] }
  | .allowNull name => { pending with after := after, relaxed := pending.relaxed ++ [name] }
  | .changeDefault column =>
    { pending with after := after, defaults := pending.defaults ++ [column.name] }

/-- The opposite change of the same column is already waiting. -/
def Contraction.opposes (pending : Contraction) : ColumnChange → Bool
  | .allowNull name => pending.required.contains name
  | .requireNotNull name => pending.relaxed.contains name
  | _ => false

/-- The elements at one index of the statements, bindings, transactional marks and
contractions, which are always extended together. -/
structure Entry where
  statement : Option Text
  bindings : List Parameter
  transactional : Bool
  contraction : Option Contraction
deriving DecidableEq, Repr

def Entry.ofStatement (sql : Text) (params : List Parameter) (transactional : Bool) : Entry where
  statement := some sql
  bindings := params
  transactional := transactional
  contraction := none

def Entry.ofContraction (statement : Option Text) (contraction : Contraction) : Entry where
  statement := statement
  bindings := []
  transactional := false
  contraction := some contraction

/-- `_Emission`. -/
structure Emission where
  backend : Backend
  sqlBytes : Nat
  entries : List Entry
  pending : Option Contraction
  relinquished : List Text
deriving DecidableEq, Repr

/-- A name between backticks. -/
def quotedName (name : Text) : Text :=
  backtick :: name.flatMap (fun char => if char = backtick then [char, char] else [char]) ++
    [backtick]

/-- `next(c for c in columns if c.name == name)`. -/
def namedColumn (columns : List ColumnState) (name : Text) : Except MigrationError ColumnState :=
  match columns.find? (fun column => column.name == name) with
  | some column => .ok column
  | none => .error .stopIteration

/-- The default clauses, which only MariaDB has. -/
def defaultClauses (backend : Backend) (pending : Contraction) :
    Except MigrationError (List Text) :=
  match backend with
  | .sqlite => .ok []
  | .mariadb =>
    (pending.defaults.eraseDups.filter (fun name =>
      !(pending.required ++ pending.relaxed ++ pending.dropped).contains name)).mapM
      (fun name => do
        let column ← namedColumn pending.after.columns name
        let (_, expression) ← grammar.mariadbDefaultParts column.definition
        let action := match expression with
          | none => "DROP DEFAULT".toList
          | some expression => "SET DEFAULT ".toList ++ expression
        return "ALTER COLUMN ".toList ++ quotedName name ++ " ".toList ++ action)

/-- The clauses of the statement for a contraction. -/
def contractionClauses (backend : Backend) (pending : Contraction) :
    Except MigrationError (List Text) := do
  let modified ← ((pending.required ++ pending.relaxed).eraseDups.filter
    (fun name => !pending.dropped.contains name)).mapM (fun name => do
      return "MODIFY COLUMN ".toList ++ (← namedColumn pending.after.columns name).definition)
  let defaults ← defaultClauses grammar backend pending
  return modified ++ pending.dropped.map (fun name => "DROP COLUMN ".toList ++ quotedName name) ++
    defaults ++ pending.addedChecks.map (fun definition => "ADD ".toList ++ definition) ++
    pending.removedChecks.map (fun name => "DROP CONSTRAINT ".toList ++ quotedName name)

/-- The statement for a contraction: SQLite plans its own. -/
def contractionStatement (backend : Backend) (pending : Contraction) (clauses : List Text) :
    Option Text :=
  match backend with
  | .sqlite => none
  | .mariadb => some
      ("ALTER TABLE ".toList ++ pending.before.quotedName ++ " ".toList ++
        joinWith ", ".toList clauses)

/-- `_Emission.flush`. -/
def Emission.flush (emission : Emission) : Except MigrationError Emission :=
  match emission.pending with
  | none => .ok emission
  | some pending => do
      let used ← checkSqlBudget
        (tableSql pending.before ++ tableSql pending.after ++ pending.addedChecks)
        emission.sqlBytes
      let clauses ← contractionClauses grammar emission.backend pending
      let statement := contractionStatement emission.backend pending clauses
      let used ← checkSqlBudget statement.toList used
      return { emission with
        sqlBytes := used
        entries := emission.entries ++ [Entry.ofContraction statement pending]
        pending := none }

/-- `_Emission.emit`. -/
def Emission.emit (emission : Emission) (sql : Text) (params : List Parameter)
    (transactional : Bool) : Except MigrationError Emission := do
  let emission ← emission.flush grammar
  let used ← checkSqlBudget [sql] emission.sqlBytes
  return { emission with
    sqlBytes := used
    entries := emission.entries ++ [Entry.ofStatement sql params transactional] }

/-- What waits for another table is emitted first. -/
def Emission.flushOther (emission : Emission) (name : Text) : Except MigrationError Emission :=
  match emission.pending with
  | some pending => if pending.before.name ≠ name then emission.flush grammar else .ok emission
  | none => .ok emission

/-- `_Emission.contract`. -/
def Emission.contract (emission : Emission) (before after : TableState) (change : ColumnChange) :
    Except MigrationError Emission := do
  let emission ← emission.flushOther grammar before.name
  let pending := emission.pending.getD (.between before after)
  if pending.opposes change then
    throw (.package "opposing nullability transitions require a checkpoint" [])
  return { emission with pending := some (pending.extend after change) }

/-! ## The route -/

/-- The tables, the emission and the checkpoints passed so far. -/
structure Compilation where
  tables : Tables
  emission : Emission
  checkpoints : List (Text × String)
deriving DecidableEq, Repr

/-- `_validate_data_change`. -/
def validateDataChange (change : DataChange) (draft : Draft) (state : Compilation) :
    Except MigrationError Unit :=
  if Dictionary.get state.checkpoints change.checkpoint != some change.contractDigest ||
      stateDigest grammar draft.target.backend state.tables != change.contractDigest ||
      change.backend != draft.target.backend ||
      !startsWith change.sql "UPDATE " ||
      reserved.any (containsText (grammar.unicode.casefold change.sql)) then
    .error (.package "data change has a stale or mismatched intermediate contract" [])
  else .ok ()

/-- The contraction for an added or removed check. -/
def checkContraction (before after : TableState) : AuxiliaryChange → Contraction
  | .addCheck definition => { Contraction.between before after with addedChecks := [definition] }
  | .dropCheck name => { Contraction.between before after with removedChecks := [name] }
  | _ => Contraction.between before after

/-- `DROP INDEX`, with the table where the backend wants it. -/
def dropIndexSql (backend : Backend) (table : TableState) (name : Text) : Text :=
  "DROP INDEX ".toList ++ quotedName name ++
    match backend with
    | .mariadb => " ON ".toList ++ table.quotedName
    | .sqlite => []

/-- The part of `_emit_table` for indexes and checks. -/
def emitAuxiliary (state : Compilation) (name : Text) (change : AuxiliaryChange) :
    Except MigrationError Compilation :=
  match change with
  | .addCheck _ | .dropCheck _ => do
      let emission ← state.emission.flush grammar
      let table ← managedTable state.tables name
      let after ← auxiliaryChange grammar table change emission.backend
      let emission ← { emission with pending := some (checkContraction table after change) }.flush
        grammar
      return { state with tables := Dictionary.set state.tables name after, emission }
  | .dropIndex index => do
      let table ← managedTable state.tables name
      let after ← dropIndex grammar table index state.emission.backend
      let emission ← state.emission.emit grammar (dropIndexSql state.emission.backend table index)
        [] false
      return { state with tables := Dictionary.set state.tables name after, emission }
  | .createIndex sql => do
      let table ← managedTable state.tables name
      let after ← addIndex grammar table sql state.emission.backend
      let emission ← state.emission.emit grammar sql [] false
      return { state with tables := Dictionary.set state.tables name after, emission }

/-- The part of `_emit_table` for a new table. -/
def emitCreation (state : Compilation) (table : TableState) :
    Except MigrationError Compilation := do
  if state.emission.relinquished.contains table.name then
    throw (.package
      "table % remains physically present after relinquishment; explicit adoption is required"
      [table.name])
  if (Dictionary.get state.tables table.name).isSome then
    throw (.package "table % already exists in managed state" [table.name])
  let emission ← (table.sql :: table.indexes).foldlM
    (fun emission sql => emission.emit grammar sql [] false) state.emission
  return { state with tables := Dictionary.set state.tables table.name table, emission }

/-- `_emit_adoption`. -/
def emitAdoption (state : Compilation) (table : TableState) :
    Except MigrationError Compilation := do
  if state.emission.backend != .sqlite then
    throw (.package "table adoption currently supports SQLite only" [])
  if (Dictionary.get state.tables table.name).isSome ||
      state.emission.relinquished.contains table.name then
    throw (.package
      "adoption requires a table not already managed or relinquished in this route" [])
  let emission ← state.emission.flush grammar
  return { state with tables := Dictionary.set state.tables table.name table, emission }

/-- `ALTER TABLE … ADD COLUMN`. -/
def addColumnSql (table : TableState) (column : ColumnState) : Text :=
  "ALTER TABLE ".toList ++ table.quotedName ++ " ADD COLUMN ".toList ++ column.definition

/-- One operation of the route in `compile_v1`. -/
def compileOperation (draft : Draft) (state : Compilation) :
    Operation → Except MigrationError Compilation
  | .relinquishTable name => do
      let emission ← state.emission.flush grammar
      let tables ← relinquish state.tables name
      return { state with
        tables
        emission := { emission with relinquished := name :: emission.relinquished } }
  | .contract name change => do
      let before ← managedTable state.tables name
      let after ← contractTable grammar before change draft.target.backend
      let emission ← state.emission.contract grammar before after change
      return { state with tables := Dictionary.set state.tables name after, emission }
  | .checkpoint name => do
      let emission ← state.emission.flush grammar
      if name.isEmpty || (Dictionary.get state.checkpoints name).isSome then
        throw (.package "checkpoint names must be nonempty and unique" [])
      return { state with
        emission
        checkpoints := Dictionary.set state.checkpoints name
          (stateDigest grammar draft.target.backend state.tables) }
  | .dataChange change => do
      validateDataChange grammar change draft state
      let emission ← state.emission.emit grammar change.sql change.params true
      return { state with emission }
  | .addColumn name column =>
    match Dictionary.get state.tables name with
    | none => .error (.package "cannot add column to an unmanaged table" [])
    | some current => do
        let after ← addColumn grammar current column
        let emission ← state.emission.emit grammar (addColumnSql current column) [] false
        return { state with tables := Dictionary.set state.tables name after, emission }
  | .auxiliary name change => emitAuxiliary grammar state name change
  | .createTable table => emitCreation grammar state table
  | .adoptTable table => emitAdoption grammar state table

/-- The package format that the operations need. -/
def packageVersion (operations : List Operation) : Nat :=
  let has (recognized : Operation → Bool) : Bool := operations.any recognized
  if has (fun | .auxiliary _ (.dropCheck _) => true | _ => false) then 8
  else if has (fun | .auxiliary _ (.addCheck _) => true | _ => false) then 7
  else if has (fun | .auxiliary _ (.dropIndex _) => true | _ => false) then 6
  else if has (fun | .auxiliary _ (.createIndex _) => true | _ => false) then 5
  else if has (fun | .contract _ (.allowNull _) => true | _ => false) then 4
  else if has (fun | .contract _ (.changeDefault _) => true | _ => false) then 3
  else 2

/-- `Package`, without its digest. -/
structure Package where
  version : Nat
  draft : Draft
  entries : List Entry
deriving DecidableEq, Repr

/-- Before the first operation, with the SQL already counted. -/
def Compilation.initial (draft : Draft) (sqlBytes : Nat) : Compilation where
  tables := draft.before.byName
  emission :=
    { backend := draft.target.backend, sqlBytes, entries := [], pending := none,
      relinquished := [] }
  checkpoints := []

/-- The route of a draft: the state in which every operation has been compiled. -/
def compileRoute (draft : Draft) : Except MigrationError Compilation := do
  let sqlBytes ← checkSqlBudget (draftSql draft) 0
  validateDraft grammar draft
  draft.operations.foldlM (compileOperation grammar draft) (Compilation.initial draft sqlBytes)

/-- `compile_v1`. -/
def compileV1 (draft : Draft) : Except MigrationError Package := do
  let state ← compileRoute grammar draft
  if !Dictionary.same state.tables draft.target.byName then
    throw (.package "operation endpoint does not match the recorded target state" [])
  let emission ← state.emission.flush grammar
  return {
    version := packageVersion draft.operations
    draft
    entries := emission.entries }

end Snekql.Recorded
