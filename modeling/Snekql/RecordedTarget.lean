import Snekql.RecordedCompile
import Snekql.Sessions

/-!
# Targets of recorded migrations

A target prepares packages against an observed catalog and applies prepared plans, on either
backend. Its methods are routines of driver calls; `_query` with its cursor is one call. The
application's part of the database is the log of statements executed on it, so whatever the
statements mean, the catalog and the answers to queries are what this log makes of them. The
origin of a statement is a record of what happened, which no code reads.

The engine's answers are parameters, and so are the lowering of packages to steps, the comparison
of declarations with a catalog, and the digests. The reader of frozen packages compares a package
with the compilation of its own draft. Data changes cannot mention the history table, which the
compiler refuses.
-/

namespace Snekql.RecordedTarget

open Snekql.Splicing (Text joinWith)
open Snekql.Recorded
open Snekql.Programs
open Snekql.Sessions (Call Reply)

/-- An object of the catalog: its type, name, owning table and SQL. -/
structure CatalogRow where
  kind : Text
  name : Text
  owner : Text
  sql : Option Text
deriving DecidableEq, Repr

abbrev Catalog := List CatalogRow

structure ExecutionStep where
  statements : List Text
  bindings : List (List Parameter)
  transactional : Bool
  required : List (Text × Text)
  rebuild : Bool
  sequenceTable : Option Text
  copyTables : Option (Text × Text)
  copyAt : Option Nat
  copyColumns : List Text
  droppedColumns : List Text
  validateTriggers : Bool
deriving DecidableEq, Repr

structure Prepared where
  executionEpoch : Nat
  package : Package
  targetId : String
  catalogDigest : String
  steps : List ExecutionStep
  preserveUnmanaged : Bool
deriving DecidableEq, Repr

/-- A catalog as it was rendered, with the rendering profile. -/
structure Observation where
  catalog : Catalog
  profile : List Text
deriving DecidableEq, Repr

structure Reconciliation where
  step : Nat
  reason : Text
  beforeDigest : String
  afterDigest : String
  beforeCatalog : Catalog
  afterCatalog : Catalog
  renderingProfile : List Text
deriving DecidableEq, Repr

inductive Phase where
  | started
  | complete
deriving DecidableEq, Repr

/-- A row of the history table. -/
structure Row where
  digest : String
  revision : Text
  predecessor : Option String
  phase : Phase
  catalog : String
  acknowledged : Nat
  total : Nat
  state : String
  plan : String
  observation : Observation
  reconciliations : List Reconciliation
deriving DecidableEq, Repr

/-- The history table; `unsupported` stands for every other layout. -/
inductive History where
  | absent
  | unsupported
  | current (rows : List Row)
deriving DecidableEq, Repr

/-- What a statement was executed for: a step of a package, or the sequence of a rebuilt table. -/
inductive Origin where
  | planned (digest : String) (step : Nat)
  | sequence
deriving DecidableEq, Repr

structure Statement where
  origin : Origin
  sql : Text
  params : List Parameter
deriving DecidableEq, Repr

structure Database where
  history : History
  log : List Statement
deriving DecidableEq, Repr

def Database.rows (database : Database) : List Row :=
  match database.history with
  | .current rows => rows
  | _ => []

inductive Failure where
  | package (error : MigrationError)
  /-- An error of the driver, or what the code makes of it. -/
  | driver
  | operationTimeout
deriving DecidableEq, Repr

/-- What a method raises. -/
inductive Stop where
  | cancelled
  | failed (failure : Failure)
deriving DecidableEq, Repr

abbrev Action (α : Type) := Routine (Call Database) (Reply Database) Stop α

/-- The database engine behind a connection, and the code that reads its renderings. -/
structure Engine where
  grammar : Grammar
  backend : Backend
  targetId : String
  /-- The rows that answer a query. -/
  ask : List Statement → Text → List Parameter → List (List Parameter)
  /-- The rows of the catalog without the history table, rendered for comparison. -/
  observe : List Statement → Except MigrationError Catalog
  /-- `VERSION(),@@SESSION.sql_mode,@@SESSION.sql_quote_show_create`. -/
  profile : List Statement → List Text
  /-- The order in which an unordered query returns the rows of the history. -/
  scan : List Row → List Row
  scan_perm : ∀ rows, (scan rows).Perm rows
  catalogDigest : Catalog → String
  planDigest : Prepared → String
  packageDigest : Package → String
  packageDigest_nonempty : ∀ package, packageDigest package ≠ ""
  /-- `prepare_steps`, for the one execution epoch. -/
  prepareSteps : Package → Catalog → Except MigrationError (List ExecutionStep)
  validateManaged : State → Catalog → Except MigrationError Unit
  validateAdopted : Package → Catalog → Except MigrationError Unit
  validateCompleted : Package → Catalog → Except MigrationError Unit
  mariadbDeclarationObstacle : State → Option Text
  /-- `_mariadb_presence_obstacle`. -/
  mariadbPresenceObstacle : Package → List Statement → Catalog → Option Text

variable (engine : Engine)

def Engine.sqlite : Bool := engine.backend == .sqlite

/-! ## Calls -/

/-- `_io`. -/
def io (request : Call Database) : Action Database :=
  .call request fun
    | .returned database => .ret database
    | .raised => .raise (.failed .driver)
    | .timedOut => .raise (.failed .operationTimeout)
    | .cancelled => .raise .cancelled

def refuse {α : Type} (message : String) (about : List Text) : Action α :=
  .raise (.failed (.package (.package message about)))

/-- Raise a `PackageError` unless the condition holds. -/
def demand (condition : Bool) (message : String) (about : List Text) : Action Unit :=
  if condition then .ret () else refuse message about

def onlyIf (condition : Bool) (action : Action Unit) : Action Unit :=
  if condition then action else .ret ()

/-- `_io`, for a call whose result is not used. -/
def perform (request : Call Database) : Action Unit := do
  let _ ← io request
  return ()

def lift {α : Type} (outcome : Except MigrationError α) : Action α :=
  .ofExcept (outcome.mapError (fun error => .failed (.package error)))

/-- `not self._closed`. -/
def isOpen : Action Bool :=
  .call .alive fun
    | .returned _ => .ret true
    | _ => .ret false

/-- `_require_open`. -/
def requireOpen : Action Unit := do
  demand (← isOpen) "migration target is closed" []

/-- `_discard`. -/
def discard : Action Unit := .call .discard fun _ => .ret ()

/-- `_query`, for a query that reads. -/
def query (sql : Text) (params : List Parameter) : Action (List (List Parameter)) := do
  let database ← io .read
  return engine.ask database.log sql params

/-- `_query`, for a statement of the application's part of the database. -/
def execute (schema : Bool) (statement : Statement) : Action Unit :=
  perform (.write schema fun database =>
    some { database with log := database.log ++ [statement] })

/-- `_query`, for a statement of the history table. -/
def record (schema : Bool) (change : History → Option History) : Action Unit :=
  perform (.write schema fun database =>
    (change database.history).map ({ database with history := · }))

/-- `_catalog`. -/
def catalog : Action Catalog := do
  let database ← io .read
  lift (engine.observe database.log)

/-- `_rendering_profile`. -/
def renderingProfile : Action (List Text) :=
  match engine.backend with
  | .sqlite => .ret []
  | .mariadb => do
      let database ← io .read
      return engine.profile database.log

/-- `_record_observation`. -/
def recordObservation (catalog : Catalog) : Action Observation := do
  return { catalog, profile := ← renderingProfile engine }

/-! ## The history table -/

/-- `_history`. -/
def history : Action (List Row) := do
  let database ← io .read
  match database.history with
  | .absent => return []
  | _ =>
    let database ← io .read
    match database.history with
    | .unsupported =>
      refuse "unsupported experimental ledger layout; no automatic conversion is available" []
    | _ =>
      let database ← io .read
      return engine.scan database.rows

/-- The loop of `_check_history`: whether the revision was applied. -/
def appliedRevision (package : Package) : Bool → List Row → Except MigrationError Bool
  | applied, [] => .ok applied
  | applied, row :: rest =>
    if row.phase ≠ .complete then
      .error (.package "uncertain progress for revision %; inspect before recovery"
        [row.revision])
    else if row.revision = package.draft.revision then
      if row.digest ≠ engine.packageDigest package then
        .error (.package "applied revision execution identity changed" [])
      else appliedRevision package true rest
    else appliedRevision package applied rest

/-- The rows that no row has as its predecessor. -/
def heads (rows : List Row) : List Row :=
  rows.filter (fun row => !(rows.map Row.predecessor).contains (some row.digest))

/-- `[predecessor] if predecessor else []`. -/
def expectedHeads (package : Package) : List String :=
  package.draft.predecessor.toList.filter (· ≠ "")

/-- `_check_history`. -/
def checkHistory (package : Package) (rows : List Row) : Except MigrationError Bool := do
  if ← appliedRevision engine package false rows then
    return true
  else if (heads rows).map Row.digest ≠ expectedHeads package then
    throw (.package "package predecessor does not match target history head" [])
  else
    let mismatch : MigrationError :=
      .package "before state does not match the recorded predecessor contract" []
    match rows.find? (fun row => some row.digest == package.draft.predecessor) with
    | none => if package.draft.before.tables.isEmpty then return false else throw mismatch
    | some prior =>
      if prior.state = engine.grammar.digest package.draft.before then return false
      else throw mismatch

/-- `_check_catalog_history`. -/
def checkCatalogHistory (rows : List Row) (catalog : String) : Except MigrationError Unit :=
  match heads rows with
  | head :: _ =>
    if head.catalog ≠ catalog then
      .error (.package
        "catalog differs from the last accepted execution; adoption/reconciliation required" [])
    else .ok ()
  | [] => .ok ()

/-- `CREATE TABLE IF NOT EXISTS`. -/
def createHistory : History → Option History
  | .absent => some (.current [])
  | other => some other

/-- The insertion of a row, which the primary key may refuse. -/
def insertRow (row : Row) : History → Option History
  | .current rows =>
    if (rows.map Row.digest).contains row.digest then none else some (.current (rows ++ [row]))
  | _ => none

/-- An update of the rows with one digest. -/
def updateRows (digest : String) (change : Row → Row) : History → Option History
  | .current rows =>
    some (.current (rows.map (fun row => if row.digest = digest then change row else row)))
  | _ => none

/-! ## Preconditions in the environment -/

/-- The answer is one row with one value. -/
def isScalar (rows : List (List Parameter)) (value : Parameter) : Bool := rows == [[value]]

def firstCell (rows : List (List Parameter)) : Except MigrationError Parameter :=
  match rows with
  | (value :: _) :: _ => .ok value
  | _ => .error .index

/-- Rows of a name and a value. -/
def named : List (List Parameter) → Except MigrationError (List (Text × Parameter))
  | [] => .ok []
  | [.text name, value] :: rest => do return (name, value) :: (← named rest)
  | _ => .error (.value "cannot unpack")

def Package.has (package : Package) (recognized : Operation → Bool) : Bool :=
  package.draft.operations.any recognized

/-- `_check_addition_environment`. -/
def checkAdditionEnvironment (package : Package) : Action Unit :=
  if !Package.has package (fun | .auxiliary _ (.addCheck _) => true | _ => false) then .ret ()
  else do
    let sql := if engine.sqlite then "PRAGMA ignore_check_constraints"
      else "SELECT @@SESSION.check_constraint_checks"
    let rows ← query engine sql.toList []
    demand (isScalar rows (.integer (if engine.sqlite then 0 else 1)))
      "CHECK addition requires enabled engine constraint checking; no implicit session policy change"
      []

/-- One name in `_check_removal_authority`. -/
def checkRemoval (change : Contraction) (step : Option Nat) (name : Text) : Action Unit := do
  let rows ← query engine
    "SELECT CONSTRAINT_TYPE FROM information_schema.TABLE_CONSTRAINTS WHERE TABLE_SCHEMA=DATABASE() AND TABLE_NAME=%s AND CONSTRAINT_NAME=%s".toList
    [.text change.before.name, .text name]
  demand (rows.isEmpty && step.isNone || isScalar rows (.text "CHECK".toList))
    "CHECK removal requires an unambiguous native CHECK name; an implicit FK/other constraint or unavailable metadata requires an explicit adapter"
    []

/-- `_check_removal_authority`. -/
def checkRemovalAuthority (package : Package) (step : Option Nat) : Action Unit :=
  match engine.backend with
  | .sqlite => .ret ()
  | .mariadb =>
    let entries := match step with
      | none => package.entries
      | some index => (package.entries.drop index).take 1
    Routine.each (fun change => Routine.each (checkRemoval engine change step) change.removedChecks)
      (entries.filterMap Entry.contraction)

/-- `_index_removal_environment`. -/
def indexRemovalEnvironment (package : Package) : Action Unit :=
  if engine.sqlite || !Package.has package (fun | .auxiliary _ (.dropIndex _) => true | _ => false)
  then .ret ()
  else do
    let checks ← query engine "SELECT @@SESSION.foreign_key_checks".toList []
    let triggers ← query engine "SHOW TRIGGERS".toList []
    let routines ← query engine
      "SELECT ROUTINE_NAME FROM information_schema.ROUTINES WHERE ROUTINE_SCHEMA=DATABASE()".toList
      []
    let opaqueTriggers := triggers.any (fun row =>
      row[2]? != some (.text "snekql_experimental_migrations".toList))
    demand (isScalar checks (.integer 1) && !opaqueTriggers && routines.isEmpty)
      "index removal requires foreign_key_checks=1 and no opaque application triggers/routines; explicit adapter required"
      []

/-- `_transactional_obstacles`. -/
def transactionalObstacles : Action Bool := do
  let unsafeTables ← query engine
    "SELECT TABLE_NAME FROM information_schema.TABLES WHERE TABLE_SCHEMA=DATABASE() AND TABLE_TYPE='BASE TABLE' AND ENGINE <> 'InnoDB'".toList
    []
  let triggers ← query engine "SHOW TRIGGERS".toList []
  let routines ← query engine
    "SELECT ROUTINE_NAME FROM information_schema.ROUTINES WHERE ROUTINE_SCHEMA=DATABASE()".toList []
  return !(unsafeTables.isEmpty && triggers.isEmpty && routines.isEmpty)

/-! ## Steps -/

/-- `_INNODB_STRICT_MODE_SETTING.matches`. -/
def isStrictMode : Parameter → Bool
  | .text mode =>
    (mode.splitOn ',').any (fun flag =>
      flag == "STRICT_ALL_TABLES".toList || flag == "STRICT_TRANS_TABLES".toList)
  | _ => false

/-- `_check_required`. -/
def checkRequired (step : ExecutionStep) : Action Unit := do
  Routine.each (fun (table, column) => do
    let rows ← query engine ("SELECT 1 FROM ".toList ++ quotedName table ++ " WHERE ".toList ++
      quotedName column ++ " IS NULL LIMIT 1".toList) []
    demand rows.isEmpty "%.%: NULL rows remain; backfill before requiring the column"
      [table, column]) step.required
  onlyIf (!step.required.isEmpty && !engine.sqlite) do
    let rows ← query engine "SELECT @@SESSION.sql_mode".toList []
    let mode ← lift (firstCell rows)
    demand (isStrictMode mode) "required-column alteration needs strict MariaDB SQL mode" []

/-- The columns agree with those the step copies and drops. -/
def isCopyContract (step : ExecutionStep) (columns : List (Text × Parameter)) : Bool :=
  let ordinary := (columns.filter (fun column => column.2 == .integer 0)).map Prod.fst
  let retained := ordinary.filter (fun name => !step.droppedColumns.contains name)
  !columns.isEmpty &&
    columns.all (fun column => [.integer 0, .integer 2, .integer 3].contains column.2) &&
    step.droppedColumns.all (fun name => (columns.map Prod.fst).contains name) &&
    decide step.copyColumns.Nodup &&
    step.copyColumns.all (fun name => retained.contains name) &&
    retained.all (fun name => step.copyColumns.contains name)

/-- `_validate_copy_contract`. -/
def validateCopyContract (step : ExecutionStep) : Action Unit :=
  match step.copyTables with
  | none => .ret ()
  | some (source, _) => do
      let rows ← query engine "SELECT name, hidden FROM pragma_table_xinfo(?)".toList
        [.text source]
      let columns ← lift (named rows)
      demand (isCopyContract step columns)
        "SQLite rebuild copy contract differs from engine column metadata; reprepare or use an explicit adapter"
        []

/-- The columns that identify a row. -/
def rowIdentity (columns : List (Text × Parameter)) (retained : List Text)
    (storage : List (List Parameter)) : Except MigrationError (List Text) :=
  if isScalar storage (.integer 0) then
    let folded := columns.map (fun column => asciiLower column.1)
    match ["_rowid_".toList, "rowid".toList, "oid".toList].find?
        (fun name => !folded.contains name) with
    | some rowid => .ok [rowid]
    | none => .error (.package
        "rebuild copied values cannot be checked without accessible row identity" [])
  else if isScalar storage (.integer 1) then
    let identity := (columns.filter (fun column =>
      column.2 != .integer 0 && column.2 != .null)).map Prod.fst
    if identity.isEmpty || !identity.all (fun name => retained.contains name) then
      .error (.package "rebuild copied values require a retained SQLite primary key" [])
    else .ok identity
  else .error (.package "rebuild copied values require known SQLite table storage" [])

/-- Each column with its type, compared byte by byte. -/
def typedProjection (names : List Text) : Text :=
  joinWith ", ".toList (names.map (fun name =>
    "typeof(".toList ++ quotedName name ++ "), ".toList ++ quotedName name ++
      " COLLATE BINARY".toList))

/-- `_validate_copied_values`. -/
def validateCopiedValues (tables : Text × Text) (droppedColumns : List Text) : Action Unit := do
  let rows ← query engine "SELECT name, pk FROM pragma_table_xinfo(?)".toList [.text tables.1]
  let columns ← lift (named rows)
  let retained := (columns.map Prod.fst).filter (fun name => !droppedColumns.contains name)
  let storage ← query engine
    "SELECT wr FROM pragma_table_list WHERE schema='main' AND name=?".toList [.text tables.1]
  let identity ← lift (rowIdentity columns retained storage)
  let retained := retained.filter (fun name => !identity.contains name)
  let batches := if retained.isEmpty then [[]] else retained.toChunks 64
  Routine.each (fun batch => do
    let projection := typedProjection (identity ++ batch)
    let mismatch ← query engine ("SELECT 1 FROM (SELECT ".toList ++ projection ++
      " FROM ".toList ++ quotedName tables.1 ++ " EXCEPT SELECT ".toList ++ projection ++
      " FROM ".toList ++ quotedName tables.2 ++ ") LIMIT 1".toList) []
    demand mismatch.isEmpty "rebuild did not preserve copied values; completion not recorded" [])
    batches

/-- A column that is set to itself. -/
def selfAssignment (row : List Parameter) : Option Text :=
  match row[1]? with
  | some (Parameter.text name) => some (quotedName name ++ "=".toList ++ quotedName name)
  | _ => none

/-- The statement that makes SQLite compile a trigger. -/
def triggerProbe (table : Text) (event : Option Text) : Action Text :=
  if event = some "insert".toList then
    return "EXPLAIN INSERT INTO ".toList ++ table ++ " DEFAULT VALUES".toList
  else if event = some "delete".toList then
    return "EXPLAIN DELETE FROM ".toList ++ table ++ " WHERE 0".toList
  else if event = some "update".toList then do
    let columns ← query engine ("PRAGMA table_xinfo(".toList ++ table ++ ")".toList) []
    let assignments := (columns.filter (fun row => row[6]? == some (.integer 0))).filterMap
      selfAssignment
    return "EXPLAIN UPDATE ".toList ++ table ++ " SET ".toList ++
      joinWith ", ".toList assignments ++ " WHERE 0".toList
  else refuse "unsupported trigger declaration during rebuild validation" []

/-- One trigger in `_validate_triggers`. -/
def validateTrigger (owner : Text) (definition : Parameter) : Action Unit := do
  let sql ← lift (match definition with
    | .text sql => .ok sql
    | _ => .error (.value "expected string"))
  let stream ← lift (tokens engine.grammar.unicode sql false)
  let words := (stream.drop 3).filterMap (fun token =>
    if token.kind == .word then some (engine.grammar.unicode.casefold token.value) else none)
  let event := words.find? (fun word =>
    ["insert".toList, "update".toList, "delete".toList].contains word)
  let statement ← triggerProbe engine (quotedName owner) event
  let _ ← query engine statement []
  return ()

/-- `_validate_triggers`. -/
def validateTriggers : Action Unit := do
  let rows ← query engine "SELECT tbl_name,sql FROM sqlite_schema WHERE type='trigger'".toList []
  let triggers ← lift (named rows)
  Routine.each (fun trigger => validateTrigger engine trigger.1 trigger.2) triggers

/-- The comparison after the copying statement of a rebuild. -/
def checkCopy (step : ExecutionStep) (count : Option Parameter) (position : Nat) : Action Unit :=
  match step.copyTables with
  | none => .ret ()
  | some tables =>
    if step.copyAt ≠ some position then .ret ()
    else do
      let rows ← query engine ("SELECT COUNT(*) FROM ".toList ++ quotedName tables.2) []
      let copied ← lift (firstCell rows)
      demand (some copied == count) "rebuild did not preserve row count" []
      validateCopiedValues engine tables step.droppedColumns

/-- The loop over the statements of a step. -/
def executeStatements (step : ExecutionStep) (origin : Origin) (count : Option Parameter) :
    Nat → List (Text × List Parameter) → Action Unit
  | _, [] => .ret ()
  | position, (sql, params) :: rest => do
      execute (!step.transactional) { origin, sql, params }
      checkCopy engine step count position
      executeStatements step origin count (position + 1) rest

/-- The recorded sequence of the table, which is not empty if there is one. -/
def readSequence (table : Option Text) : Action (List (List Parameter)) :=
  match table with
  | some (first :: rest) =>
    query engine "SELECT seq FROM sqlite_sequence WHERE name=?".toList [.text (first :: rest)]
  | _ => .ret []

/-- The higher of two sequence values. -/
def highwater : Parameter → Option Parameter → Parameter
  | .integer recorded, some (.integer current) => .integer (max recorded current)
  | .integer recorded, _ => .integer (max recorded 0)
  | recorded, _ => recorded

/-- The end of `_execute_step`, for a table with a sequence. -/
def restoreSequence (table : Option Text) (sequence : List (List Parameter)) : Action Unit :=
  match sequence with
  | [] => .ret ()
  | _ => do
      let name := Parameter.text (table.getD [])
      let current ← readSequence engine table
      let recorded ← lift (firstCell sequence)
      let value := highwater recorded (firstCell current).toOption
      execute false
        { origin := .sequence, sql := "DELETE FROM sqlite_sequence WHERE name=?".toList,
          params := [name] }
      execute false
        { origin := .sequence, sql := "INSERT INTO sqlite_sequence(name,seq) VALUES(?,?)".toList,
          params := [name, value] }

/-- The number of rows that a rebuild must copy. -/
def countRows (step : ExecutionStep) : Action (Option Parameter) :=
  match step.copyTables with
  | none => .ret none
  | some (source, _) => do
      let rows ← query engine ("SELECT COUNT(*) FROM ".toList ++ quotedName source) []
      return some (← lift (firstCell rows))

/-- `_execute_step`. The strict `zip` of statements and bindings raises at the end of the shorter
list. -/
def executeStep (origin : Origin) (step : ExecutionStep) : Action Unit := do
  checkRequired engine step
  validateCopyContract engine step
  let sequence ← readSequence engine step.sequenceTable
  demand (sequence.length ≤ 1) "ambiguous SQLite sequence metadata" []
  let count ← countRows engine step
  executeStatements engine step origin count 0 (step.statements.zip step.bindings)
  lift (if step.statements.length = step.bindings.length then .ok ()
    else .error (.value "zip() arguments differ in length"))
  onlyIf step.validateTriggers (validateTriggers engine)
  restoreSequence engine step.sequenceTable sequence

/-! ## Packages -/

/-- `_start_package`. -/
def startPackage (prepared : Prepared) : Action Unit := do
  let package := prepared.package
  record true createHistory
  let observation ← catalog engine
  let recorded ← recordObservation engine observation
  record false (insertRow {
    digest := engine.packageDigest package
    revision := package.draft.revision
    predecessor := package.draft.predecessor
    phase := .started
    catalog := engine.catalogDigest observation
    acknowledged := 0
    total := package.entries.length
    state := engine.grammar.digest package.draft.target
    plan := engine.planDigest prepared
    observation := recorded
    reconciliations := [] })

/-- A data change on MariaDB has a transaction of its own. -/
def Engine.ownTransaction (step : ExecutionStep) : Bool := step.transactional && !engine.sqlite

/-- The start of the transaction of a data change. -/
def beginStep (step : ExecutionStep) : Action Unit :=
  onlyIf (engine.ownTransaction step) do
    demand (!(← transactionalObstacles engine))
      "transactional data changes require InnoDB tables without triggers or stored routines" []
    perform .begin

/-- One round of the loop of `_execute_package`; `index` counts from one. -/
def executePlanned (prepared : Prepared) (index : Nat) (step : ExecutionStep) : Action Unit := do
  let digest := engine.packageDigest prepared.package
  checkAdditionEnvironment engine prepared.package
  checkRemovalAuthority engine prepared.package (some (index - 1))
  beginStep engine step
  executeStep engine (.planned digest (index - 1)) step
  let observation ← catalog engine
  let recorded ← recordObservation engine observation
  record false (updateRows digest (fun row => { row with
    acknowledged := index
    catalog := engine.catalogDigest observation
    observation := recorded }))
  onlyIf (engine.ownTransaction step) (perform .commit)

/-- The loop of `_execute_package`. -/
def executeSteps (prepared : Prepared) : Nat → List ExecutionStep → Action Unit
  | _, [] => .ret ()
  | index, step :: rest => do
      executePlanned engine prepared index step
      executeSteps prepared (index + 1) rest

/-- `PRAGMA foreign_key_check`, after a rebuild. -/
def checkForeignKeys (prepared : Prepared) : Action Unit :=
  onlyIf (engine.sqlite && prepared.steps.any ExecutionStep.rebuild) do
    let rows ← query engine "PRAGMA foreign_key_check".toList []
    demand rows.isEmpty "rebuild failed foreign-key validation; completion not recorded" []

/-- The check of the endpoint. -/
def checkCompleted (package : Package) (completed : Catalog) : Action Unit :=
  match engine.backend with
  | .sqlite => lift (engine.validateCompleted package completed)
  | .mariadb => do
      indexRemovalEnvironment engine package
      let database ← io .read
      match engine.mariadbPresenceObstacle package database.log completed with
      | some obstacle => refuse "%" [obstacle]
      | none => return ()

/-- `validate_mariadb_declarations`. -/
def validateMariadbDeclarations (state : State) : Except MigrationError Unit :=
  match state.backend, engine.mariadbDeclarationObstacle state with
  | .mariadb, some obstacle => .error (.package "%" [obstacle])
  | _, _ => .ok ()

/-- `_execute_package`. -/
def executePackage (prepared : Prepared) (start : Option Nat) : Action Unit := do
  let package := prepared.package
  lift (validateMariadbDeclarations engine package.draft.target)
  let first := start.getD 0
  Routine.each (checkRequired engine) (prepared.steps[first]?).toList
  onlyIf start.isNone (startPackage engine prepared)
  executeSteps engine prepared (first + 1) (prepared.steps.drop first)
  checkForeignKeys engine prepared
  checkAdditionEnvironment engine package
  let completed ← catalog engine
  checkCompleted engine package completed
  record false (updateRows (engine.packageDigest package) (fun row => { row with
    phase := .complete
    catalog := engine.catalogDigest completed }))
  perform .commit

/-! ## Coordination -/

/-- `_restore_policy`. -/
def restorePolicy (rebuild acquired : Bool) : Action Unit := do
  onlyIf rebuild (perform (.enforce true))
  onlyIf (!engine.sqlite && acquired) (perform .unlock)

/-- The `except` of `_coordinated`. -/
def unwind (stop : Stop) : Action Unit := do
  onlyIf (stop = .cancelled) discard
  onlyIf (← isOpen) (Routine.handle (fun _ => discard) (perform .rollback))

/-- The `finally` of `_coordinated`. -/
def leave (rebuild acquired failed : Bool) : Action Unit := do
  onlyIf (← isOpen)
    (Routine.handle (fun stop => do
      discard
      onlyIf (!failed) (.raise stop)) (restorePolicy engine rebuild acquired))

/-- The start of `_coordinated`, which may fail before the lock is acquired. -/
def enter (rebuild : Bool) : Action Unit :=
  Routine.handle (fun stop => do
    unwind stop
    leave engine rebuild false true
    Routine.raise stop) (do
      onlyIf rebuild (perform (.enforce false))
      perform .lock)

/-- `_coordinated`. -/
def coordinated {α : Type} (rebuild : Bool) (body : Action α) : Action α := do
  enter engine rebuild
  Routine.ensuring (leave engine rebuild true)
    (Routine.handle (fun stop => do
      unwind stop
      Routine.raise stop) body)

/-! ## Preparation and application -/

/-- `Package.load(package.dump())`. -/
def loadPackage (package : Package) : Except MigrationError Package := do
  let expected ← compileV1 engine.grammar package.draft
  if package ≠ expected then
    throw (.package
      "execution package integrity or state consistency mismatch; not canonical execution epoch one; no automatic conversion"
      [])
  else return package

/-- `_require_execution_epoch`. -/
def requireExecutionEpoch (epoch : Nat) : Action Unit :=
  demand (epoch = 1)
    "unsupported prepared execution epoch; retain original evidence; no automatic conversion" []

/-- The catalog agrees with the history, or with the managed facts of a preserving plan. -/
def reviewCatalog (package : Package) (preserve : Bool) (rows : List Row) (objects : Catalog) :
    Except MigrationError Unit :=
  if preserve then engine.validateManaged package.draft.before objects
  else checkCatalogHistory rows (engine.catalogDigest objects)

/-- The checks that precede a package that was not applied yet. -/
def admitPackage (package : Package) (objects : Catalog) : Action Unit := do
  indexRemovalEnvironment engine package
  checkAdditionEnvironment engine package
  checkRemovalAuthority engine package none
  lift (engine.validateAdopted package objects)

/-- The names of the tables to create that exist already. -/
def conflicts (package : Package) (objects : Catalog) : List Text :=
  package.draft.operations.filterMap fun
    | .createTable table =>
      if (objects.map CatalogRow.name).contains table.name then some table.name else none
    | _ => none

/-- `prepare`. -/
def prepare (package : Package) (schemaWritersExcluded preserveUnmanaged : Bool) :
    Action Prepared := do
  requireOpen
  let _ ← lift (loadPackage engine package)
  demand (engine.sqlite || schemaWritersExcluded)
    "MariaDB preparation requires caller exclusion of other schema writers" []
  demand (package.draft.target.backend == engine.backend) "package backend differs from target" []
  let objects ← catalog engine
  let rows ← history engine
  let alreadyApplied ← lift (checkHistory engine package rows)
  let preserve := preserveUnmanaged && !alreadyApplied
  demand (!preserve || engine.sqlite) "preservation review currently supports SQLite only" []
  lift (reviewCatalog engine package preserve rows objects)
  let plan (steps : List ExecutionStep) : Prepared :=
    { executionEpoch := 1
      package
      targetId := engine.targetId
      catalogDigest := engine.catalogDigest objects
      steps
      preserveUnmanaged }
  if alreadyApplied then return plan []
  else
    admitPackage engine package objects
    demand (conflicts package objects).isEmpty "existing objects require explicit adoption: %"
      (conflicts package objects)
    return plan (← lift (engine.prepareSteps package objects))

/-- The checks of `apply` on a plan that was not applied yet. -/
def admitPlan (prepared : Prepared) (objects : Catalog) : Action Unit := do
  admitPackage engine prepared.package objects
  demand (prepared.catalogDigest == engine.catalogDigest objects)
    "prepared catalog is stale; prepare and review again" []
  let steps ← lift (engine.prepareSteps prepared.package objects)
  demand (prepared.steps == steps) "prepared execution steps have changed" []

/-- The body of `apply` under coordination: whether the plan was applied now. -/
def applyCoordinated (prepared : Prepared) : Action Bool := do
  let rows ← history engine
  let alreadyApplied ← lift (checkHistory engine prepared.package rows)
  let objects ← catalog engine
  lift (reviewCatalog engine prepared.package (prepared.preserveUnmanaged && !alreadyApplied) rows
    objects)
  if alreadyApplied then
    perform .rollback
    return false
  else
    admitPlan engine prepared objects
    executePackage engine prepared none
    return true

/-- `apply`: whether the plan was applied now, rather than before. -/
def apply (prepared : Prepared) : Action Bool := do
  requireOpen
  requireExecutionEpoch prepared.executionEpoch
  let package ← lift (loadPackage engine prepared.package)
  demand (package.draft.target.backend == engine.backend) "package backend differs from target" []
  demand (prepared.targetId == engine.targetId) "prepared plan belongs to another target" []
  coordinated engine (engine.sqlite && prepared.steps.any ExecutionStep.rebuild)
    (applyCoordinated engine prepared)

end Snekql.RecordedTarget
