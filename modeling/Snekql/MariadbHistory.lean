import Snekql.Interruptions
import Snekql.MigrationHistory

/-!
# Migration history on MariaDB

The adoption of a legacy history and the application of pending migrations, as programs that
may be interrupted before any statement. The server keeps the committed history table and the
view of the migrating connection. Schema statements commit on their own. An interruption, an
error that reaches the runner and a lost connection all end in a rollback. The advisory lock,
which keeps other runners away, does not touch the table and is left out.
-/

namespace Snekql.MariadbHistory

open Snekql.Migrations
open Snekql.Interruption

/-- A row of the first history format. -/
structure LegacyRow where
  name : String
  appliedAt : String
deriving DecidableEq, Repr

/-- A row between the formats: the new columns may be NULL. -/
structure StagingRow where
  name : String
  appliedAt : String
  position : Option Nat
  checksum : Option String
deriving DecidableEq, Repr

structure HistoryRow where
  position : Nat
  name : String
  checksum : String
  appliedAt : String
deriving DecidableEq, Repr

/-- The history table. `other` stands for every schema that is not recognised. -/
inductive Table where
  | absent
  | v1 (rows : List LegacyRow)
  | staging (rows : List StagingRow)
  | v2 (rows : List HistoryRow)
  | other
deriving DecidableEq, Repr

/-- `_HistoryShape`. -/
inductive Shape where
  | absent
  | staging
  | unknown
  | v1
  | v2
deriving DecidableEq, Repr

def Table.shape : Table → Shape
  | .absent => .absent
  | .v1 _ => .v1
  | .staging _ => .staging
  | .v2 _ => .v2
  | .other => .unknown

/-- The names that the table records, in any of the three formats. -/
def Table.recorded : Table → List String
  | .v1 rows => rows.map LegacyRow.name
  | .staging rows => rows.map StagingRow.name
  | .v2 rows => rows.map HistoryRow.name
  | _ => []

def StagingRow.legacy (row : StagingRow) : LegacyRow :=
  { name := row.name, appliedAt := row.appliedAt }

def HistoryRow.record (row : HistoryRow) : MigrationRecord :=
  { position := row.position, name := row.name, checksum := row.checksum }

/-- The failures of the runner; `server` is an error of the database itself. -/
inductive Failure where
  | server
  /-- "could not create exact MariaDB Migration History v2" -/
  | cannotCreate
  /-- "Migration History has an unknown MariaDB schema" -/
  | unknownSchema
  /-- "non-empty legacy Migration History requires migrate(..., adopt_legacy=True)" -/
  | requiresConsent
  | declaration (error : HistoryError)
  /-- "legacy staging row … is only partially populated" -/
  | partiallyPopulated (name : String)
  /-- "legacy staging row … differs from the declaration" -/
  | differs (name : String)
  /-- The lookup of a name that validation would have refused. -/
  | missing (name : String)
  /-- "could not finalize exact MariaDB Migration History v2" -/
  | cannotFinalize
  /-- "migration … failed" -/
  | migrationFailed (name : String)
  /-- "migration changed the owned Migration History schema" -/
  | changedSchema
  /-- "could not record migration …" -/
  | cannotRecord (name : String)
deriving DecidableEq, Repr

/-- The committed table, the connection's view of it, and the names of the migrations whose
bodies ran to completion. The last is a record of what happened, which no code reads. -/
structure Server where
  committed : Table
  working : Table
  completed : List String
deriving DecidableEq, Repr

/-- A database with the given table and no open transaction. -/
def Server.at (table : Table) : Server :=
  { committed := table, working := table, completed := [] }

def Server.commit (server : Server) : Server := { server with committed := server.working }

def Server.rollback (server : Server) : Server := { server with working := server.committed }

abbrev Runner (α : Type) := Action Server Failure α

/-! ## Statements -/

/-- Read from the connection's view. -/
def query {α : Type} (read : Table → Except Failure α) : Runner α :=
  step (fun server => (read server.working, server))

/-- A row statement changes the view only. -/
def rowStatement (update : Table → Except Failure Table) : Runner Unit :=
  step (fun server =>
    match update server.working with
    | .ok table => (.ok (), { server with working := table })
    | .error failure => (.error failure, server))

/-- A schema statement commits what came before, and commits itself. -/
def schemaStatement (update : Table → Except Failure Table) : Runner Unit :=
  step (fun server =>
    match update server.working with
    | .ok table => (.ok (), { server with committed := table, working := table })
    | .error failure => (.error failure, server.commit))

def commit : Runner Unit := step (fun server => (.ok (), server.commit))

/-- The CHECK constraints of the final table. -/
def HistoryRow.admitted (row : HistoryRow) : Bool :=
  decide (0 < row.position) && decide (1 ≤ row.name.length ∧ row.name.length ≤ 255) &&
    decide (row.checksum.length = 64) &&
    row.checksum.toList.all (fun char => char.isDigit || "abcdef".toList.contains char)

/-- The constraints of the final table hold of all its rows. -/
def admissible (rows : List HistoryRow) : Bool :=
  rows.all HistoryRow.admitted && decide (rows.map HistoryRow.position).Nodup &&
    decide (rows.map HistoryRow.name).Nodup

/-- `_CREATE_HISTORY_SQL`. -/
def createHistory : Table → Except Failure Table
  | .absent => .ok (.v2 [])
  | _ => .error .server

/-- `_ADD_STAGING_COLUMNS_SQL`. -/
def addStagingColumns : Table → Except Failure Table
  | .v1 rows => .ok (.staging (rows.map (fun row =>
    { name := row.name, appliedAt := row.appliedAt, position := none, checksum := none })))
  | _ => .error .server

/-- The row as `_UPDATE_STAGING_SQL` leaves it. -/
def StagingRow.updated (migration : Migration) (name : String) (row : StagingRow) : StagingRow :=
  if row.name = name ∧ row.position = none ∧ row.checksum = none then
    { row with position := some migration.position, checksum := some migration.checksum }
  else row

/-- `_UPDATE_STAGING_SQL`. -/
def updateStaging (migration : Migration) (name : String) : Table → Except Failure Table
  | .staging rows => .ok (.staging (rows.map (StagingRow.updated migration name)))
  | _ => .error .server

/-- A row without NULLs. -/
def StagingRow.final (row : StagingRow) : Option HistoryRow :=
  match row.position, row.checksum with
  | some position, some checksum =>
    some { position, name := row.name, checksum, appliedAt := row.appliedAt }
  | _, _ => none

/-- `_FINALIZE_STAGING_SQL`. -/
def finalizeStaging : Table → Except Failure Table
  | .staging rows =>
    match rows.mapM StagingRow.final with
    | some final => if admissible final then .ok (.v2 final) else .error .server
    | none => .error .server
  | _ => .error .server

/-- `_INSERT_HISTORY_SQL`. -/
def insertHistory (migration : Migration) (now : String) : Table → Except Failure Table
  | .v2 rows =>
    let row : HistoryRow :=
      { position := migration.position, name := migration.name, checksum := migration.checksum,
        appliedAt := now }
    if admissible (rows ++ [row]) then .ok (.v2 (rows ++ [row])) else .error .server
  | _ => .error .server

/-- The rows in the order of their positions. -/
def historyOf (rows : List HistoryRow) : List MigrationRecord :=
  (rows.map HistoryRow.record).mergeSort
    (fun first second => decide (first.position ≤ second.position))

/-- `_SELECT_HISTORY_SQL`. -/
def selectHistory : Table → Except Failure (List MigrationRecord)
  | .v2 rows => .ok (historyOf rows)
  | _ => .error .server

/-- `_SELECT_LEGACY_SQL`. -/
def selectLegacy : Table → Except Failure (List LegacyRow)
  | .v1 rows => .ok rows
  | _ => .error .server

/-- `_SELECT_STAGING_SQL`. -/
def selectStaging : Table → Except Failure (List StagingRow)
  | .staging rows => .ok rows
  | _ => .error .server

/-- `_fetch_history_shape`. -/
def fetchHistoryShape : Runner Shape := query (fun table => .ok table.shape)

/-- `_fetch_history`. -/
def fetchHistory : Runner (List MigrationRecord) := query selectHistory

/-- A check of the declaration, which reads no table. -/
def checked {α : Type} (outcome : Except HistoryError α) : Runner α :=
  match outcome with
  | .ok value => pure value
  | .error error => fail (.declaration error)

/-- Fail unless the table has the final shape. -/
def expectV2 (failure : Failure) : Runner Unit := do
  let shape ← fetchHistoryShape
  if shape ≠ .v2 then fail failure

/-! ## Adoption -/

/-- `expected_by_name`. -/
def expectedByName (plan : List Migration) (name : String) : Option Migration :=
  plan.find? (fun migration => migration.name == name)

/-- The loop of `_fill_staging_history`. -/
def fillRows (expected : String → Option Migration) : List StagingRow → Runner Unit
  | [] => pure ()
  | row :: rest =>
    match expected row.name with
    | none => fail (.missing row.name)
    | some migration =>
      match row.position, row.checksum with
      | none, none => do
          rowStatement (updateStaging migration row.name)
          fillRows expected rest
      | some position, some checksum =>
        if position ≠ migration.position ∨ checksum ≠ migration.checksum then
          fail (.differs row.name)
        else fillRows expected rest
      | _, _ => fail (.partiallyPopulated row.name)

/-- `_fill_staging_history`. -/
def fillStagingHistory (plan : List Migration) : Runner Bool := do
  let rows ← query selectStaging
  let prefixLength ← checked (validateLegacyHistory (rows.map StagingRow.name) plan)
  fillRows (expectedByName (plan.take prefixLength)) rows
  commit
  schemaStatement finalizeStaging
  expectV2 .cannotFinalize
  return !rows.isEmpty

/-- The v1 branch of `_ensure_v2_history`, up to the staging table. -/
def stageLegacy (plan : List Migration) (adoptLegacy : Bool) : Runner Unit := do
  let rows ← query selectLegacy
  if rows ≠ [] ∧ adoptLegacy = false then fail .requiresConsent
  let _ ← checked (validateLegacyHistory (rows.map LegacyRow.name) plan)
  schemaStatement addStagingColumns

/-- `_ensure_v2_history`. -/
def ensureV2History (plan : List Migration) (adoptLegacy : Bool) : Runner Bool := do
  let shape ← fetchHistoryShape
  match shape with
  | .absent => do
      schemaStatement createHistory
      expectV2 .cannotCreate
      return false
  | .v2 => return false
  | .unknown => fail .unknownSchema
  | .v1 => do
      stageLegacy plan adoptLegacy
      fillStagingHistory plan
  | .staging => fillStagingHistory plan

/-! ## Application -/

/-- What one statement of a migration body does to the history table. Other tables are not
modelled. A statement may fail, and it may commit implicitly. -/
structure BodyStatement where
  commits : Bool
  effect : Table → Except Failure Table

def BodyStatement.run (statement : BodyStatement) : Runner Unit :=
  if statement.commits then schemaStatement statement.effect else rowStatement statement.effect

def runBody : List BodyStatement → Runner Unit
  | [] => pure ()
  | statement :: rest => do
      statement.run
      runBody rest

/-- The second half of `_apply_body_and_history`. -/
def recordMigration (migration : Migration) (expected : List Migration) (now : String) :
    Runner Unit := do
  rowStatement (insertHistory migration now)
  expectV2 .changedSchema
  let history ← fetchHistory
  checked (validateHistoryPrefix history expected true 0)
  commit

/-- The body ran to its end. -/
def noteCompletion (migration : Migration) : Runner Unit :=
  change (fun server => { server with completed := server.completed ++ [migration.name] })

/-- `_apply_body_and_history`; to begin a transaction commits the one before. -/
def applyBodyAndHistory (body : List BodyStatement) (migration : Migration)
    (expected : List Migration) (now : String) : Runner Unit := do
  commit
  cleaning Server.rollback (fun _ => .migrationFailed migration.name) (runBody body)
  noteCompletion migration
  cleaning Server.rollback (fun _ => .cannotRecord migration.name)
    (recordMigration migration expected now)

variable (bodies : Migration → List BodyStatement) (now : String)

/-- The loop of `apply_mariadb_migrations`: the names applied. -/
def applyPending (plan : List Migration) : List Migration → Runner (List String)
  | [] => pure []
  | migration :: rest => do
      applyBodyAndHistory (bodies migration) migration (plan.take migration.position) now
      let applied ← applyPending plan rest
      return migration.name :: applied

structure MigrationResult where
  applied : List String
  alreadyApplied : List String
  legacyAdopted : Bool
deriving DecidableEq, Repr

/-- `apply_mariadb_migrations` under the lock. -/
def applyMariadbMigrations (plan : List Migration) (adoptLegacy : Bool) :
    Runner MigrationResult :=
  cleaning Server.rollback id do
    let legacyAdopted ← ensureV2History plan adoptLegacy
    let history ← fetchHistory
    checked (validateHistoryPrefix history plan false 0)
    change Server.rollback
    let applied ← applyPending bodies now plan (plan.drop history.length)
    return { applied, alreadyApplied := history.map MigrationRecord.name, legacyAdopted }

/-- One run of the program: where it is interrupted, if at all, and the caller's consent. -/
structure Attempt where
  interruption : Option Nat
  adoptLegacy : Bool
deriving DecidableEq, Repr

def attempt (plan : List Migration) (server : Server) (attempt : Attempt) : Server :=
  (applyMariadbMigrations bodies now plan attempt.adoptLegacy
    { state := server, patience := attempt.interruption }).2.state

/-- Any number of runs with one declaration, one after the other. -/
def attempts (plan : List Migration) (server : Server) (runs : List Attempt) : Server :=
  runs.foldl (attempt bodies now plan) server

end Snekql.MariadbHistory
