import Mathlib.Data.List.Sort
import Snekql.MigrationHistory

/-!
# Concurrent migration runs on one SQLite database

`apply_sqlite_migrations` applies a declaration with one writer transaction for
each pending body. Any number of runs work on one database; each owns a
connection. The database engine is taken at its word: `BEGIN IMMEDIATE` succeeds
only when no other connection has a writer transaction, a transaction works on its
own copy of the committed state, and a commit replaces the committed state by that
copy or leaves it alone.

A step is one driver call of one run. Every call may also raise or be cancelled,
which the event says. `_ensure_v2_history` is one step, because a failure between
its calls drops the transaction's copy anyway. A statement that fails may take its transaction with it, a
commit whose acknowledgement is lost may have happened, and a connection may go
away at any time, dropping what it had open. `started` is history: the bodies that
runs have begun to execute.

The application's part of the database is the log of body statements executed on
it, so whatever the statements mean, the database is what this log makes of it. The
authorizer keeps bodies away from the history table and from transaction control,
and time stamps are left out.
-/

namespace Snekql.SqliteMigrations

open Snekql.Migrations

/-- The history table as `_fetch_history_shape` classifies it, with its rows. Rows
of the current shape are in the order of their primary key, the position. -/
inductive History where
  | absent
  | legacy (names : List String)
  | current (rows : List MigrationRecord)
  | unknown
deriving DecidableEq, Repr

structure Database where
  history : History
  /-- An object with the name of the staging table exists. -/
  staging : Bool
  content : List String
deriving DecidableEq, Repr

/-- `_upgrade_legacy_history`. -/
def upgradeLegacyHistory (database : Database) (names : List String) (plan : List Migration)
    (adoptLegacy : Bool) : Except HistoryError (Database × Bool) :=
  if !names.isEmpty && !adoptLegacy then .error .consentRequired
  else do
    let prefixLength ← validateLegacyHistory names plan
    if database.staging then .error .unexpectedStaging
    else
      .ok ({ database with
        history := .current ((plan.take prefixLength).map Migration.historyRecord) },
        !names.isEmpty)

/-- `_ensure_v2_history`: the database with a history of the current shape, and
whether a legacy history was adopted. -/
def ensureV2History (database : Database) (plan : List Migration) (adoptLegacy : Bool) :
    Except HistoryError (Database × Bool) :=
  match database.history with
  | .absent => .ok ({ database with history := .current [] }, false)
  | .current _ => .ok (database, false)
  | .legacy names => upgradeLegacyHistory database names plan adoptLegacy
  | .unknown => .error .unknownSchema

/-- `_fetch_history`. -/
def fetchHistory (database : Database) : List MigrationRecord :=
  match database.history with
  | .current rows => rows
  | _ => []

/-- `_record_history`: an insert that the primary key or the unique name may refuse. -/
def recordHistory (database : Database) (migration : Migration) : Option Database :=
  match database.history with
  | .current rows =>
    if rows.any (fun row => row.position == migration.position || row.name == migration.name) then
      none
    else
      some { database with
        history := .current
          (rows.orderedInsert (fun left right => left.position ≤ right.position)
            migration.historyRecord) }
  | _ => none

/-- Where a run is. `committing none` is the commit of a complete history, and
`settled` the checkpoint after an acknowledged commit. -/
inductive Phase where
  | ready
  | begun
  | ensured
  | applying (migration : Migration) (statements : List String)
  | committing (migration : Option Migration)
  | settled (migration : Option Migration)
  | unwinding
  | returned
  | failed
deriving DecidableEq, Repr

/-- One call of `apply_sqlite_migrations` with its local variables. -/
structure Run where
  plan : List Migration
  adoptLegacy : Bool
  phase : Phase
  applied : List String
  alreadyApplied : List String
  legacyAdopted : Bool
deriving DecidableEq, Repr

/-- A call of `apply_sqlite_migrations` before its first iteration. -/
def Run.initial (plan : List Migration) (adoptLegacy : Bool) : Run :=
  { plan := plan, adoptLegacy := adoptLegacy, phase := .ready, applied := [], alreadyApplied := [],
    legacyAdopted := false }

structure State where
  committed : Database
  /-- The connection with the writer transaction and its working copy. -/
  transaction : Option (Nat × Database)
  runs : List Run
  started : List (Nat × String)
deriving DecidableEq, Repr

def initial (database : Database) : State :=
  { committed := database, transaction := none, runs := [], started := [] }

/-- The names of a valid history that this run neither applied nor saw before. -/
def absorb (applied : List String) : List String → List MigrationRecord → List String
  | alreadyApplied, [] => alreadyApplied
  | alreadyApplied, record :: rest =>
    if record.name ∈ applied ∨ record.name ∈ alreadyApplied then
      absorb applied alreadyApplied rest
    else absorb applied (alreadyApplied ++ [record.name]) rest

/-- How a body statement that raised leaves its transaction. -/
inductive Raised where
  | kept
  | rolledBack
deriving DecidableEq, Repr

inductive CommitOutcome where
  | acknowledged
  | lost
  | rejected
deriving DecidableEq, Repr

inductive Event where
  | enter (length : Nat) (adoptLegacy : Bool)
  | beginImmediate (run : Nat)
  | beginLost (run : Nat)
  | ensure (run : Nat)
  | validate (run : Nat)
  | statement (run : Nat)
  | statementRaises (run : Nat) (raised : Raised)
  | record (run : Nat)
  | commit (run : Nat) (outcome : CommitOutcome)
  | proceed (run : Nat)
  | fail (run : Nat)
  | rollback (run : Nat)
  | disconnect (run : Nat)
deriving DecidableEq, Repr

namespace State

def setRun (state : State) (index : Nat) (run : Run) : State :=
  { state with runs := state.runs.set index run }

/-- Forget the writer transaction if this run's connection owns it. -/
def dropTransaction (state : State) (index : Nat) : State :=
  match state.transaction with
  | some (owner, _) => if owner = index then { state with transaction := none } else state
  | none => state

/-- The working copy of this run's open transaction. -/
def workingCopy (state : State) (index : Nat) : Option Database :=
  match state.transaction with
  | some (owner, working) => if owner = index then some working else none
  | none => none

def write (state : State) (index : Nat) (database : Database) : State :=
  { state with transaction := some (index, database) }

end State

/-- Read and compare the history; then commit a complete one, or start the body of
the next migration. -/
def validate (statements : Migration → List String) (state : State) (index : Nat) (run : Run)
    (working : Database) : State :=
  let history := fetchHistory working
  match validateHistoryPrefix history run.plan false 0 with
  | .error _ => state.setRun index { run with phase := .unwinding }
  | .ok () =>
    let informed := { run with alreadyApplied := absorb run.applied run.alreadyApplied history }
    if history.length = run.plan.length then
      state.setRun index { informed with phase := .committing none }
    else
      match run.plan[history.length]? with
      | none => state.setRun index { informed with phase := .unwinding }
      | some migration =>
        { state.setRun index { informed with
            phase := .applying migration (statements migration) } with
          started := state.started ++ [(index, migration.name)] }

/-- The end of an iteration, after the checkpoint that follows the commit. -/
def proceed (run : Run) : Option Migration → Run
  | some migration =>
    { run with phase := .ready, applied := run.applied ++ [migration.name] }
  | none => { run with phase := .returned }

/-- One driver call of one run, over a chain whose prefixes are declared. -/
def step (chain : List Migration) (statements : Migration → List String) (state : State) :
    Event → Option State
  | .enter length adoptLegacy =>
    some { state with runs := state.runs ++ [Run.initial (chain.take length) adoptLegacy] }
  | .beginImmediate index =>
    match state.runs[index]?, state.transaction with
    | some run, none =>
      if run.phase = .ready then
        some ((state.write index state.committed).setRun index { run with phase := .begun })
      else none
    | _, _ => none
  | .beginLost index =>
    match state.runs[index]?, state.transaction with
    | some run, none =>
      if run.phase = .ready then
        some ((state.write index state.committed).setRun index { run with phase := .failed })
      else none
    | _, _ => none
  | .ensure index =>
    match state.runs[index]?, state.workingCopy index with
    | some run, some working =>
      if run.phase = .begun then
        match ensureV2History working run.plan run.adoptLegacy with
        | .ok (database, adopted) =>
          some ((state.write index database).setRun index { run with
            phase := .ensured, legacyAdopted := adopted || run.legacyAdopted })
        | .error _ => some (state.setRun index { run with phase := .unwinding })
      else none
    | _, _ => none
  | .validate index =>
    match state.runs[index]?, state.workingCopy index with
    | some run, some working =>
      if run.phase = .ensured then some (validate statements state index run working) else none
    | _, _ => none
  | .statement index =>
    match state.runs[index]?, state.workingCopy index with
    | some run, some working =>
      match run.phase with
      | .applying migration (statement :: rest) =>
        some ((state.write index { working with content := working.content ++ [statement] }).setRun
          index { run with phase := .applying migration rest })
      | _ => none
    | _, _ => none
  | .statementRaises index raised =>
    match state.runs[index]? with
    | some run =>
      match run.phase, raised with
      | .applying _ (_ :: _), .kept => some (state.setRun index { run with phase := .unwinding })
      | .applying _ (_ :: _), .rolledBack =>
        some ((state.dropTransaction index).setRun index { run with phase := .unwinding })
      | _, _ => none
    | none => none
  | .record index =>
    match state.runs[index]?, state.workingCopy index with
    | some run, some working =>
      match run.phase with
      | .applying migration [] =>
        match recordHistory working migration with
        | some database =>
          some ((state.write index database).setRun index
            { run with phase := .committing (some migration) })
        | none => some (state.setRun index { run with phase := .unwinding })
      | _ => none
    | _, _ => none
  | .commit index outcome =>
    match state.runs[index]?, state.workingCopy index with
    | some run, some working =>
      match run.phase with
      | .committing migration =>
        match outcome with
        | .acknowledged =>
          some ({ state with committed := working, transaction := none }.setRun index
            { run with phase := .settled migration })
        | .lost =>
          some ({ state with committed := working, transaction := none }.setRun index
            { run with phase := .unwinding })
        | .rejected => some (state.setRun index { run with phase := .unwinding })
      | _ => none
    | _, _ => none
  | .proceed index =>
    match state.runs[index]? with
    | some run =>
      match run.phase with
      | .settled migration => some (state.setRun index (proceed run migration))
      | _ => none
    | none => none
  | .fail index =>
    match state.runs[index]? with
    | some run =>
      match run.phase with
      | .returned => none
      | .failed => none
      | .ready => some (state.setRun index { run with phase := .failed })
      | _ => some (state.setRun index { run with phase := .unwinding })
    | none => none
  | .rollback index =>
    match state.runs[index]? with
    | some run =>
      if run.phase = .unwinding then
        some ((state.dropTransaction index).setRun index { run with phase := .failed })
      else none
    | none => none
  | .disconnect index =>
    match state.runs[index]? with
    | some run =>
      if run.phase = .returned then none
      else some ((state.dropTransaction index).setRun index { run with phase := .failed })
    | none => none

end Snekql.SqliteMigrations
