import Snekql.RecordedReplay
import Snekql.RecordedSafety

/-!
# Concurrent recorded migrations on SQLite

Any number of targets prepare and apply plans on one database, in any interleaving of their driver
calls, each of which may fail, time out or be cancelled. The committed database chronicles the
applied plans: one complete row for each, in one lineage, and their statements once each. It
changes only when a commit is sent, and a target that survives a method has no transaction open
and enforces foreign keys.
-/

namespace Snekql.RecordedTarget

open Snekql.Recorded
open Snekql.Programs
open Snekql.Sessions (Call Reply View)

/-- The history records these plans, which form one lineage, and exactly their statements were
executed. -/
structure Chronicle (engine : Engine) (plans : List Prepared) (database : Database) : Prop where
  recorded : List.Forall₂ (Records engine .complete) plans database.rows
  lineage : Lineage engine (plans.map Prepared.package)
  executed : database.log.filter Statement.isPlanned = plans.flatMap (Prepared.planned engine)

/-- A database that has no history and on which nothing was planned. -/
theorem chronicle_nil {engine : Engine} {database : Database} (absent : database.rows = [])
    (untouched : database.log.filter Statement.isPlanned = []) : Chronicle engine [] database :=
  ⟨absent ▸ List.Forall₂.nil, lineage_nil engine, untouched⟩

theorem Chronicle.append {engine : Engine} {plans : List Prepared} {before after : Database}
    (chronicle : Chronicle engine plans before) {prepared : Prepared}
    (extended : Extends engine prepared before after) :
    Chronicle engine (plans ++ [prepared]) after := by
  obtain ⟨row, records, history⟩ := extended.recorded
  obtain ⟨chapter, log, planned⟩ := extended.executed
  refine ⟨?_, ?_, ?_⟩
  · rw [Database.rows, history]
    exact List.rel_append chronicle.recorded (.cons records .nil)
  · rw [List.map_append]
    exact chronicle.lineage.prolong chronicle.recorded (engine.scan_perm _) extended.accepted
      extended.fresh
  · rw [log, List.filter_append, chronicle.executed, planned, List.flatMap_append,
      List.flatMap_singleton]

abbrev Targets := Sessions.State Database Stop Result

def sqliteStep (engine : Engine) (targets : Targets) (event : Sessions.Event Operation) :
    Option Targets :=
  Sessions.step .transactional (method engine) targets event

/-- What holds in every state of a run. -/
structure Linear (engine : Engine) (targets : Targets) : Prop where
  chronicled : ∃ plans, Chronicle engine plans targets.committed
  /-- Where digests tell states apart, each package starts from the target of the one before. -/
  seamless : Function.Injective engine.grammar.digest → ∀ plans,
    Chronicle engine plans targets.committed →
      (plans.map Prepared.package).IsChain (fun earlier later =>
        later.draft.before = earlier.draft.target)
  /-- The committed database changes by a commit only, which adds one plan. -/
  atomic : ∀ event after, sqliteStep engine targets event = some after →
    after.committed = targets.committed ∨
      targets.requested event = some .commit ∧
        ∃ prepared, Extends engine prepared targets.committed after.committed
  /-- A living target whose method has ended has no transaction and enforces foreign keys. -/
  released : ∀ index session, targets.sessions[index]? = some session → session.alive = true →
    (∀ request next, session.work ≠ some (.call request next)) →
      targets.held index = none ∧ session.enforcing = true

theorem settled_iff {targets : Targets} {index : Nat}
    {session : Sessions.Session Database Stop Result} :
    Settled (targets.view index session) ↔
      targets.held index = none ∧ session.enforcing = true := by
  simp only [Settled, Sessions.State.view, Sessions.State.connection, Sessions.Connection.seen,
    View.mk.injEq, Option.map_eq_none_iff]

namespace Notes

open Snekql.Recorded.Notes (asciiGrammar narrow)

/-- The step of an entry that has a statement. -/
def plainStep (entry : Entry) : ExecutionStep where
  statements := entry.statement.toList
  bindings := [entry.bindings]
  transactional := entry.transactional
  required := []
  rebuild := false
  sequenceTable := none
  copyTables := none
  copyAt := none
  copyColumns := []
  droppedColumns := []
  validateTriggers := false

/-- An engine whose catalog lists what was executed, and that finds nothing wrong. -/
def plainEngine : Engine where
  grammar := asciiGrammar
  backend := .sqlite
  targetId := "notes.db"
  ask := fun _ _ _ => []
  observe := fun log => .ok (log.map (fun statement =>
    { kind := "table".toList, name := [], owner := [], sql := some statement.sql }))
  profile := fun _ => []
  scan := id
  scan_perm := fun _ => List.Perm.refl _
  catalogDigest := fun catalog => String.ofList (catalog.flatMap (fun row => row.sql.getD []))
  planDigest := fun prepared => String.ofList prepared.package.draft.revision
  packageDigest := fun package => String.ofList ('#' :: package.draft.revision)
  packageDigest_nonempty := fun package => by simp
  prepareSteps := fun package _ => .ok (package.entries.map plainStep)
  validateManaged := fun _ _ => .ok ()
  validateAdopted := fun _ _ => .ok ()
  validateCompleted := fun _ _ => .ok ()
  mariadbDeclarationObstacle := fun _ => none
  mariadbPresenceObstacle := fun _ _ _ => none

def creation : Package where
  version := 2
  draft :=
    { revision := "1".toList
      predecessor := none
      before := { backend := .sqlite, tables := [] }
      target := { backend := .sqlite, tables := [narrow] }
      operations := [.createTable narrow]
      unresolved := [] }
  entries := [Entry.ofStatement narrow.sql [] false]

def plan : Prepared where
  executionEpoch := 1
  package := creation
  targetId := "notes.db"
  catalogDigest := ""
  steps := creation.entries.map plainStep
  preserveUnmanaged := false

def empty : Database := { history := .absent, log := [] }

/-- The first target holds the lock when the second fails to get it; then it commits. -/
def race : List (Sessions.Event Operation) :=
  [.connect, .connect, .start 0 (.apply plan), .start 1 (.apply plan), .call 0 .returned,
    .call 0 .returned, .call 1 .returned, .call 1 (.raised .nothing), .call 1 .returned,
    .call 1 .returned, .call 1 .returned, .finish 1] ++ List.replicate 11 (.call 0 .returned)

end Notes

end Snekql.RecordedTarget
