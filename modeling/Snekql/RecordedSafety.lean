import Snekql.SessionRules
import Snekql.RecordedReads
import Snekql.RecordedLineage

/-!
# Recorded migrations on SQLite

The lock of a SQLite target is the write transaction. The body of `apply` works on the
transaction's copy, and the only call that changes the committed database is its commit. Triples
follow the copy from the start of a package to its completion. However a step fails, the clean-up
ends the transaction and restores enforcement, or gives the connection up.
-/

namespace Snekql.RecordedTarget

open Snekql.Splicing (Text)
open Snekql.Recorded
open Snekql.Programs
open Snekql.Sessions (Call Reply View Connection Locking)

/-! ## What a commit may do -/

/-- The statement belongs to a step of a package. -/
def Statement.isPlanned (statement : Statement) : Bool :=
  match statement.origin with
  | .planned _ _ => true
  | .sequence => false

/-- The statements of one step of a package. -/
def plannedStep (digest : String) (index : Nat) (step : ExecutionStep) : List Statement :=
  (step.statements.zip step.bindings).map (fun statement =>
    { origin := .planned digest index, sql := statement.1, params := statement.2 })

/-- The statements of the steps from an index on. -/
def plannedFrom (digest : String) : Nat → List ExecutionStep → List Statement
  | _, [] => []
  | index, step :: rest => plannedStep digest index step ++ plannedFrom digest (index + 1) rest

variable (engine : Engine)

/-- All statements of a plan, in order. -/
def Prepared.planned (prepared : Prepared) : List Statement :=
  plannedFrom (engine.packageDigest prepared.package) 0 prepared.steps

/-- The database with one more package: its row, and its statements, each executed once. -/
structure Extends (prepared : Prepared) (before after : Database) : Prop where
  accepted : checkHistory engine prepared.package (engine.scan before.rows) = .ok false
  fresh : engine.packageDigest prepared.package ∉ before.rows.map Row.digest
  recorded : ∃ row, Records engine .complete prepared row ∧
    after.history = .current (before.rows ++ [row])
  executed : ∃ chapter, after.log = before.log ++ chapter ∧
    chapter.filter Statement.isPlanned = prepared.planned engine

/-- Only a commit changes the committed database, by one package. -/
def guaranteed : Call Database → Database → Database → Prop
  | .commit, before, after => ∃ prepared, Extends engine prepared before after
  | _, _, _ => False

abbrev sqliteRules : Rules (Call Database) (Reply Database) (View Database) :=
  Sessions.rules .transactional (guaranteed engine)

/-! ## Assertions -/

/-- No transaction is open, and foreign keys are enforced. -/
def Settled (view : View Database) : Prop := view = { held := none, enforcing := true }

/-- Wherever a failure leaves the session: foreign keys are enforced unless a rebuild has switched
that off, and the lock is held with a transaction or not at all. -/
structure Fallen (rebuild : Bool) (view : View Database) : Prop where
  switch : rebuild = false → view.enforcing = true
  bound : ∀ database, view.held ≠ some (database, none)

/-- The transaction is over. -/
def Ended (rebuild : Bool) (view : View Database) : Prop :=
  view = { held := none, enforcing := !rebuild }

/-- The transaction that began on one database works on another. -/
def Working (rebuild : Bool) (start working : Database) (view : View Database) : Prop :=
  view = { held := some (start, some working), enforcing := !rebuild }

/-- A triple for the body of a transaction, which may fail at any time. -/
def Keeps {α : Type} (rebuild : Bool) (before : View Database → Prop) (action : Action α)
    (after : α → View Database → Prop) : Prop :=
  Triple (sqliteRules engine) before action after (fun _ => Fallen rebuild)

theorem Working.fallen {rebuild : Bool} {start working : Database} {view : View Database}
    (holds : Working rebuild start working view) : Fallen rebuild view := by
  subst holds
  exact ⟨fun plain => by rw [plain]; rfl, nofun⟩

theorem Ended.fallen {rebuild : Bool} {view : View Database} (holds : Ended rebuild view) :
    Fallen rebuild view := by
  subst holds
  exact ⟨fun plain => by rw [plain]; rfl, nofun⟩

section Calls

variable {engine} {rebuild : Bool} {start working : Database} {connection next : Connection Database}
  {request : Call Database} {before : View Database → Prop} {α β : Type}

theorem held_of_working (holds : Working rebuild start working connection.seen) :
    connection.committed = start ∧ connection.held = some (some working) ∧
      connection.enforcing = !rebuild := by
  obtain ⟨committed, free, held, enforcing⟩ := connection
  simp only [Working, Connection.seen, View.mk.injEq, Option.map_eq_some_iff,
    Prod.mk.injEq] at holds
  obtain ⟨⟨transaction, same, rfl, rfl⟩, rfl⟩ := holds
  exact ⟨rfl, same, rfl⟩

/-- A call that leaves the switch alone keeps it when it fails. -/
theorem fallen_of_affected {effect : Sessions.Effect} (quiet : ∀ on, request ≠ .enforce on)
    (fallen : Fallen rebuild connection.seen)
    (affected : connection.affect .transactional request effect = some next) :
    Fallen rebuild next.seen := by
  constructor
  · intro plain
    exact (Sessions.affect_enforcing quiet affected).trans (fallen.switch plain)
  · have bound : connection.held ≠ some none := by
      intro held
      refine fallen.bound connection.committed ?_
      simp only [Connection.seen, held, Option.map_some]
    intro database held
    simp only [Connection.seen, Option.map_eq_some_iff, Prod.mk.injEq] at held
    obtain ⟨transaction, held, -, rfl⟩ := held
    exact Sessions.affect_bound bound affected held

theorem io_keeps {after : Database → View Database → Prop} (ordinary : request.ordinary = true)
    (quiet : ∀ on, request ≠ .enforce on)
    (calm : ∀ view, before view → Fallen rebuild view)
    (allowed : ∀ view, before view → (sqliteRules engine).allowed request view)
    (performed : ∀ connection next : Connection Database, before connection.seen →
      connection.perform .transactional request = some next → after next.database next.seen) :
    Keeps engine rebuild before (io request) after := by
  intro view holds
  refine ⟨allowed view holds, ?_⟩
  intro reply last answered
  obtain ⟨connection, next, rfl, rfl, ⟨done, rfl⟩ | ⟨effect, affected, rfl⟩⟩ :=
    (Sessions.answers_ordinary ordinary).mp answered
  · exact performed connection next holds done
  · exact fallen_of_affected quiet (calm _ holds) affected

/-- In the transaction, only the commit touches the committed database. -/
theorem working_allowed (notCommit : request ≠ .commit) {view : View Database}
    (holds : Working rebuild start working view) :
    (sqliteRules engine).allowed request view := by
  rintro connection after rfl performed
  obtain ⟨-, held, -⟩ := held_of_working holds
  left
  cases request with
  | commit => exact absurd rfl notCommit
  | write schema update =>
    simp only [Connection.perform, held] at performed
    obtain ⟨written, -, rfl⟩ := Option.map_eq_some_iff.mp performed
    split
    · rename_i advisory
      simp at advisory
    · rfl
  | _ =>
    simp only [Connection.perform, held] at performed
    first | (cases performed; rfl) | cases performed

theorem read_keeps : Keeps engine rebuild (Working rebuild start working) (io .read)
    (fun database view => database = working ∧ Working rebuild start working view) := by
  refine io_keeps rfl nofun (fun _ holds => holds.fallen)
    (fun _ holds => working_allowed (by nofun) holds) ?_
  intro connection next holds performed
  cases performed
  refine ⟨?_, holds⟩
  obtain ⟨-, held, -⟩ := held_of_working holds
  simp only [Connection.database, held]

/-- A routine that only reads leaves the transaction as it is. -/
theorem reads_keeps {action : Action α} (reads : Reads action) :
    Keeps engine rebuild (Working rebuild start working) action
      (fun _ => Working rebuild start working) := by
  induction action with
  | ret value => exact Triple.ret (fun _ holds => holds)
  | raise stop => exact Triple.raise (fun _ holds => holds.fallen)
  | call request next ih =>
    obtain ⟨rfl, returned, failed⟩ := reads
    intro view holds
    refine ⟨working_allowed (by nofun) holds, ?_⟩
    intro reply last answered
    obtain ⟨connection, after, rfl, rfl, ⟨done, rfl⟩ | ⟨effect, affected, rfl⟩⟩ :=
      (Sessions.answers_ordinary rfl).mp answered
    · cases done
      exact ih _ (returned _) _ holds
    · obtain ⟨stop, raised⟩ := failed .raised nofun
      rw [raised]
      exact fallen_of_affected (by nofun) holds.fallen affected

theorem write_keeps {schema : Bool} {update : Database → Option Database} :
    Keeps engine rebuild (Working rebuild start working) (perform (.write schema update))
      (fun _ view => ∃ written, update working = some written ∧
        Working rebuild start written view) := by
  refine Triple.bind (fun _ view => ∃ written, update working = some written ∧
    Working rebuild start written view) ?_ (fun _ => Triple.ret (fun _ holds => holds))
  refine io_keeps rfl nofun (fun _ holds => holds.fallen)
    (fun _ holds => working_allowed (by nofun) holds) ?_
  intro connection next holds performed
  obtain ⟨committed, held, switch⟩ := held_of_working holds
  simp only [Connection.perform, held] at performed
  obtain ⟨written, updated, rfl⟩ := Option.map_eq_some_iff.mp performed
  refine ⟨written, updated, ?_⟩
  split
  · rename_i advisory
    simp at advisory
  · simp only [Working, Connection.seen, committed, switch, Option.map_some]

/-- A commit of what the package was to do. -/
theorem commit_keeps {prepared : Prepared} (extended : Extends engine prepared start working) :
    Keeps engine rebuild (Working rebuild start working) (perform .commit)
      (fun _ => Ended rebuild) := by
  refine Triple.bind (fun _ => Ended rebuild) ?_ (fun _ => Triple.ret (fun _ holds => holds))
  refine io_keeps rfl nofun (fun _ holds => holds.fallen) ?_ ?_
  · rintro view holds connection after rfl performed
    obtain ⟨committed, held, -⟩ := held_of_working holds
    simp only [Connection.perform, held, Option.some.injEq] at performed
    subst performed
    right
    exact ⟨prepared, committed ▸ extended⟩
  · intro connection next holds performed
    obtain ⟨-, held, switch⟩ := held_of_working holds
    simp only [Connection.perform, held, Option.some.injEq] at performed
    subst performed
    simp only [Ended, Connection.seen, Connection.afterwards, Option.map_none, switch]

theorem rollback_keeps :
    Keeps engine rebuild (Working rebuild start working) (perform .rollback)
      (fun _ => Ended rebuild) := by
  refine Triple.bind (fun _ => Ended rebuild) ?_ (fun _ => Triple.ret (fun _ holds => holds))
  refine io_keeps rfl nofun (fun _ holds => holds.fallen)
    (fun _ holds => working_allowed (by nofun) holds) ?_
  intro connection next holds performed
  obtain ⟨-, held, switch⟩ := held_of_working holds
  simp only [Connection.perform, held, Option.some.injEq] at performed
  subst performed
  simp only [Ended, Connection.seen, Connection.afterwards, Option.map_none, switch]

/-- First one routine, then another on what it returned. -/
theorem Keeps.bind {action : Action α} {rest : α → Action β} {after : β → View Database → Prop}
    (middle : α → View Database → Prop) (first : Keeps engine rebuild before action middle)
    (second : ∀ value, Keeps engine rebuild (middle value) (rest value) after) :
    Keeps engine rebuild before (action >>= rest) after :=
  Triple.bind middle first second

/-- A check, and then the rest on the same transaction. -/
theorem Keeps.reading {action : Action α} {rest : α → Action β}
    {after : β → View Database → Prop} (reads : Reads action)
    (second : ∀ value, Keeps engine rebuild (Working rebuild start working) (rest value) after) :
    Keeps engine rebuild (Working rebuild start working) (action >>= rest) after :=
  Triple.bind (fun _ => Working rebuild start working) (reads_keeps reads) second

theorem Keeps.weaken {action : Action α} {earlier : View Database → Prop}
    {after later : α → View Database → Prop} (keeps : Keeps engine rebuild before action after)
    (start : ∀ view, earlier view → before view)
    (ends : ∀ value view, after value view → later value view) :
    Keeps engine rebuild earlier action later :=
  Triple.weaken keeps start ends (fun _ _ holds => holds)

end Calls

/-! ## Executing a package -/

/-- The transaction has executed some statements, of which these were planned. -/
def Grown (rebuild : Bool) (start working : Database) (statements : List Statement)
    (view : View Database) : Prop :=
  ∃ added, added.filter Statement.isPlanned = statements ∧
    Working rebuild start { working with log := working.log ++ added } view

section Execution

variable {engine} {rebuild : Bool} {start working : Database}

theorem execute_keeps (schema : Bool) (statement : Statement) :
    Keeps engine rebuild (Working rebuild start working) (execute schema statement)
      (fun _ => Working rebuild start { working with log := working.log ++ [statement] }) := by
  refine write_keeps.weaken (fun _ holds => holds) ?_
  rintro - view ⟨written, updated, holds⟩
  cases updated
  exact holds

theorem record_keeps (schema : Bool) {change : History → Option History} :
    Keeps engine rebuild (Working rebuild start working) (record schema change)
      (fun _ view => ∃ history, change working.history = some history ∧
        Working rebuild start { working with history } view) := by
  refine write_keeps.weaken (fun _ holds => holds) ?_
  rintro - view ⟨written, updated, holds⟩
  obtain ⟨history, changed, rfl⟩ := Option.map_eq_some_iff.mp updated
  exact ⟨history, changed, holds⟩

/-- The loop over the statements executes each of them once, in order. -/
theorem executeStatements_keeps (step : ExecutionStep) (origin : Origin)
    (count : Option Parameter) (position : Nat) (statements : List (Text × List Parameter)) :
    Keeps engine rebuild (Working rebuild start working)
      (executeStatements engine step origin count position statements)
      (fun _ => Working rebuild start { working with
        log := working.log ++ statements.map (fun statement =>
          { origin, sql := statement.1, params := statement.2 }) }) := by
  induction statements generalizing position working with
  | nil =>
    refine Triple.ret (fun view holds => ?_)
    rw [List.map_nil, List.append_nil]
    exact holds
  | cons first rest ih =>
    refine Keeps.bind _ (execute_keeps _ _) (fun _ => ?_)
    refine Keeps.reading (checkCopy_reads engine step count position) (fun _ => ?_)
    refine (ih (position + 1)).weaken (fun _ holds => holds) ?_
    intro _ view holds
    rw [List.map_cons, List.append_cons]
    exact holds

theorem restoreSequence_keeps (table : Option Text) (sequence : List (List Parameter)) :
    Keeps engine rebuild (Working rebuild start working)
      (restoreSequence engine table sequence) (fun _ => Grown rebuild start working []) := by
  unfold restoreSequence
  split
  · refine Triple.ret (fun view holds => ⟨[], rfl, ?_⟩)
    rw [List.append_nil]
    exact holds
  · refine Keeps.reading (readSequence_reads engine table) (fun _ => ?_)
    refine Keeps.reading Reads.lift (fun _ => ?_)
    refine Keeps.bind _ (execute_keeps _ _) (fun _ => ?_)
    refine (execute_keeps _ _).weaken (fun _ holds => holds) ?_
    intro _ view holds
    dsimp only at holds
    rw [List.append_assoc] at holds
    exact ⟨_, rfl, holds⟩

/-- A step executes its statements. -/
theorem executeStep_keeps (digest : String) (index : Nat) (step : ExecutionStep) :
    Keeps engine rebuild (Working rebuild start working)
      (executeStep engine (.planned digest index) step)
      (fun _ => Grown rebuild start working (plannedStep digest index step)) := by
  refine Keeps.reading (checkRequired_reads engine step) (fun _ => ?_)
  refine Keeps.reading (validateCopyContract_reads engine step) (fun _ => ?_)
  refine Keeps.reading (readSequence_reads engine _) (fun sequence => ?_)
  refine Keeps.reading Reads.demand (fun _ => ?_)
  refine Keeps.reading (countRows_reads engine step) (fun count => ?_)
  refine Keeps.bind _ (executeStatements_keeps step _ count 0 _) (fun _ => ?_)
  refine Keeps.reading Reads.lift (fun _ => ?_)
  refine Keeps.reading (Reads.onlyIf (validateTriggers_reads engine)) (fun _ => ?_)
  refine (restoreSequence_keeps _ sequence).weaken (fun _ holds => holds) ?_
  rintro - view ⟨added, unplanned, holds⟩
  refine ⟨plannedStep digest index step ++ added, ?_, ?_⟩
  · have own : (plannedStep digest index step).filter Statement.isPlanned =
        plannedStep digest index step := by
      rw [List.filter_eq_self]
      intro statement listed
      obtain ⟨source, -, rfl⟩ := List.mem_map.mp listed
      rfl
    rw [List.filter_append, own, unplanned, List.append_nil]
  · rw [← List.append_assoc]
    exact holds

/-- The package has begun: its row follows those of the start, and some of its statements were
executed. -/
def Underway (engine : Engine) (prepared : Prepared) (rebuild : Bool) (start : Database)
    (statements : List Statement) (view : View Database) : Prop :=
  ∃ row chapter, Records engine .started prepared row ∧
    chapter.filter Statement.isPlanned = statements ∧
    Working rebuild start
      { history := .current (start.rows ++ [row]), log := start.log ++ chapter } view

variable {prepared : Prepared}

/-- An update of the package's own row, which is the last. -/
theorem updateRows_last {rows : List Row} {row : Row} {digest : String} {change : Row → Row}
    (fresh : digest ∉ rows.map Row.digest) (own : row.digest = digest) :
    updateRows digest change (.current (rows ++ [row])) =
      some (.current (rows ++ [change row])) := by
  have others : rows.map (fun row => if row.digest = digest then change row else row) = rows := by
    refine (List.map_congr_left (fun row listed => ?_)).trans (List.map_id rows)
    exact if_neg (fun same : row.digest = digest =>
      fresh (same ▸ List.mem_map_of_mem listed))
  simp only [updateRows, List.map_append, List.map_cons, List.map_nil, others, own, if_true]

/-- `_start_package` inserts the row, whose digest must be new. -/
theorem startPackage_keeps (supported : start.history ≠ .unsupported) :
    Keeps engine rebuild (Working rebuild start start) (startPackage engine prepared)
      (fun _ view => engine.packageDigest prepared.package ∉ start.rows.map Row.digest ∧
        Underway engine prepared rebuild start [] view) := by
  refine Keeps.bind (fun _ => Working rebuild start { start with history := .current start.rows })
    ((record_keeps true).weaken (fun _ holds => holds) ?_) (fun _ => ?_)
  · rintro - view ⟨history, created, holds⟩
    have same : history = .current start.rows := by
      unfold Database.rows
      cases known : start.history with
      | absent =>
        rw [known] at created
        exact (Option.some.inj created).symm
      | unsupported => exact absurd known supported
      | current rows =>
        rw [known] at created
        exact (Option.some.inj created).symm
    rw [← same]
    exact holds
  · refine Keeps.reading (catalog_reads engine) (fun observation => ?_)
    refine Keeps.reading (recordObservation_reads engine observation) (fun recorded => ?_)
    refine (record_keeps false).weaken (fun _ holds => holds) ?_
    rintro - view ⟨history, inserted, holds⟩
    simp only [insertRow, List.contains_iff_mem] at inserted
    split at inserted
    · cases inserted
    · rename_i fresh
      cases inserted
      rw [← List.append_nil start.log] at holds
      refine ⟨fresh, _, [], ?_, rfl, holds⟩
      exact ⟨rfl, rfl, rfl, rfl, rfl, rfl⟩

/-- One step of the plan on SQLite. -/
theorem executePlanned_keeps (sqlite : engine.sqlite = true)
    (fresh : engine.packageDigest prepared.package ∉ start.rows.map Row.digest) (index : Nat)
    (step : ExecutionStep) (done : List Statement) :
    Keeps engine rebuild (Underway engine prepared rebuild start done)
      (executePlanned engine prepared (index + 1) step)
      (fun _ => Underway engine prepared rebuild start
        (done ++ plannedStep (engine.packageDigest prepared.package) index step)) := by
  rintro view ⟨row, chapter, records, counted, holds⟩
  refine Keeps.reading (checkAdditionEnvironment_reads engine _) (fun _ => ?_) view holds
  refine Keeps.reading (checkRemovalAuthority_reads engine _ _) (fun _ => ?_)
  have plain : engine.ownTransaction step = false := by
    simp [Engine.ownTransaction, sqlite]
  have noBegin : Reads (beginStep engine step) := by
    rw [beginStep, plain]
    trivial
  refine Keeps.reading noBegin (fun _ => ?_)
  refine Keeps.bind _ (executeStep_keeps _ index step) (fun _ => ?_)
  rintro view ⟨added, planned, holds⟩
  refine Keeps.reading (catalog_reads engine) (fun observation => ?_) view holds
  refine Keeps.reading (recordObservation_reads engine observation) (fun recorded => ?_)
  refine Keeps.bind (fun _ => Underway engine prepared rebuild start
      (done ++ plannedStep (engine.packageDigest prepared.package) index step))
    ((record_keeps false).weaken (fun _ holds => holds) ?_) (fun _ => ?_)
  · rintro - view ⟨history, updated, holds⟩
    rw [updateRows_last fresh records.digest] at updated
    cases updated
    dsimp only at holds
    rw [List.append_assoc] at holds
    refine ⟨_, chapter ++ added, ?_, ?_, holds⟩
    · exact ⟨records.digest, records.revision, records.predecessor, records.phase, records.state,
        records.plan⟩
    · rw [List.filter_append, counted, planned]
  · simp only [onlyIf, plain, Bool.false_eq_true, if_false]
    exact Triple.ret (fun _ holds => holds)

theorem executeSteps_keeps (sqlite : engine.sqlite = true)
    (fresh : engine.packageDigest prepared.package ∉ start.rows.map Row.digest) (index : Nat)
    (steps : List ExecutionStep) (done : List Statement) :
    Keeps engine rebuild (Underway engine prepared rebuild start done)
      (executeSteps engine prepared (index + 1) steps)
      (fun _ => Underway engine prepared rebuild start
        (done ++ plannedFrom (engine.packageDigest prepared.package) index steps)) := by
  induction steps generalizing index done with
  | nil =>
    refine Triple.ret (fun view holds => ?_)
    rw [plannedFrom, List.append_nil]
    exact holds
  | cons step rest ih =>
    refine Keeps.bind _ (executePlanned_keeps sqlite fresh index step done) (fun _ => ?_)
    refine (ih (index + 1) _).weaken (fun _ holds => holds) ?_
    intro _ view holds
    rw [plannedFrom, ← List.append_assoc]
    exact holds

/-- From an accepted plan to its commit. -/
theorem executePackage_keeps (sqlite : engine.sqlite = true)
    (supported : start.history ≠ .unsupported)
    (accepted : checkHistory engine prepared.package (engine.scan start.rows) = .ok false) :
    Keeps engine rebuild (Working rebuild start start) (executePackage engine prepared none)
      (fun _ => Ended rebuild) := by
  refine Keeps.reading Reads.lift (fun _ => ?_)
  refine Keeps.reading (Reads.each (checkRequired_reads engine) _) (fun _ => ?_)
  refine Keeps.bind _ (startPackage_keeps supported) (fun _ => ?_)
  rintro view ⟨fresh, underway⟩
  refine Keeps.bind _ (executeSteps_keeps sqlite fresh 0 _ []) (fun _ => ?_) view underway
  rintro view ⟨row, chapter, records, planned, holds⟩
  refine Keeps.reading (checkForeignKeys_reads engine prepared) (fun _ => ?_) view holds
  refine Keeps.reading (checkAdditionEnvironment_reads engine _) (fun _ => ?_)
  refine Keeps.reading (catalog_reads engine) (fun completed => ?_)
  refine Keeps.reading (checkCompleted_reads engine _ completed) (fun _ => ?_)
  refine Keeps.bind _ (record_keeps false) (fun _ => ?_)
  rintro view ⟨history, updated, holds⟩
  rw [updateRows_last fresh records.digest] at updated
  cases updated
  refine commit_keeps ⟨accepted, fresh, ⟨_, ?_, rfl⟩, chapter, rfl, planned⟩ view holds
  exact ⟨records.digest, records.revision, records.predecessor, rfl, records.state, records.plan⟩

/-- What `_history` returns in a transaction. -/
theorem history_keeps :
    Keeps engine rebuild (Working rebuild start working) (history engine)
      (fun rows view => rows = engine.scan working.rows ∧ working.history ≠ .unsupported ∧
        Working rebuild start working view) := by
  refine Keeps.bind _ read_keeps (fun database => ?_)
  rintro view ⟨rfl, holds⟩
  cases known : database.history with
  | absent =>
    refine Triple.ret (fun view holds => ⟨?_, nofun, holds⟩) view holds
    have empty : engine.scan database.rows = [] := by
      rw [Database.rows, known]
      exact (engine.scan_perm []).eq_nil
    exact empty.symm
  | unsupported =>
    refine Keeps.bind _ read_keeps (fun database => ?_) view holds
    rintro view ⟨rfl, holds⟩
    rw [known]
    exact Triple.raise (fun view holds => holds.fallen) view holds
  | current rows =>
    refine Keeps.bind _ read_keeps (fun database => ?_) view holds
    rintro view ⟨rfl, holds⟩
    rw [known]
    refine Keeps.bind _ read_keeps (fun database => ?_) view holds
    rintro view ⟨rfl, holds⟩
    exact Triple.ret (fun view holds => ⟨rfl, nofun, holds⟩) view holds

/-- The body of `apply`. -/
theorem applyCoordinated_keeps (sqlite : engine.sqlite = true) :
    Keeps engine rebuild (fun view => ∃ start, Working rebuild start start view)
      (applyCoordinated engine prepared) (fun _ => Ended rebuild) := by
  rintro view ⟨start, holds⟩
  refine Keeps.bind _ history_keeps (fun rows => ?_) view holds
  rintro view ⟨rfl, supported, holds⟩
  cases checked : checkHistory engine prepared.package (engine.scan start.rows) with
  | error error => exact Triple.raise (fun view holds => holds.fallen) view holds
  | ok alreadyApplied =>
    refine Keeps.reading (catalog_reads engine) (fun objects => ?_) view holds
    refine Keeps.reading Reads.lift (fun _ => ?_)
    cases alreadyApplied with
    | true => exact Keeps.bind _ rollback_keeps (fun _ => Triple.ret (fun _ ended => ended))
    | false =>
      refine Keeps.reading (admitPlan_reads engine prepared objects) (fun _ => ?_)
      exact Keeps.bind _ (executePackage_keeps sqlite supported checked)
        (fun _ => Triple.ret (fun _ ended => ended))

end Execution

/-! ## Coordination -/

/-- The transaction is over, and foreign keys are enforced unless a rebuild switched that off. -/
def Quiet (rebuild : Bool) (view : View Database) : Prop :=
  view.held = none ∧ (rebuild = false → view.enforcing = true)

theorem Ended.quiet {rebuild : Bool} {view : View Database} (holds : Ended rebuild view) :
    Quiet rebuild view := by
  subst holds
  exact ⟨rfl, fun plain => by rw [plain]; rfl⟩

section Coordination

variable {engine} {rebuild : Bool} {α : Type} {before : View Database → Prop}
  {returned : α → View Database → Prop} {raised : Stop → View Database → Prop}

/-- Calls that neither write nor commit are allowed everywhere. -/
theorem allowed_of_inert {request : Call Database} (notCommit : request ≠ .commit)
    (notWrite : ∀ schema update, request ≠ .write schema update) (view : View Database) :
    (sqliteRules engine).allowed request view := by
  rintro connection after - performed
  exact Or.inl (Sessions.perform_committed notCommit notWrite performed)

/-- Nothing is asked of a session that gave its connection up. -/
theorem discard_rule {after : Unit → View Database → Prop} :
    Triple (sqliteRules engine) before discard after raised :=
  fun view _ => ⟨allowed_of_inert (by nofun) (by nofun) view, fun _ _ answered => answered.elim⟩

/-- Only a living session goes on. -/
theorem isOpen_rule {rest : Bool → Action α}
    (continues : Triple (sqliteRules engine) before (rest true) returned raised) :
    Triple (sqliteRules engine) before (isOpen >>= rest) returned raised := by
  refine fun view holds => ⟨allowed_of_inert (by nofun) (by nofun) view, ?_⟩
  rintro reply after ⟨rfl, database, rfl⟩
  exact continues _ holds

/-- A call that raises as soon as it fails. -/
theorem perform_rule {request : Call Database} {after : View Database → Prop}
    (ordinary : request.ordinary = true)
    (allowed : ∀ view, before view → (sqliteRules engine).allowed request view)
    (performed : ∀ connection next : Connection Database, before connection.seen →
      connection.perform .transactional request = some next → after next.seen)
    (affected : ∀ (connection next : Connection Database) effect, before connection.seen →
      connection.affect .transactional request effect = some next →
        raised (.failed .driver) next.seen) :
    Triple (sqliteRules engine) before (perform request) (fun _ => after) raised := by
  intro view holds
  refine ⟨allowed view holds, ?_⟩
  intro reply last answered
  obtain ⟨connection, next, rfl, rfl, ⟨done, rfl⟩ | ⟨effect, failed, rfl⟩⟩ :=
    (Sessions.answers_ordinary ordinary).mp answered
  · exact performed connection next holds done
  · exact affected connection next effect holds failed

/-- The `except` of `_coordinated` ends the transaction or gives the connection up. -/
theorem unwind_rule (stop : Stop) :
    Triple (sqliteRules engine) (Fallen rebuild) (unwind stop) (fun _ => Quiet rebuild)
      raised := by
  refine Triple.bind (fun _ => Fallen rebuild) ?_ (fun _ => ?_)
  · unfold onlyIf
    split
    · exact discard_rule
    · exact Triple.ret (fun _ holds => holds)
  · refine isOpen_rule (Triple.handle (fun _ _ => True) ?_ (fun _ => discard_rule))
    refine perform_rule rfl (fun view _ => allowed_of_inert (by simp) (by simp) view) ?_
      (fun _ _ _ _ _ => trivial)
    intro connection next fallen performed
    refine ⟨?_, ?_⟩
    · simp only [Connection.perform] at performed
      split at performed
      · cases performed
        rfl
      · rename_i none
        cases performed
        cases held : connection.held with
        | none => simp only [Connection.seen, held, Option.map_none]
        | some transaction =>
          cases transaction with
          | some working => exact absurd held (none working)
          | none =>
            refine absurd ?_ (fallen.bound connection.committed)
            simp only [Connection.seen, held, Option.map_some]
    · intro plain
      exact (Sessions.perform_enforcing (by simp) performed).trans (fallen.switch plain)

/-- The `finally` of `_coordinated` restores enforcement or gives the connection up. -/
theorem leave_rule (sqlite : engine.sqlite = true) (acquired failed : Bool) :
    Triple (sqliteRules engine) (Quiet rebuild) (leave engine rebuild acquired failed)
      (fun _ => Settled) raised := by
  refine isOpen_rule (Triple.handle (fun _ _ => True) ?_
    (fun _ => Triple.bind (fun _ _ => False) discard_rule (fun _ _ impossible => impossible.elim)))
  refine Triple.bind (fun _ => Settled) ?_ (fun _ => ?_)
  · cases rebuild with
    | false =>
      refine Triple.ret (fun view quiet => ?_)
      obtain ⟨held, enforcing⟩ := view
      obtain ⟨rfl, switch⟩ := quiet
      exact congrArg (View.mk none) (switch rfl)
    | true =>
      refine perform_rule rfl (fun view _ => allowed_of_inert (by simp) (by simp) view) ?_
        (fun _ _ _ _ _ => trivial)
      intro connection next quiet performed
      have without : connection.held = none := Option.map_eq_none_iff.mp quiet.1
      simp only [Connection.perform, without, Option.some.injEq] at performed
      subst performed
      simp only [Settled, Connection.seen, without, Option.map_none]
  · rw [sqlite]
    exact Triple.ret (fun _ holds => holds)

/-- The start of `_coordinated` begins the transaction or leaves the session settled. -/
theorem enter_rule (sqlite : engine.sqlite = true) :
    Triple (sqliteRules engine) Settled (enter engine rebuild)
      (fun _ view => ∃ start, Working rebuild start start view) (fun _ => Settled) := by
  refine Triple.handle (fun _ => Fallen rebuild) ?_ (fun stop => ?_)
  · refine Triple.bind (fun _ => Ended rebuild) ?_ (fun _ => ?_)
    · cases rebuild with
      | false => exact Triple.ret (fun _ holds => holds)
      | true =>
        refine perform_rule rfl (fun view _ => allowed_of_inert (by simp) (by simp) view) ?_ ?_
        · intro connection next settled performed
          have without : connection.held = none :=
            Option.map_eq_none_iff.mp (congrArg View.held settled)
          simp only [Connection.perform, without, Option.some.injEq] at performed
          subst performed
          simp only [Ended, Connection.seen, without, Option.map_none, Bool.not_true]
        · intro connection next effect settled affected
          have bound : connection.held ≠ some none := by
            rw [Option.map_eq_none_iff.mp (congrArg View.held settled)]
            simp
          refine ⟨by simp, fun database held => ?_⟩
          simp only [Connection.seen, Option.map_eq_some_iff, Prod.mk.injEq] at held
          obtain ⟨transaction, held, -, rfl⟩ := held
          exact Sessions.affect_bound bound affected held
    · refine perform_rule rfl (fun view _ => allowed_of_inert (by simp) (by simp) view) ?_
        (fun _ _ _ ended affected => fallen_of_affected (by simp) ended.fallen affected)
      intro connection next ended performed
      have without : connection.held = none :=
        Option.map_eq_none_iff.mp (congrArg View.held ended)
      have switch : connection.enforcing = !rebuild := congrArg View.enforcing ended
      simp only [Connection.perform, without] at performed
      split at performed
      · cases performed
        refine ⟨connection.committed, ?_⟩
        simp only [Working, Connection.seen, Option.map_some, switch]
      · cases performed
  · refine Triple.bind (fun _ => Quiet rebuild) (unwind_rule stop) (fun _ => ?_)
    exact Triple.bind (fun _ => Settled) (leave_rule sqlite false true)
      (fun _ => Triple.raise (fun _ holds => holds))

/-- However the body of a coordinated method ends, a living session is settled. -/
theorem coordinated_rule (sqlite : engine.sqlite = true) {body : Action α}
    (keeps : Keeps engine rebuild (fun view => ∃ start, Working rebuild start start view) body
      (fun _ => Ended rebuild)) :
    Triple (sqliteRules engine) Settled (coordinated engine rebuild body) (fun _ => Settled)
      (fun _ => Settled) := by
  refine Triple.bind _ (enter_rule sqlite) (fun _ => ?_)
  refine Triple.ensuring (fun _ => Quiet rebuild) (fun _ => Quiet rebuild) ?_
    (fun _ => leave_rule sqlite true false) (fun _ => leave_rule sqlite true true)
  refine Triple.handle (fun _ => Fallen rebuild) ?_ (fun stop => ?_)
  · exact keeps.weaken (fun _ holds => holds) (fun _ _ ended => ended.quiet)
  · exact Triple.bind (fun _ => Quiet rebuild) (unwind_rule stop)
      (fun _ => Triple.raise (fun _ holds => holds))

end Coordination

/-! ## The methods -/

section Methods

variable {engine} {α : Type}

/-- A settled session stays settled. -/
def Calm {α : Type} (engine : Engine) (action : Action α) : Prop :=
  Triple (sqliteRules engine) Settled action (fun _ => Settled) (fun _ => Settled)

/-- Reading outside a transaction. -/
theorem reads_calm {action : Action α} (reads : Reads action) : Calm engine action := by
  induction action with
  | ret value => exact Triple.ret (fun _ holds => holds)
  | raise stop => exact Triple.raise (fun _ holds => holds)
  | call request next ih =>
    obtain ⟨rfl, returned, failed⟩ := reads
    intro view settled
    refine ⟨allowed_of_inert (by nofun) (by nofun) view, ?_⟩
    intro reply last answered
    obtain ⟨connection, after, rfl, rfl, ⟨done, rfl⟩ | ⟨effect, affected, rfl⟩⟩ :=
      (Sessions.answers_ordinary rfl).mp answered
    · cases done
      exact ih _ (returned _) _ settled
    · obtain ⟨stop, raised⟩ := failed .raised nofun
      rw [raised]
      have without : connection.held = none :=
        Option.map_eq_none_iff.mp (congrArg View.held settled)
      have same : after = connection := by
        cases effect with
        | rolledBack =>
          simp only [Connection.affect, Connection.perform, without, Option.some.injEq] at affected
          exact affected.symm
        | _ => exact (Option.some.inj affected).symm
      rw [same]
      exact settled

theorem Calm.bind {β : Type} {action : Action α} {rest : α → Action β}
    (first : Calm engine action) (second : ∀ value, Calm engine (rest value)) :
    Calm engine (action >>= rest) :=
  Triple.bind (fun _ => Settled) first second

theorem requireOpen_calm : Calm engine requireOpen :=
  isOpen_rule (reads_calm Reads.demand)

theorem prepare_calm (package : Package) (excluded preserve : Bool) :
    Calm engine (prepare engine package excluded preserve) := by
  refine requireOpen_calm.bind (fun _ => reads_calm ?_)
  refine Reads.lift.bind (fun _ => Reads.demand.bind (fun _ => Reads.demand.bind (fun _ => ?_)))
  refine (catalog_reads engine).bind (fun objects => (history_reads engine).bind (fun rows => ?_))
  refine Reads.lift.bind (fun alreadyApplied => Reads.demand.bind (fun _ =>
    Reads.lift.bind (fun _ => ?_)))
  cases alreadyApplied with
  | true => trivial
  | false => exact (admitPackage_reads engine package objects).bind (fun _ =>
    Reads.demand.bind (fun _ => Reads.lift.bind (fun _ => trivial)))

theorem apply_calm (sqlite : engine.sqlite = true) (prepared : Prepared) :
    Calm engine (apply engine prepared) :=
  requireOpen_calm.bind (fun _ => (reads_calm Reads.demand).bind (fun _ =>
    (reads_calm Reads.lift).bind (fun _ => (reads_calm Reads.demand).bind (fun _ =>
      (reads_calm Reads.demand).bind (fun _ =>
        coordinated_rule sqlite (applyCoordinated_keeps sqlite))))))

/-- Recovery is refused on SQLite before anything is locked. -/
theorem recovery_calm (sqlite : engine.sqlite = true) (prepared : Prepared) (excluded : Bool)
    (rest : Unit → Action α) :
    Calm engine (requireRecoveryAccess engine prepared excluded >>= rest) := by
  show Calm engine ((requireExecutionEpoch prepared.executionEpoch >>= fun _ =>
    demand (!engine.sqlite && excluded)
      "recovery requires MariaDB with external schema writers excluded" [] >>= _) >>= rest)
  rw [sqlite]
  unfold requireExecutionEpoch
  by_cases known : prepared.executionEpoch = 1
  · simp only [known, decide_true]
    exact Triple.raise (fun _ holds => holds)
  · simp only [known, decide_false]
    exact Triple.raise (fun _ holds => holds)

theorem method_calm (sqlite : engine.sqlite = true) (operation : Operation) :
    Calm engine (method engine operation) := by
  cases operation with
  | prepare package excluded preserve =>
    exact (prepare_calm package excluded preserve).bind (fun _ => Triple.ret (fun _ holds => holds))
  | apply prepared =>
    exact (apply_calm sqlite prepared).bind (fun _ => Triple.ret (fun _ holds => holds))
  | inspectRecovery prepared excluded =>
    exact (requireOpen_calm.bind (fun _ => recovery_calm sqlite _ _ _)).bind
      (fun _ => Triple.ret (fun _ holds => holds))
  | reconcile recovery reason excluded =>
    exact ((reads_calm Reads.demand).bind (fun _ => requireOpen_calm.bind (fun _ =>
      recovery_calm sqlite _ _ _))).bind (fun _ => Triple.ret (fun _ holds => holds))
  | resume recovery excluded =>
    exact (requireOpen_calm.bind (fun _ => recovery_calm sqlite _ _ _)).bind
      (fun _ => Triple.ret (fun _ holds => holds))

end Methods

end Snekql.RecordedTarget
