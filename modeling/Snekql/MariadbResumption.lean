import Snekql.MariadbAdoption

/-!
# Runs of the MariaDB migrator

What any number of interrupted runs keep. A property of the committed table and of the bodies
that completed is carried through a run if the adoption keeps it and if one recorded migration
keeps it. Two properties are carried in this way: the stages of an adoption, and that every
recorded name was there at the start or belongs to a body that ran to its end.
-/

namespace Snekql.MariadbHistory

open Snekql.Migrations
open Snekql.Interruption

/-! ## Bodies -/

/-- No implicit commit inside the body publishes a change of the history table. -/
def Quiet (start : Table) : Table → List BodyStatement → Prop
  | _, [] => True
  | current, statement :: rest =>
    (statement.commits = true →
      current = start ∧ ∀ next, statement.effect current = .ok next → next = start) ∧
    ∀ next, statement.effect current = .ok next → Quiet start next rest

/-- A quiet body leaves the committed table as it was, wherever it stops. -/
theorem runBody_triple {start : Table} {current : Table} {body : List BodyStatement}
    (quiet : Quiet start current body) (completed : List String) :
    Triple (fun server => server = { committed := start, working := current, completed })
      (runBody body)
      (stopping (fun _ server => server.committed = start ∧ server.completed = completed)
        (fun server => server.committed = start ∧ server.completed = completed)) := by
  induction body generalizing current with
  | nil =>
    refine Triple.pure ?_
    rintro server rfl
    exact ⟨rfl, rfl⟩
  | cons statement rest ih =>
    obtain ⟨commits, onward⟩ := quiet
    refine Triple.bind (fun _ server => ∃ next, statement.effect current = .ok next ∧
        server = { committed := start, working := next, completed }) ?_ (fun _ => ?_)
    · unfold BodyStatement.run
      split
      · rename_i implicit
        obtain ⟨rfl, unchanged⟩ := commits implicit
        refine schemaStatement_triple ?_ ?_ ?_
        · rintro server rfl
          exact ⟨rfl, rfl⟩
        · rintro server table rfl happened
          obtain rfl := unchanged table happened
          exact ⟨table, happened, rfl⟩
        · rintro server failure rfl _
          exact ⟨rfl, rfl⟩
      · refine rowStatement_triple ?_ ?_ ?_
        · rintro server rfl
          exact ⟨rfl, rfl⟩
        · rintro server table rfl happened
          exact ⟨table, happened, rfl⟩
        · rintro server failure rfl _
          exact ⟨rfl, rfl⟩
    · rintro process ⟨next, happened, start⟩
      exact ih (onward next happened) process start

/-! ## Recording -/

/-- With a required head the history is exactly the declaration. -/
theorem validateHistoryPrefix_head {actual : List MigrationRecord} {expected : List Migration}
    (numbered : ∀ index migration, expected[index]? = some migration →
      migration.position = index + 1)
    (accepted : validateHistoryPrefix actual expected true 0 = .ok ()) :
    actual = expected.map Migration.historyRecord := by
  have loose : validateHistoryPrefix actual expected false 0 = .ok () ∧
      expected.length ≤ actual.length := by
    unfold validateHistoryPrefix at accepted ⊢
    split at accepted
    · cases accepted
    · cases compared : validateRecords 1 actual expected with
      | error error =>
        rw [compared] at accepted
        cases accepted
      | ok _ =>
        rw [compared] at accepted
        simp only [bind, Except.bind, if_true] at accepted
        split at accepted
        · split at accepted <;> cases accepted
        · rename_i complete
          exact ⟨by rw [if_neg (by assumption)]; rfl, by omega⟩
  have inside := (validateHistoryPrefix_ok_iff numbered).mp loose.1
  refine inside.eq_of_length_le ?_
  rw [List.length_map]
  exact loose.2

/-- Only the final format has a history to read. -/
theorem selectHistory_ok {table : Table} {history : List MigrationRecord}
    (selected : selectHistory table = .ok history) :
    ∃ rows, table = .v2 rows ∧ history = historyOf rows := by
  cases table with
  | v2 rows =>
    cases selected
    exact ⟨rows, rfl, rfl⟩
  | absent | v1 | staging | other => cases selected

theorem eq_settled {server : Server} {table : Table} (view : server.working = server.committed)
    (committed : server.committed = table) : server = settled table server.completed := by
  obtain ⟨_, _, completed⟩ := server
  dsimp only at view committed
  subst view committed
  rfl

/-- A property that one more recorded migration keeps. -/
structure Extends (plan : List Migration) (kept : Table → List String → Prop) : Prop where
  grows : ∀ table completed name, kept table completed → kept table (completed ++ [name])
  records : ∀ index migration rows next completed, plan[index]? = some migration →
    kept (.v2 rows) completed →
    historyOf rows = (plan.take index).map Migration.historyRecord →
    historyOf next = (plan.take (index + 1)).map Migration.historyRecord →
    migration.name ∈ completed → kept (.v2 next) completed

/-- No transaction is open, and the property holds. -/
def Held (kept : Table → List String → Prop) (server : Server) : Prop :=
  server.working = server.committed ∧ kept server.committed server.completed

/-- Ready for the migration with the given index. -/
def Ready (plan : List Migration) (kept : Table → List String → Prop) (index : Nat)
    (server : Server) : Prop :=
  ∃ rows completed, server = settled (.v2 rows) completed ∧ kept (.v2 rows) completed ∧
    historyOf rows = (plan.take index).map Migration.historyRecord

section

variable {plan : List Migration} (prepared : Prepared plan)
  {kept : Table → List String → Prop} (extension : Extends plan kept)

include prepared extension

/-- A migration is recorded with the whole declared prefix, or not at all. -/
theorem recordMigration_triple {index : Nat} {migration : Migration}
    (planned : plan[index]? = some migration) {rows : List HistoryRow} {completed : List String}
    (holds : kept (.v2 rows) completed)
    (history : historyOf rows = (plan.take index).map Migration.historyRecord)
    (ran : migration.name ∈ completed) (now : String) :
    Triple (fun server => server.committed = .v2 rows ∧ server.completed = completed)
      (recordMigration migration (plan.take (index + 1)) now)
      (stopping (fun _ => Ready plan kept (index + 1))
        (fun server => kept server.committed server.completed)) := by
  have unchanged (server : Server)
      (start : server.committed = .v2 rows ∧ server.completed = completed) :
      kept server.committed server.completed := by
    rw [start.1, start.2]
    exact holds
  refine Triple.bind (fun _ server => server.committed = .v2 rows ∧ server.completed = completed)
    (rowStatement_triple unchanged (fun _ _ start _ => start)
      (fun server _ start _ => unchanged server start)) (fun _ => ?_)
  refine Triple.bind (fun _ server => server.committed = .v2 rows ∧ server.completed = completed)
    (expectV2_triple unchanged (fun _ start _ => start)
      (fun server start _ => unchanged server start)) (fun _ => ?_)
  refine Triple.bind (fun read server =>
      (server.committed = .v2 rows ∧ server.completed = completed) ∧
        ∃ next, server.working = .v2 next ∧ read = historyOf next)
    (query_triple unchanged ?_ (fun server _ start _ => unchanged server start)) (fun read => ?_)
  · intro server value start selected
    exact ⟨start, selectHistory_ok selected⟩
  refine Triple.bind (fun _ server =>
      (server.committed = .v2 rows ∧ server.completed = completed) ∧ ∃ next,
        server.working = .v2 next ∧
          historyOf next = (plan.take (index + 1)).map Migration.historyRecord)
    (checked_triple ?_ (fun server _ start _ => unchanged server start.1))
    (fun _ => commit_triple (fun server start => unchanged server start.1) ?_)
  · rintro server _ ⟨start, next, view, rfl⟩ accepted
    exact ⟨start, next, view,
      validateHistoryPrefix_head (prepared.take (index + 1)).numbered accepted⟩
  · rintro ⟨committed, working, done⟩ ⟨⟨rfl, rfl⟩, next, rfl, written⟩
    exact ⟨next, done, rfl,
      extension.records index migration rows next done planned holds history written ran, written⟩

/-- One round of the loop. -/
theorem applyBodyAndHistory_triple {index : Nat} {migration : Migration}
    (planned : plan[index]? = some migration) {body : List BodyStatement}
    (quiet : ∀ table, Quiet table table body) (now : String) :
    Triple (Ready plan kept index)
      (applyBodyAndHistory body migration (plan.take migration.position) now)
      (stopping (fun _ => Ready plan kept (index + 1))
        (fun server => kept server.committed server.completed)) := by
  rw [prepared.numbered index migration planned]
  rintro process ⟨rows, completed, start, holds, history⟩
  have noted : kept (.v2 rows) (completed ++ [migration.name]) :=
    extension.grows _ _ migration.name holds
  have program : Triple (fun server => server = settled (.v2 rows) completed)
      (applyBodyAndHistory body migration (plan.take (index + 1)) now)
      (stopping (fun _ => Ready plan kept (index + 1))
        (fun server => kept server.committed server.completed)) := by
    refine Triple.bind (fun _ server => server = settled (.v2 rows) completed)
      (commit_triple ?_ ?_) (fun _ => ?_)
    · rintro server rfl
      exact holds
    · rintro server rfl
      rfl
    refine Triple.bind (fun _ server => server.committed = .v2 rows ∧ server.completed = completed)
      (Triple.cleaning ?_) (fun _ => ?_)
    · refine (runBody_triple (quiet (.v2 rows)) completed).weaken (fun server start => start)
        (fun _ _ reached => reached) ?_ ?_
      · rintro _ ⟨_, _, _⟩ ⟨rfl, rfl⟩
        exact holds
      · rintro ⟨_, _, _⟩ ⟨rfl, rfl⟩
        exact holds
    refine Triple.bind (fun _ server => server.committed = .v2 rows ∧
        server.completed = completed ++ [migration.name]) (Triple.change ?_)
      (fun _ => Triple.cleaning ?_)
    · rintro ⟨_, _, _⟩ ⟨rfl, rfl⟩
      exact ⟨rfl, rfl⟩
    · exact recordMigration_triple prepared extension planned noted history (by simp) now
  exact program process start

/-- The pending migrations, one after the other. -/
theorem applyPending_triple {bodies : Migration → List BodyStatement}
    (quiet : ∀ migration ∈ plan, ∀ table, Quiet table table (bodies migration)) (now : String)
    (index : Nat) :
    Triple (Ready plan kept index) (applyPending bodies now plan (plan.drop index))
      (stopping (fun _ => Held kept) (fun server => kept server.committed server.completed)) := by
  generalize pending : plan.drop index = rest
  induction rest generalizing index with
  | nil =>
    refine Triple.pure ?_
    rintro server ⟨rows, completed, rfl, holds, _⟩
    exact ⟨rfl, holds⟩
  | cons migration rest ih =>
    have planned : plan[index]? = some migration := by
      rw [← List.head?_drop, pending]
      rfl
    have later : plan.drop (index + 1) = rest := by
      rw [← List.tail_drop, pending]
      rfl
    refine Triple.bind (fun _ => Ready plan kept (index + 1))
      (applyBodyAndHistory_triple prepared extension planned
        (quiet migration (List.mem_of_getElem? planned)) now) (fun _ => ?_)
    refine Triple.bind (fun _ => Held kept) (ih (index + 1) later) (fun _ => ?_)
    exact Triple.pure (fun server reached => reached)

/-- A run keeps what the adoption and the recording of a migration keep. -/
theorem applyMariadbMigrations_triple {bodies : Migration → List BodyStatement}
    (quiet : ∀ migration ∈ plan, ∀ table, Quiet table table (bodies migration)) (now : String)
    {adoptLegacy : Bool}
    (adoption : Triple (Held kept) (ensureV2History plan adoptLegacy)
      (stopping (fun _ => Held kept) (fun server => kept server.committed server.completed))) :
    Triple (Held kept) (applyMariadbMigrations bodies now plan adoptLegacy)
      (stopping (fun _ => Held kept) (Held kept)) := by
  have program : Triple (Held kept) (do
      let legacyAdopted ← ensureV2History plan adoptLegacy
      let history ← fetchHistory
      checked (validateHistoryPrefix history plan false 0)
      change Server.rollback
      let applied ← applyPending bodies now plan (plan.drop history.length)
      return { applied, alreadyApplied := history.map MigrationRecord.name, legacyAdopted })
      (stopping (fun (_ : MigrationResult) => Held kept)
        (fun server => kept server.committed server.completed)) := by
    refine Triple.bind (fun _ => Held kept) adoption (fun _ => ?_)
    refine Triple.bind (fun history server => Held kept server ∧
        ∃ rows, server.committed = .v2 rows ∧ history = historyOf rows)
      (query_triple (fun server start => start.2) ?_ (fun server _ start _ => start.2))
      (fun history => ?_)
    · rintro server value start selected
      rw [start.1] at selected
      exact ⟨start, selectHistory_ok selected⟩
    refine Triple.bind (fun _ => Ready plan kept history.length)
      (checked_triple ?_ (fun server _ start _ => start.1.2)) (fun _ => ?_)
    · rintro server _ ⟨⟨view, holds⟩, rows, committed, rfl⟩ accepted
      refine ⟨rows, server.completed, eq_settled view committed, committed ▸ holds, ?_⟩
      have inside := (validateHistoryPrefix_ok_iff prepared.numbered).mp accepted
      rw [List.map_take]
      exact List.prefix_iff_eq_take.mp inside
    refine Triple.bind (fun _ => Ready plan kept history.length) (Triple.change ?_) (fun _ => ?_)
    · rintro server ⟨rows, completed, rfl, rest⟩
      exact ⟨rows, completed, rfl, rest⟩
    refine Triple.bind (fun _ => Held kept)
      (applyPending_triple prepared extension quiet now history.length) (fun _ => ?_)
    exact Triple.pure (fun server reached => reached)
  exact Triple.cleaning (program.weaken (fun _ start => start) (fun _ _ reached => reached)
    (fun _ _ holds => ⟨rfl, holds⟩) (fun _ holds => ⟨rfl, holds⟩))

/-- Any number of runs keep it. -/
theorem attempts_held {bodies : Migration → List BodyStatement}
    (quiet : ∀ migration ∈ plan, ∀ table, Quiet table table (bodies migration)) (now : String)
    (adoption : ∀ adoptLegacy, Triple (Held kept) (ensureV2History plan adoptLegacy)
      (stopping (fun _ => Held kept) (fun server => kept server.committed server.completed)))
    {server : Server} (start : Held kept server) (runs : List Attempt) :
    Held kept (attempts bodies now plan server runs) := by
  induction runs generalizing server with
  | nil => exact start
  | cons first rest ih =>
    refine ih ?_
    exact (applyMariadbMigrations_triple prepared extension quiet now
      (adoption first.adoptLegacy)).ends (fun _ _ held => held) (fun _ _ held => held)
      (fun _ held => held) start

end

/-! ## Stages -/

section

variable {plan : List Migration} (declared : Declared plan) {legacy : List LegacyRow}
  (distinct : (legacy.map LegacyRow.name).Nodup) {length : Nat} (fits : Fits plan legacy length)

include declared distinct fits

/-- A recorded migration keeps the stage. -/
theorem stage_extends :
    Extends plan (fun table _ => Stage plan legacy length table) where
  grows := fun _ _ _ stage => stage
  records := by
    intro index migration rows next _ planned stage before after _
    have bound : index < plan.length := (List.getElem?_eq_some_iff.mp planned).1
    have short := Fits.length_le declared distinct fits
    cases stage with
    | final _ count longer history =>
      have same := congrArg List.length (history.symm.trans before)
      simp only [List.length_map, List.length_take] at same
      exact .final next (index + 1) (by omega) after

theorem adoptedTable_stage {table : Table} (stage : Stage plan legacy length table) :
    Stage plan legacy length (adoptedTable plan legacy length table) := by
  have adopted : Stage plan legacy length (.v2 (legacy.map (adoptedRow (plan.take length)))) :=
    .final _ length (Nat.le_refl _) (Fits.history declared distinct fits)
  cases stage with
  | legacy | staging => exact adopted
  | final rows count longer history => exact .final rows count longer history

theorem stage_adoption (adoptLegacy : Bool) :
    Triple (Held (fun table _ => Stage plan legacy length table))
      (ensureV2History plan adoptLegacy)
      (stopping (fun _ => Held (fun table _ => Stage plan legacy length table))
        (fun server => Stage plan legacy length server.committed)) := by
  rintro process ⟨view, stage⟩
  refine (ensureV2History_triple declared distinct fits adoptLegacy stage
    process.state.completed).weaken (fun _ start => start) ?_ ?_ ?_ process
    (eq_settled view rfl)
  · rintro _ server rfl
    exact ⟨rfl, adoptedTable_stage declared distinct fits stage⟩
  · rintro _ server ⟨_, rfl⟩
    exact stage
  · exact fun server reached => reached.2

/-- With consent an uninterrupted adoption returns, from any stage. -/
theorem ensureV2History_returns {table : Table} (stage : Stage plan legacy length table)
    (completed : List String) :
    ∃ adopted process, ensureV2History plan true
        { state := settled table completed, patience := none } = (.ok adopted, process) ∧
      process.state.committed = adoptedTable plan legacy length table := by
  have adoption : Triple (fun server => server = settled table completed)
      (ensureV2History plan true)
      { returned := fun _ server => server.committed = adoptedTable plan legacy length table
        raised := fun _ _ => False
        interrupted := fun _ => True } :=
    (ensureV2History_triple declared distinct fits true stage completed).weaken
      (fun _ start => start) (fun _ _ reached => congrArg Server.committed reached)
      (fun _ _ refused => nomatch refused.1) (fun _ _ => trivial)
  exact adoption.returns rfl

end

/-! ## Recorded names -/

/-- Every recorded name was there at the start, or its body ran to its end. -/
def Accounted (start : Table) (table : Table) (completed : List String) : Prop :=
  ∀ name ∈ table.recorded, name ∈ start.recorded ∨ name ∈ completed

theorem accounted_extends (plan : List Migration) (start : Table) :
    Extends plan (Accounted start) where
  grows := by
    intro table completed name accounted other recorded
    obtain initial | ran := accounted other recorded
    · exact Or.inl initial
    · exact Or.inr (List.mem_append_left _ ran)
  records := by
    intro index migration rows next completed planned accounted before after ran name recorded
    have written := (recorded_of_historyOf after).mem_iff.mp recorded
    rw [List.take_add_one, planned, Option.toList_some, List.map_append, List.mem_append] at written
    obtain earlier | last := written
    · exact accounted name ((recorded_of_historyOf before).mem_iff.mpr earlier)
    · have same : name = migration.name := by simpa using last
      exact Or.inr (same ▸ ran)

/-- A statement that neither adds nor removes names. -/
def KeepsNames (update : Table → Except Failure Table) : Prop :=
  ∀ table next, update table = .ok next → next.recorded = table.recorded

theorem createHistory_keepsNames : KeepsNames createHistory := by
  intro table next created
  cases table with
  | absent =>
    cases created
    rfl
  | v1 | staging | v2 | other => cases created

theorem addStagingColumns_keepsNames : KeepsNames addStagingColumns := by
  intro table next added
  cases table with
  | v1 rows =>
    cases added
    simp only [Table.recorded, List.map_map]
    rfl
  | absent | staging | v2 | other => cases added

theorem updateStaging_keepsNames (migration : Migration) (name : String) :
    KeepsNames (updateStaging migration name) := by
  intro table next updated
  cases table with
  | staging rows =>
    cases updated
    simp only [Table.recorded, List.map_map]
    refine List.map_congr_left (fun row _ => ?_)
    simp only [Function.comp, StagingRow.updated]
    split <;> rfl
  | absent | v1 | v2 | other => cases updated

theorem final_names {rows : List StagingRow} {final : List HistoryRow}
    (finished : rows.mapM StagingRow.final = some final) :
    final.map HistoryRow.name = rows.map StagingRow.name := by
  induction rows generalizing final with
  | nil =>
    cases finished
    rfl
  | cons row rest ih =>
    simp only [List.mapM_cons, Option.bind_eq_bind, Option.bind_eq_some_iff] at finished
    obtain ⟨first, one, later, others, both⟩ := finished
    cases both
    have named : first.name = row.name := by
      unfold StagingRow.final at one
      split at one
      · cases one
        rfl
      · cases one
    rw [List.map_cons, List.map_cons, named, ih others]

theorem finalizeStaging_keepsNames : KeepsNames finalizeStaging := by
  intro table next finalized
  cases table with
  | staging rows =>
    simp only [finalizeStaging] at finalized
    cases finished : rows.mapM StagingRow.final with
    | none =>
      rw [finished] at finalized
      cases finalized
    | some final =>
      simp only [finished] at finalized
      split at finalized
      · cases finalized
        exact final_names finished
      · cases finalized
  | absent | v1 | v2 | other => cases finalized

/-- Both tables record the given names, and no body completes. -/
def Names (names completed : List String) (server : Server) : Prop :=
  server.committed.recorded = names ∧ server.working.recorded = names ∧
    server.completed = completed

section

variable {names completed : List String}

/-- The promise of a program that only moves names between formats. -/
def naming (names completed : List String) {α : Type} : Promise Server Failure α :=
  stopping (fun _ => Names names completed) (Names names completed)

/-- The same, with no transaction open at the end. -/
def settling (names completed : List String) {α : Type} : Promise Server Failure α :=
  stopping (fun _ server => Names names completed server ∧ server.working = server.committed)
    (Names names completed)

theorem query_names {α : Type} (read : Table → Except Failure α) :
    Triple (Names names completed) (query read) (naming names completed) :=
  query_triple (fun _ start => start) (fun _ _ start _ => start) (fun _ _ start _ => start)

theorem checked_names {α : Type} (outcome : Except HistoryError α) :
    Triple (Names names completed) (checked outcome) (naming names completed) :=
  checked_triple (fun _ _ start _ => start) (fun _ _ start _ => start)

theorem rowStatement_names {update : Table → Except Failure Table} (keeps : KeepsNames update) :
    Triple (Names names completed) (rowStatement update) (naming names completed) := by
  refine rowStatement_triple (fun _ start => start) ?_ (fun _ _ start _ => start)
  rintro server table ⟨committed, working, done⟩ updated
  exact ⟨committed, (keeps _ _ updated).trans working, done⟩

theorem schemaStatement_names {update : Table → Except Failure Table} (keeps : KeepsNames update) :
    Triple (Names names completed) (schemaStatement update)
      (settling names completed) := by
  refine schemaStatement_triple (fun _ start => start) ?_ ?_
  · rintro server table ⟨committed, working, done⟩ updated
    have kept := (keeps _ _ updated).trans working
    exact ⟨⟨kept, kept, done⟩, rfl⟩
  · rintro server failure ⟨committed, working, done⟩ _
    exact ⟨working, working, done⟩

theorem expectV2_names (failure : Failure) :
    Triple (fun server => Names names completed server ∧ server.working = server.committed)
      (expectV2 failure)
      (settling names completed) :=
  expectV2_triple (fun _ start => start.1) (fun _ start _ => start) (fun _ start _ => start.1)

theorem fillRows_names (expected : String → Option Migration) (rows : List StagingRow) :
    Triple (Names names completed) (fillRows expected rows) (naming names completed) := by
  induction rows with
  | nil => exact Triple.pure (fun _ start => start)
  | cons row rest ih =>
    unfold fillRows
    split
    · exact Triple.fail (fun _ start => start)
    · split
      · exact Triple.bind _ (rowStatement_names (updateStaging_keepsNames _ _))
          (fun _ => ih)
      · split
        · exact Triple.fail (fun _ start => start)
        · exact ih
      · exact Triple.fail (fun _ start => start)

theorem fillStagingHistory_names (plan : List Migration) :
    Triple (Names names completed) (fillStagingHistory plan)
      (settling names completed) := by
  refine Triple.bind (fun _ => Names names completed) (query_names selectStaging) (fun rows => ?_)
  refine Triple.bind (fun _ => Names names completed) (checked_names _) (fun length => ?_)
  refine Triple.bind (fun _ => Names names completed) (fillRows_names _ rows) (fun _ => ?_)
  refine Triple.bind (fun _ => Names names completed)
    (commit_triple (fun _ start => start) ?_) (fun _ => ?_)
  · rintro server ⟨_, working, done⟩
    exact ⟨working, working, done⟩
  refine Triple.bind _ (schemaStatement_names finalizeStaging_keepsNames) (fun _ => ?_)
  exact Triple.bind _ (expectV2_names _) (fun _ => Triple.pure (fun _ reached => reached))

theorem stageLegacy_names (plan : List Migration) (adoptLegacy : Bool) :
    Triple (Names names completed) (stageLegacy plan adoptLegacy) (naming names completed) := by
  refine Triple.bind (fun _ => Names names completed) (query_names selectLegacy) (fun rows => ?_)
  have staging : Triple (Names names completed)
      (checked (validateLegacyHistory (rows.map LegacyRow.name) plan) >>= fun _ =>
        schemaStatement addStagingColumns) (naming names completed) :=
    Triple.bind (fun _ => Names names completed) (checked_names _)
      (fun _ => (schemaStatement_names addStagingColumns_keepsNames).weaken (fun _ start => start)
        (fun _ _ reached => reached.1) (fun _ _ reached => reached) (fun _ reached => reached))
  by_cases refused : rows ≠ [] ∧ adoptLegacy = false
  · rw [if_pos refused]
    exact Triple.bind (fun _ => Names names completed) (Triple.fail (fun _ start => start))
      (fun _ => staging)
  · rw [if_neg refused]
    exact staging

/-- Whatever the table, an adoption moves names between formats and nothing else. -/
theorem ensureV2History_names (plan : List Migration) (adoptLegacy : Bool) :
    Triple (fun server => Names names completed server ∧ server.working = server.committed)
      (ensureV2History plan adoptLegacy)
      (settling names completed) := by
  refine Triple.bind (fun _ server => Names names completed server ∧
      server.working = server.committed)
    (query_triple (fun _ start => start.1) (fun _ _ start _ => start) (fun _ _ start _ => start.1))
    (fun shape => ?_)
  cases shape with
  | absent =>
    refine Triple.bind _ ((schemaStatement_names createHistory_keepsNames).strengthen
      (fun _ start => start.1)) (fun _ => ?_)
    exact Triple.bind _ (expectV2_names _) (fun _ => Triple.pure (fun _ reached => reached))
  | v2 => exact Triple.pure (fun _ start => start)
  | unknown => exact Triple.fail (fun _ start => start.1)
  | v1 =>
    exact Triple.bind (fun _ => Names names completed)
      ((stageLegacy_names plan adoptLegacy).strengthen (fun _ start => start.1))
      (fun _ => fillStagingHistory_names plan)
  | staging => exact (fillStagingHistory_names plan).strengthen (fun _ start => start.1)

end

theorem accounted_adoption (plan : List Migration) (start : Table) (adoptLegacy : Bool) :
    Triple (Held (Accounted start)) (ensureV2History plan adoptLegacy)
      (stopping (fun _ => Held (Accounted start))
        (fun server => Accounted start server.committed server.completed)) := by
  rintro process ⟨view, accounted⟩
  have carried {server : Server}
      (names : Names process.state.committed.recorded process.state.completed server) :
      Accounted start server.committed server.completed := by
    obtain ⟨committed, _, done⟩ := names
    rw [Accounted, committed, done]
    exact accounted
  refine (ensureV2History_names plan adoptLegacy).weaken (fun _ start => start) ?_ ?_ ?_ process
    ⟨⟨rfl, congrArg Table.recorded view, rfl⟩, view⟩
  · rintro _ server ⟨names, same⟩
    exact ⟨same, carried names⟩
  · exact fun _ server names => carried names
  · exact fun server names => carried names

/-! ## Refused declarations -/

/-- A legacy or staged table whose names are not those of a declared prefix. -/
def Mismatch (plan : List Migration) (table : Table) : Prop :=
  (table.shape = .v1 ∨ table.shape = .staging) ∧
    ∀ length, validateLegacyHistory table.recorded plan ≠ .ok length

section

variable {plan : List Migration} {completed : List String}

theorem stageLegacy_mismatch {rows : List LegacyRow}
    (differs : ∀ length, validateLegacyHistory (rows.map LegacyRow.name) plan ≠ .ok length)
    (adoptLegacy : Bool) :
    Triple (fun server => server = settled (.v1 rows) completed) (stageLegacy plan adoptLegacy)
      (stopping (fun _ _ => False) (fun server => server = settled (.v1 rows) completed)) := by
  refine Triple.step_at rfl rfl ?_
  by_cases refused : rows ≠ [] ∧ adoptLegacy = false
  · rw [if_pos refused]
    exact Triple.bind (fun _ _ => False) (Triple.fail (fun _ start => start))
      (fun _ _ impossible => impossible.elim)
  · rw [if_neg refused]
    refine Triple.bind (fun _ _ => False) (checked_triple ?_ (fun _ _ start _ => start))
      (fun _ _ impossible => impossible.elim)
    exact fun _ length _ validated => absurd validated (differs length)

theorem fillStagingHistory_mismatch {rows : List StagingRow}
    (differs : ∀ length, validateLegacyHistory (rows.map StagingRow.name) plan ≠ .ok length) :
    Triple (fun server => server = settled (.staging rows) completed) (fillStagingHistory plan)
      (stopping (fun _ _ => False) (fun server => server = settled (.staging rows) completed)) := by
  refine Triple.step_at rfl rfl ?_
  refine Triple.bind (fun _ _ => False) (checked_triple ?_ (fun _ _ start _ => start))
    (fun _ _ impossible => impossible.elim)
  exact fun _ length _ validated => absurd validated (differs length)

/-- The adoption refuses such a table as it finds it. -/
theorem ensureV2History_mismatch {table : Table} (mismatch : Mismatch plan table)
    (adoptLegacy : Bool) :
    Triple (fun server => server = settled table completed) (ensureV2History plan adoptLegacy)
      (stopping (fun _ _ => False) (fun server => server = settled table completed)) := by
  obtain ⟨shaped, differs⟩ := mismatch
  unfold ensureV2History fetchHistoryShape
  refine Triple.step_at rfl rfl ?_
  cases table with
  | v1 rows =>
    exact Triple.bind (fun _ _ => False) (stageLegacy_mismatch differs adoptLegacy)
      (fun _ _ impossible => impossible.elim)
  | staging rows => exact fillStagingHistory_mismatch differs
  | absent | v2 | other => obtain other | other := shaped <;> cases other

theorem applyMariadbMigrations_mismatch {table : Table} (mismatch : Mismatch plan table)
    (bodies : Migration → List BodyStatement) (now : String) (adoptLegacy : Bool) :
    Triple (fun server => server = settled table completed)
      (applyMariadbMigrations bodies now plan adoptLegacy)
      (stopping (fun _ _ => False) (fun server => server = settled table completed)) := by
  refine Triple.cleaning (Triple.bind (fun _ _ => False)
    ((ensureV2History_mismatch mismatch adoptLegacy).weaken (fun _ start => start)
      (fun _ _ reached => reached) ?_ ?_) (fun _ _ impossible => impossible.elim))
  · rintro _ server rfl
    rfl
  · rintro server rfl
    rfl

theorem attempts_mismatch {table : Table} (mismatch : Mismatch plan table)
    (bodies : Migration → List BodyStatement) (now : String) (runs : List Attempt) :
    attempts bodies now plan (settled table completed) runs = settled table completed := by
  induction runs with
  | nil => rfl
  | cons first rest ih =>
    have refused : attempt bodies now plan (settled table completed) first =
        settled table completed :=
      (applyMariadbMigrations_mismatch mismatch bodies now first.adoptLegacy).ends
        (fun _ _ impossible => impossible.elim) (fun _ _ kept => kept) (fun _ kept => kept) rfl
    unfold attempts at ih ⊢
    rw [List.foldl_cons, refused]
    exact ih

end

/-! ## The whole -/

/-- Runs of one declaration, each interrupted anywhere or nowhere, whose bodies publish no
change of the history table by an implicit commit. From a legacy history that the declaration
fits, the table stays at a stage of the adoption, and an uninterrupted adoption then ends with
exactly the declared records for the legacy rows. A legacy or staged history that it does not
fit is refused and left alone. In every run the names that the history records were there at
the start or belong to bodies that ran to their end. -/
theorem adoption_is_resumable {checksum : String → String}
    (digest : ∀ sql, isDigest (checksum sql) = true) {items : List (String × String)}
    (keys : (items.map Prod.fst).Nodup) {plan : List Migration}
    (prepared : prepareMigrations checksum items = .ok plan)
    {bodies : Migration → List BodyStatement}
    (quiet : ∀ migration ∈ plan, ∀ table, Quiet table table (bodies migration)) (now : String) :
    (∀ legacy length, (legacy.map LegacyRow.name).Nodup → Fits plan legacy length →
      historyOf (legacy.map (adoptedRow (plan.take length))) =
          (plan.take length).map Migration.historyRecord ∧
        ∀ runs, let server := attempts bodies now plan (Server.at (.v1 legacy)) runs
          Stage plan legacy length server.committed ∧
          ∃ adopted process, ensureV2History plan true { state := server, patience := none } =
              (.ok adopted, process) ∧
            process.state.committed = adoptedTable plan legacy length server.committed) ∧
    (∀ table, Mismatch plan table → ∀ runs,
      (attempts bodies now plan (Server.at table) runs).committed = table ∧
        ∀ adoptLegacy, ∃ failure process,
          applyMariadbMigrations bodies now plan adoptLegacy
            { state := Server.at table, patience := none } =
              (.error (.raised failure), process) ∧ process.state.committed = table) ∧
    ∀ start runs, let server := attempts bodies now plan (Server.at start) runs
      ∀ name ∈ server.committed.recorded, name ∈ start.recorded ∨ name ∈ server.completed := by
  have declared := prepareMigrations_declared digest keys prepared
  refine ⟨?_, ?_, ?_⟩
  · intro legacy length distinct fits
    refine ⟨Fits.history declared distinct fits, fun runs => ?_⟩
    have start : Held (fun table _ => Stage plan legacy length table) (Server.at (.v1 legacy)) :=
      ⟨rfl, .legacy⟩
    have held := attempts_held declared.toPrepared (stage_extends declared distinct fits) quiet now
      (stage_adoption declared distinct fits) start runs
    refine ⟨held.2, ?_⟩
    have returns := ensureV2History_returns declared distinct fits held.2
      (attempts bodies now plan (Server.at (.v1 legacy)) runs).completed
    rw [← eq_settled held.1 rfl] at returns
    exact returns
  · intro table mismatch runs
    refine ⟨congrArg Server.committed (attempts_mismatch mismatch bodies now runs), ?_⟩
    intro adoptLegacy
    obtain ⟨failure, process, raised, kept⟩ :=
      (applyMariadbMigrations_mismatch mismatch bodies now adoptLegacy).raises rfl
    exact ⟨failure, process, raised, congrArg Server.committed kept⟩
  · intro start runs
    exact (attempts_held declared.toPrepared (accounted_extends plan start) quiet now
      (accounted_adoption plan start) ⟨rfl, fun name recorded => Or.inl recorded⟩ runs).2

namespace Notes

/-- A stand-in for the digest. -/
def zeros (_ : String) : String := String.ofList (List.replicate 64 '0')

theorem isDigest_zeros (text : String) : isDigest (zeros text) = true := by
  have digits : (zeros text).toList = List.replicate 64 '0' := String.toList_ofList
  have length : (zeros text).length = 64 := by
    rw [← String.length_toList, digits, List.length_replicate]
  change (decide ((zeros text).length = 64) && (zeros text).toList.all
    (fun char => char.isDigit || "abcdef".toList.contains char)) = true
  rw [length, digits]
  simp

def items : List (String × String) :=
  [("first", "CREATE TABLE notes (id INT)"), ("second", "UPDATE notes SET id = id + 1")]

def plan : List Migration :=
  [{ position := 1, name := "first", checksum := zeros "", sql := "CREATE TABLE notes (id INT)" },
    { position := 2, name := "second", checksum := zeros "",
      sql := "UPDATE notes SET id = id + 1" }]

/-- Each body is one statement that leaves the history alone; the first commits implicitly. -/
def bodies (migration : Migration) : List BodyStatement :=
  [{ commits := migration.position == 1, effect := .ok }]

/-- Two legacy rows, in no particular order. -/
def legacy : List LegacyRow :=
  [{ name := "second", appliedAt := "later" }, { name := "first", appliedAt := "sooner" }]

theorem bodies_quiet (migration : Migration) (table : Table) :
    Quiet table table (bodies migration) := by
  refine ⟨fun _ => ⟨rfl, ?_⟩, fun _ _ => trivial⟩
  intro next same
  exact (Except.ok.inj same).symm

/-- Interrupted between the two updates, then before the final schema change. -/
theorem interrupted_adoption_resumes :
    let server := attempts bodies "now" plan (Server.at (.v1 legacy))
      [{ interruption := some 5, adoptLegacy := true },
        { interruption := some 5, adoptLegacy := false }]
    Stage plan legacy 2 server.committed ∧
      ∃ adopted process, ensureV2History plan true { state := server, patience := none } =
          (.ok adopted, process) ∧
        process.state.committed = adoptedTable plan legacy 2 server.committed :=
  ((@adoption_is_resumable zeros isDigest_zeros
    items (by decide) plan rfl bodies
    (fun migration _ table => bodies_quiet migration table) "now").1 legacy 2 (by decide) rfl).2 _

/-- A body that writes a history row of its own, commits it with a schema statement, and fails
at a missing table. -/
def presumptuousSql : String :=
  "INSERT INTO snekql_migrations VALUES (1,'first',REPEAT('f',64),NOW());" ++
    "CREATE TABLE t (i INT);SELECT 1 FROM u"

def presumptuousPlan : List Migration :=
  [{ position := 1, name := "first", checksum := zeros "", sql := presumptuousSql }]

/-- The row that the body writes. -/
def presumptuousRow : Migration :=
  { position := 1, name := "first", checksum := String.ofList (List.replicate 64 'f'), sql := "" }

def presumptuous (_ : Migration) : List BodyStatement :=
  [{ commits := false, effect := insertHistory presumptuousRow "now" },
    { commits := true, effect := .ok },
    { commits := false, effect := fun _ => .error .server }]

/-- The history then records a migration whose body did not run to its end. -/
theorem failed_body_is_recorded :
    prepareMigrations zeros [("first", presumptuousSql)] = .ok presumptuousPlan ∧
      attempts presumptuous "now" presumptuousPlan (Server.at .absent)
        [{ interruption := none, adoptLegacy := false }] =
          settled (.v2 [declaredRow presumptuousRow "now"]) [] := by
  decide +kernel

end Notes

end Snekql.MariadbHistory
