import Snekql.Runs
import Snekql.SqliteMigrations

/-!
# The moves of concurrent migration runs

Every driver call of a run amounts to one of a few moves on the committed
database, the writer transaction and that run. What the runs guarantee is then
proved move by move.
-/

namespace Snekql.SqliteMigrations

open Snekql.Migrations

/-- Giving up: the exception handler, or the caller, has taken over. -/
def Phase.ended : Phase → Bool
  | .unwinding => true
  | .failed => true
  | _ => false

/-- What one event can do. -/
inductive Move (chain : List Migration) (statements : Migration → List String) (state : State) :
    State → Prop where
  | enter (length : Nat) (adoptLegacy : Bool) :
      Move chain statements state
        { state with runs := state.runs ++ [Run.initial (chain.take length) adoptLegacy] }
  /-- A run begins its transaction, or is lost just after it has begun. -/
  | beginImmediate {index : Nat} {run : Run} (phase : Phase) (current : state.runs[index]? = some run)
      (ready : run.phase = .ready) (free : state.transaction = none)
      (next : phase = .begun ∨ phase = .failed) :
      Move chain statements state
        ((state.write index state.committed).setRun index { run with phase := phase })
  | ensure {index : Nat} {run : Run} {working database : Database} {adopted : Bool}
      (current : state.runs[index]? = some run) (begun : run.phase = .begun)
      (owned : state.transaction = some (index, working))
      (ensured : ensureV2History working run.plan run.adoptLegacy = .ok (database, adopted)) :
      Move chain statements state
        ((state.write index database).setRun index { run with
          phase := .ensured, legacyAdopted := adopted || run.legacyAdopted })
  /-- The history is complete. -/
  | complete {index : Nat} {run : Run} {working : Database}
      (current : state.runs[index]? = some run) (ensured : run.phase = .ensured)
      (owned : state.transaction = some (index, working))
      (valid : validateHistoryPrefix (fetchHistory working) run.plan false 0 = .ok ())
      (whole : (fetchHistory working).length = run.plan.length) :
      Move chain statements state
        (state.setRun index { run with
          phase := .committing none
          alreadyApplied := absorb run.applied run.alreadyApplied (fetchHistory working) })
  /-- A body is pending and is started. -/
  | start {index : Nat} {run : Run} {working : Database} {migration : Migration}
      (current : state.runs[index]? = some run) (ensured : run.phase = .ensured)
      (owned : state.transaction = some (index, working))
      (valid : validateHistoryPrefix (fetchHistory working) run.plan false 0 = .ok ())
      (pending : run.plan[(fetchHistory working).length]? = some migration) :
      Move chain statements state
        { state.setRun index { run with
            phase := .applying migration (statements migration)
            alreadyApplied := absorb run.applied run.alreadyApplied (fetchHistory working) } with
          started := state.started ++ [(index, migration.name)] }
  | statement {index : Nat} {run : Run} {working : Database} {migration : Migration}
      {statement : String} {rest : List String} (current : state.runs[index]? = some run)
      (applying : run.phase = .applying migration (statement :: rest))
      (owned : state.transaction = some (index, working)) :
      Move chain statements state
        ((state.write index { working with content := working.content ++ [statement] }).setRun index
          { run with phase := .applying migration rest })
  | record {index : Nat} {run : Run} {working database : Database} {migration : Migration}
      (current : state.runs[index]? = some run) (applying : run.phase = .applying migration [])
      (owned : state.transaction = some (index, working))
      (recorded : recordHistory working migration = some database) :
      Move chain statements state
        ((state.write index database).setRun index { run with phase := .committing (some migration) })
  /-- A commit takes effect; its acknowledgement arrives or is lost. -/
  | commit {index : Nat} {run : Run} {working : Database} {migration : Option Migration}
      (phase : Phase) (current : state.runs[index]? = some run)
      (committing : run.phase = .committing migration)
      (owned : state.transaction = some (index, working))
      (next : phase = .settled migration ∨ phase = .unwinding) :
      Move chain statements state
        ({ state with committed := working, transaction := none }.setRun index
          { run with phase := phase })
  | proceed {index : Nat} {run : Run} {migration : Option Migration}
      (current : state.runs[index]? = some run) (settled : run.phase = .settled migration) :
      Move chain statements state (state.setRun index (proceed run migration))
  /-- A run gives up without touching the database. -/
  | giveUp {index : Nat} {run : Run} (phase : Phase) (current : state.runs[index]? = some run)
      (unfinished : run.phase ≠ .returned) (next : phase.ended = true) :
      Move chain statements state (state.setRun index { run with phase := phase })
  /-- A run gives up and its transaction, if it had one, is gone. -/
  | abandon {index : Nat} {run : Run} (phase : Phase) (current : state.runs[index]? = some run)
      (unfinished : run.phase ≠ .returned) (next : phase.ended = true) :
      Move chain statements state
        ((state.dropTransaction index).setRun index { run with phase := phase })

theorem workingCopy_eq_some {state : State} {index : Nat} {working : Database}
    (owned : state.workingCopy index = some working) :
    state.transaction = some (index, working) := by
  unfold State.workingCopy at owned
  split at owned
  · next owner database transaction =>
    split at owned
    · next same =>
      rw [transaction, same, Option.some.inj owned]
    · cases owned
  · cases owned

section StepMoves

variable {chain : List Migration} {statements : Migration → List String} {state after : State}

theorem validate_moves {index : Nat} {run : Run} {working : Database}
    (current : state.runs[index]? = some run) (ensured : run.phase = .ensured)
    (owned : state.transaction = some (index, working)) :
    Move chain statements state (validate statements state index run working) := by
  have unfinished : run.phase ≠ .returned := by simp [ensured]
  unfold validate
  dsimp only
  split
  · exact Move.giveUp .unwinding current unfinished rfl
  · next valid =>
    split
    · next whole => exact Move.complete current ensured owned valid whole
    · split
      · next whole missing =>
        have short : (fetchHistory working).length ≤ run.plan.length := by
          unfold validateHistoryPrefix at valid
          split at valid
          · cases valid
          · omega
        rw [List.getElem?_eq_none_iff] at missing
        omega
      · next migration pending => exact Move.start current ensured owned valid pending

/-- Every event is one of the moves. -/
theorem step_moves {event : Event} (stepped : step chain statements state event = some after) :
    Move chain statements state after := by
  cases event <;> simp only [step] at stepped
  case enter length adoptLegacy =>
    cases stepped
    exact Move.enter length adoptLegacy
  case beginImmediate index =>
    split at stepped
    · next run current free =>
      split at stepped
      · next ready =>
        cases stepped
        exact Move.beginImmediate .begun current ready free (Or.inl rfl)
      · cases stepped
    · cases stepped
  case beginLost index =>
    split at stepped
    · next run current free =>
      split at stepped
      · next ready =>
        cases stepped
        exact Move.beginImmediate .failed current ready free (Or.inr rfl)
      · cases stepped
    · cases stepped
  case ensure index =>
    split at stepped
    · next run working current owned =>
      split at stepped
      · next begun =>
        split at stepped
        · next database adopted ensured =>
          cases stepped
          exact Move.ensure current begun (workingCopy_eq_some owned) ensured
        · cases stepped
          exact Move.giveUp .unwinding current (by simp [begun]) rfl
      · cases stepped
    · cases stepped
  case validate index =>
    split at stepped
    · next run working current owned =>
      split at stepped
      · next ensured =>
        cases stepped
        exact validate_moves current ensured (workingCopy_eq_some owned)
      · cases stepped
    · cases stepped
  case statement index =>
    split at stepped
    · next run working current owned =>
      split at stepped
      · next migration statement rest applying =>
        cases stepped
        exact Move.statement current applying (workingCopy_eq_some owned)
      · cases stepped
    · cases stepped
  case statementRaises index raised =>
    split at stepped
    · next run current =>
      split at stepped
      · next applying =>
        cases stepped
        exact Move.giveUp .unwinding current (by simp [applying]) rfl
      · next applying =>
        cases stepped
        exact Move.abandon .unwinding current (by simp [applying]) rfl
      · cases stepped
    · cases stepped
  case record index =>
    split at stepped
    · next run working current owned =>
      split at stepped
      · next migration applying =>
        split at stepped
        · next database recorded =>
          cases stepped
          exact Move.record current applying (workingCopy_eq_some owned) recorded
        · cases stepped
          exact Move.giveUp .unwinding current (by simp [applying]) rfl
      · cases stepped
    · cases stepped
  case commit index outcome =>
    split at stepped
    · next run working current owned =>
      split at stepped
      · next migration committing =>
        cases outcome with
        | acknowledged =>
          cases stepped
          exact Move.commit _ current committing (workingCopy_eq_some owned) (Or.inl rfl)
        | lost =>
          cases stepped
          exact Move.commit _ current committing (workingCopy_eq_some owned) (Or.inr rfl)
        | rejected =>
          cases stepped
          exact Move.giveUp .unwinding current (by simp [committing]) rfl
      · cases stepped
    · cases stepped
  case proceed index =>
    split at stepped
    · next run current =>
      split at stepped
      · next migration settled =>
        cases stepped
        exact Move.proceed current settled
      · cases stepped
    · cases stepped
  case fail index =>
    split at stepped
    · next run current =>
      split at stepped
      · cases stepped
      · cases stepped
      · next ready =>
        cases stepped
        exact Move.giveUp .failed current (by simp [ready]) rfl
      · next unfinished _ _ =>
        cases stepped
        exact Move.giveUp .unwinding current unfinished rfl
    · cases stepped
  case rollback index =>
    split at stepped
    · next run current =>
      split at stepped
      · next unwinding =>
        cases stepped
        exact Move.abandon .failed current (by simp [unwinding]) rfl
      · cases stepped
    · cases stepped
  case disconnect index =>
    split at stepped
    · next run current =>
      split at stepped
      · cases stepped
      · next unfinished =>
        cases stepped
        exact Move.abandon .failed current unfinished rfl
    · cases stepped

end StepMoves

end Snekql.SqliteMigrations
