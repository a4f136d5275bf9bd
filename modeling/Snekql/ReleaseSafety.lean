import Snekql.Traces
import Snekql.TransactionCustody

/-!
# A released connection is clean, and the commit outcome is true

What a transaction did to its connection is on record. A connection may return to the pool
for the next user when its transaction has ended with an acknowledged `COMMIT` or
`ROLLBACK`, every savepoint was released, every setting that entry had overridden was
restored, and every operation that ended in a fault was a recognised constraint failure
whose savepoint was rolled back afterwards. `Settles` says what has to follow each entry.

While the transaction is open an entry may instead have an excuse: the scope of a savepoint
is still open, the failed scope of a fault is marked, the setting is on the list of those to
restore. A trusted connection has an excuse for whatever is missing. Leaving a scope and
closing the transaction remove excuses, each after the statement that replaces it.
-/

namespace Snekql.SharedTransaction

open Snekql.Transaction
open Snekql.Traces

/-! ## What a connection must have behind it -/

/-- What has to follow an entry before the connection may be released. -/
def Settles : Entry → List Entry → Prop
  | .faulted fault scope, after =>
    fault = .constraint ∧ ∃ name, scope = some name ∧ .rolledBackTo name ∈ after
  | .overrode pragma previous, after => .restored pragma previous ∈ after
  | .setTransaction, after => .commitAcknowledged ∈ after ∨ .rollbackAcknowledged ∈ after
  | .savepoint name, after => .released name ∈ after
  | _, _ => True

structure Returnable (log : List Entry) : Prop where
  ended : .commitAcknowledged ∈ log ∨ .rollbackAcknowledged ∈ log
  settled : Followed Settles log

/-- A reply to `COMMIT` by which the server says that nothing was committed: SQLite still
has the transaction open, InnoDB has rolled it back to break a deadlock. -/
def reportsUncommitted : Backend → Entry → Prop
  | .sqlite, .commitRefused _ inTransaction => inTransaction = true
  | .mariadb, .commitRefused error _ => error = .deadlock
  | _, _ => False

/-- What each outcome asserts about the driver boundary. -/
def Truthful (backend : Backend) (log : List Entry) : CommitOutcome → Prop
  | .notAttempted => .commitSent ∉ log
  | .committed => .commitAcknowledged ∈ log
  | .rejected => ∃ entry ∈ log, reportsUncommitted backend entry
  | .unknown => True

/-! ## Excuses -/

/-- An entry is settled, or has an excuse: a marked scope, a setting that is still to be
restored, a transaction that has not ended, a scope that is still open. -/
def Pending (core : Core) (restorable : List (Pragma × Bool)) (unended : Bool) :
    Entry → List Entry → Prop
  | .faulted fault scope, after =>
    fault = .constraint ∧ ∃ name, scope = some name ∧
      (.rolledBackTo name ∈ after ∨ core.scopeFailed name = true)
  | .overrode pragma previous, after =>
    .restored pragma previous ∈ after ∨ (pragma, previous) ∈ restorable
  | .setTransaction, after =>
    (.commitAcknowledged ∈ after ∨ .rollbackAcknowledged ∈ after) ∨ unended = true
  | .savepoint name, after =>
    .released name ∈ after ∨ name ∈ core.stack.map Scope.name
  | _, _ => True

/-- Every fault in this scope was followed by a return to its savepoint. -/
def Cleared (name : Nat) : Entry → List Entry → Prop
  | .faulted _ scope, after => scope = some name → .rolledBackTo name ∈ after
  | _, _ => True

variable {backend : Backend} {closer : Closer} {outcome : CommitOutcome} {entry : Entry}
  {rest log : List Entry} {task lease name : Nat} {state next : State}

section Excuses

variable {core after : Core} {restorable restored : List (Pragma × Bool)}
  {unended stillUnended : Bool}

/-- An entry stays pending while what settles it is kept and each of its excuses is kept or
replaced. -/
theorem Pending.imp {later : List Entry} (pending : Pending core restorable unended entry rest)
    (kept : rest ⊆ later)
    (failed : ∀ fault name, entry = .faulted fault (some name) → core.scopeFailed name = true →
      .rolledBackTo name ∈ later ∨ after.scopeFailed name = true)
    (names : ∀ name ∈ core.stack.map Scope.name,
      .released name ∈ later ∨ name ∈ after.stack.map Scope.name)
    (settings : ∀ pragma value, (pragma, value) ∈ restorable →
      .restored pragma value ∈ later ∨ (pragma, value) ∈ restored)
    (ended : unended = true →
      (.commitAcknowledged ∈ later ∨ .rollbackAcknowledged ∈ later) ∨ stillUnended = true) :
    Pending after restored stillUnended entry later := by
  cases entry with
  | faulted fault scope =>
    obtain ⟨isConstraint, name, rfl, excused⟩ := pending
    refine ⟨isConstraint, name, rfl, ?_⟩
    exact excused.elim (fun undone => .inl (kept undone)) (failed fault name rfl)
  | overrode pragma previous =>
    exact pending.elim (fun done => .inl (kept done)) (settings pragma previous)
  | setTransaction =>
    exact pending.elim (fun done => .inl (done.imp (@kept _) (@kept _))) ended
  | savepoint name => exact pending.elim (fun done => .inl (kept done)) (names name)
  | _ => trivial

/-- A new entry replaces the excuses that go. -/
theorem Pending.grow {last : Entry} (pending : Pending core restorable unended entry rest)
    (failed : ∀ name, core.scopeFailed name = true →
      last = .rolledBackTo name ∨ after.scopeFailed name = true)
    (names : ∀ name ∈ core.stack.map Scope.name,
      last = .released name ∨ name ∈ after.stack.map Scope.name)
    (settings : ∀ pragma value, (pragma, value) ∈ restorable →
      last = .restored pragma value ∨ (pragma, value) ∈ restored)
    (ended : unended = true →
      (last = .commitAcknowledged ∨ last = .rollbackAcknowledged) ∨ stillUnended = true) :
    Pending after restored stillUnended entry (rest ++ [last]) := by
  have recorded {entry : Entry} (isLast : last = entry) : entry ∈ rest ++ [last] := by
    simp [isLast]
  exact pending.imp (List.subset_append_left _ _)
    (fun _ name _ marked => (failed name marked).imp_left recorded)
    (fun name onStack => (names name onStack).imp_left recorded)
    (fun pragma value listed => (settings pragma value listed).imp_left recorded)
    (fun running => (ended running).imp_left (Or.imp recorded recorded))

/-- The record of another entry changes no excuse. -/
theorem Pending.tell {last : Entry} (pending : Pending core restorable unended entry rest) :
    Pending core restorable unended entry (rest ++ [last]) :=
  pending.grow (fun _ => .inr) (fun _ => .inr) (fun _ _ => .inr) .inr

/-- Without excuses everything is settled. -/
theorem Pending.settles (pending : Pending core [] false entry rest) (empty : core.stack = []) :
    Settles entry rest := by
  cases entry with
  | faulted fault scope =>
    obtain ⟨isConstraint, name, isScope, undone | marked⟩ := pending
    · exact ⟨isConstraint, name, isScope, undone⟩
    · simp [Core.scopeFailed, empty] at marked
  | overrode | setTransaction => simpa [Pending, Settles] using pending
  | savepoint name => simpa [Pending, Settles, empty] using pending
  | _ => trivial

/-- The release of a savepoint replaces the excuse that its scope was, once the faults of
the scope are settled. -/
theorem Pending.pop (pending : Pending core restorable unended entry rest)
    (cleared : Cleared name entry rest)
    (innermost : (core.stack.map Scope.name).head? = some name) :
    Pending core.pop restorable unended entry (rest ++ [.released name]) := by
  cases stack : core.stack with
  | nil => simp [stack] at innermost
  | cons top outer =>
    have named : top.name = name := by simpa [stack] using innermost
    refine pending.imp (List.subset_append_left _ _) ?_ ?_ (fun _ _ => .inr) .inr
    · rintro fault scope rfl marked
      by_cases same : name = scope
      · exact .inl (List.mem_append_left _ (same ▸ cleared (congrArg some same.symm)))
      · right
        simpa [Core.scopeFailed, Core.pop, stack, named, same] using marked
    · intro scope onStack
      simp only [stack, List.map_cons, List.mem_cons, named] at onStack
      obtain rfl | outside := onStack
      · exact .inl (by simp)
      · exact .inr (by simpa [Core.pop, stack] using outside)

/-- A scope that is not marked has no fault left to settle. -/
theorem Pending.cleared (pending : Pending core restorable unended entry rest)
    (unmarked : core.scopeFailed name = false) : Cleared name entry rest := by
  cases entry with
  | faulted fault scope =>
    rintro rfl
    obtain ⟨_, faultScope, isScope, undone | marked⟩ := pending
    · obtain rfl := Option.some.inj isScope
      exact undone
    · obtain rfl := Option.some.inj isScope
      rw [unmarked] at marked
      cases marked
  | _ => trivial

end Excuses

/-! ## The invariant -/

/-- The settings that are still to be restored. -/
def State.restorable (state : State) : List (Pragma × Bool) :=
  match state.closer with
  | .restoring _ _ rest => rest
  | _ => state.previous

/-- The end of the transaction has not been acknowledged to the closing task. -/
def Closer.unended : Closer → Bool
  | .restoring _ _ _ => false
  | .returning => false
  | _ => true

/-- The entry has begun to talk to its connection. -/
def Entrance.underway (config : Config) : Entrance → Bool
  | .beginning _ calls => calls != config.beginCalls
  | _ => false

/-- The outcomes and the record of the commit, by where the closing task is. -/
def Stage (backend : Backend) (log : List Entry) (outcome adapter : CommitOutcome) : Closer → Prop
  | .absent => outcome = .notAttempted ∧ .commitSent ∉ log
  | .created _ _ => outcome = .notAttempted ∧ .commitSent ∉ log
  | .waiting _ _ => outcome = .notAttempted ∧ .commitSent ∉ log
  | .committing _ => outcome = .unknown ∧ Truthful backend log adapter
  | .rollingBack _ => outcome = .notAttempted ∧ .commitSent ∉ log
  | .restoring _ true _ =>
    outcome = .unknown ∧ adapter = .committed ∧ .commitAcknowledged ∈ log
  | .restoring _ false _ =>
    outcome = .notAttempted ∧ .commitSent ∉ log ∧ .rollbackAcknowledged ∈ log
  | .returning => Truthful backend log outcome
  | .finished => Truthful backend log outcome

structure Evidence (config : Config) (state : State) : Prop where
  pending : state.core.reusable = true →
    Followed (Pending state.core state.restorable state.closer.unended) state.log
  cleared : state.core.reusable = true → ∀ task name, state.tasks task = .releasing name →
    Followed (Cleared name) state.log
  unstarted : state.core.reusable = true → state.core.connection = none →
    state.core.closed = false →
    (∀ entrance ∈ state.entrance, entrance.2.underway config = false) → state.log = []
  calls : ∀ task lease calls, state.entrance = some (task, .beginning lease calls) →
    calls.length ≤ config.beginCalls.length
  unscoped : state.core.connection = none → state.core.stack = []
  stage : Stage config.backend state.log state.commitOutcome state.adapterOutcome state.closer
  released : ∀ lease, (lease, .release) ∈ state.returns →
    Returnable state.log ∧ state.core.closed = true ∧
      (state.closer = .returning ∨ state.closer = .finished)

theorem initial_evidence (config : Config) : Evidence config initial where
  pending := fun _ => trivial
  cleared := by intro _ task name releasing; cases releasing
  unstarted := fun _ _ _ _ => rfl
  calls := by intro task lease calls entering; cases entering
  unscoped := fun _ => rfl
  stage := ⟨rfl, List.not_mem_nil⟩
  released := by intro lease returned; cases returned

/-- A discarded connection was not released. -/
theorem released_of_discarded {returns : List (Nat × Return)} {other : Nat}
    (returned : (other, .release) ∈ returns ++ [(lease, .discard)]) :
    (other, .release) ∈ returns := by
  simpa using returned

/-- Only sending a commit can make an outcome false. -/
theorem Truthful.grow (told : Truthful backend log outcome) (other : entry ≠ .commitSent) :
    Truthful backend (log ++ [entry]) outcome := by
  cases outcome with
  | notAttempted =>
    intro sent
    obtain before | isLast := List.mem_append.mp sent
    · exact told before
    · exact other (List.mem_singleton.mp isLast).symm
  | committed => exact List.mem_append_left _ told
  | rejected =>
    obtain ⟨report, recorded, means⟩ := told
    exact ⟨report, List.mem_append_left _ recorded, means⟩
  | unknown => trivial

theorem Stage.grow {adapter : CommitOutcome} (stage : Stage backend log outcome adapter closer)
    (other : entry ≠ .commitSent) : Stage backend (log ++ [entry]) outcome adapter closer := by
  have unsent (absent : .commitSent ∉ log) : .commitSent ∉ log ++ [entry] := by
    simp [absent, other.symm]
  cases closer with
  | absent | created | waiting => exact ⟨stage.1, unsent stage.2⟩
  | committing lease => exact ⟨stage.1, stage.2.grow other⟩
  | rollingBack lease => exact ⟨stage.1, unsent stage.2⟩
  | restoring lease committing rest =>
    cases committing with
    | true => exact ⟨stage.1, stage.2.1, List.mem_append_left _ stage.2.2⟩
    | false => exact ⟨stage.1, unsent stage.2.1, List.mem_append_left _ stage.2.2⟩
  | returning | finished => exact Truthful.grow stage other

/-- Wherever the closing task is, the outcome is true. -/
theorem Stage.truthful {adapter : CommitOutcome} (stage : Stage backend log outcome adapter closer)
    :
    Truthful backend log outcome := by
  cases closer with
  | absent | created | waiting => rw [stage.1]; exact stage.2
  | committing lease => rw [stage.1]; trivial
  | rollingBack lease => rw [stage.1]; exact stage.2
  | restoring lease committing rest =>
    cases committing with
    | true => rw [stage.1]; trivial
    | false => rw [stage.1]; exact stage.2.1
  | returning => exact stage
  | finished => exact stage

namespace Evidence

variable {config : Config} {state next : State}

section Constructors

variable (calls : ∀ task lease calls, state.entrance = some (task, .beginning lease calls) →
    calls.length ≤ config.beginCalls.length)
  (unscoped : state.core.connection = none → state.core.stack = [])
  (stage : Stage config.backend state.log state.commitOutcome state.adapterOutcome state.closer)
  (released : ∀ lease, (lease, .release) ∈ state.returns →
    Returnable state.log ∧ state.core.closed = true ∧
      (state.closer = .returning ∨ state.closer = .finished))
include calls unscoped stage released

/-- A connection that lost its trust needs no excuses. -/
theorem of_distrusted (distrusted : state.core.reusable = false) : Evidence config state := by
  have untrusted {result : Prop} (trusted : state.core.reusable = true) : result := by
    rw [distrusted] at trusted
    cases trusted
  exact ⟨untrusted, untrusted, untrusted, calls, unscoped, stage, released⟩

/-- A transaction that is closed or has a connection, and in which nobody releases a
savepoint. -/
theorem of_quiet (started : state.core.connection = none → state.core.closed = true)
    (unreleasing : ∀ task name, state.tasks task ≠ .releasing name)
    (pending : state.core.reusable = true →
      Followed (Pending state.core state.restorable state.closer.unended) state.log) :
    Evidence config state := by
  refine ⟨pending, ?_, ?_, calls, unscoped, stage, released⟩
  · intro _ task name releasing
    exact absurd releasing (unreleasing task name)
  · intro _ vacant unclosed
    rw [started vacant] at unclosed
    cases unclosed

end Constructors

section

variable (evidence : Evidence config state)
include evidence

/-- Moves of tasks and of the lock that start no release of a savepoint. -/
theorem congr (core : next.core = state.core) (log : next.log = state.log)
    (returns : next.returns = state.returns) (closer : next.closer = state.closer)
    (entrance : next.entrance = state.entrance) (previous : next.previous = state.previous)
    (outcome : next.commitOutcome = state.commitOutcome)
    (adapter : next.adapterOutcome = state.adapterOutcome)
    (tasks : ∀ task name, next.tasks task = .releasing name → state.tasks task = .releasing name) :
    Evidence config next where
  pending := by
    have restorable : next.restorable = state.restorable := by
      unfold State.restorable
      rw [closer, previous]
    rw [core, log, closer, restorable]
    exact evidence.pending
  cleared := by
    rw [core, log]
    intro trusted task name releasing
    exact evidence.cleared trusted task name (tasks task name releasing)
  unstarted := by rw [core, log, entrance]; exact evidence.unstarted
  calls := by rw [entrance]; exact evidence.calls
  unscoped := by rw [core]; exact evidence.unscoped
  stage := by rw [log, outcome, adapter, closer]; exact evidence.stage
  released := by rw [returns, log, core, closer]; exact evidence.released

/-- A new phase that is not the release of a savepoint. -/
theorem setTask {phase : Phase} (unreleasing : ∀ name, phase ≠ .releasing name) :
    Evidence config (state.setTask task phase) := by
  refine evidence.congr rfl rfl rfl rfl rfl rfl rfl rfl ?_
  intro other name releasing
  by_cases same : other = task
  · subst same
    have phaseReleasing : phase = .releasing name := by simpa [State.setTask] using releasing
    exact absurd phaseReleasing (unreleasing name)
  · simpa [State.setTask, same] using releasing

theorem unlock : Evidence config state.unlock :=
  evidence.congr rfl rfl rfl rfl rfl rfl rfl rfl (fun _ _ => id)

theorem finish (task : Nat) : Evidence config (state.finish task) :=
  (evidence.setTask (by simp)).unlock

theorem request (party : Party) : Evidence config (state.request party) := by
  unfold State.request
  split <;> exact evidence.congr rfl rfl rfl rfl rfl rfl rfl rfl (fun _ _ => id)

theorem withdraw (party : Party) : Evidence config (state.withdraw party) := by
  unfold State.withdraw
  split
  · exact evidence.unlock
  · exact evidence.congr rfl rfl rfl rfl rfl rfl rfl rfl (fun _ _ => id)

theorem distrust : Evidence config state.distrust :=
  of_distrusted evidence.calls evidence.unscoped evidence.stage evidence.released rfl

/-- While the transaction is open, nothing was released. -/
theorem unreleased (unclosed : state.core.closed = false) (lease : Nat) :
    (lease, .release) ∉ state.returns := by
  intro returned
  obtain ⟨_, closed, _⟩ := evidence.released lease returned
  rw [unclosed] at closed
  cases closed

/-- A fault that costs the trust in the connection. -/
theorem strike_distrusted {recoverConstraints : Bool} {fault : Fault} (settled : state.core.settle recoverConstraints fault =
      { state.core with reusable := false })
    (unreleased : ∀ lease, (lease, .release) ∉ state.returns) :
    Evidence config (state.strike recoverConstraints fault) := by
  refine of_distrusted evidence.calls ?_ (evidence.stage.grow (by simp))
    (fun lease returned => absurd returned (unreleased lease)) ?_
  · simp only [State.strike, settled]
    exact evidence.unscoped
  · simp [State.strike, settled]

theorem strike_false (fault : Fault) (unreleased : ∀ lease, (lease, .release) ∉ state.returns) :
    Evidence config (state.strike false fault) := by
  obtain settled | ⟨recovered, _⟩ := state.core.settle_cases false fault
  · exact evidence.strike_distrusted settled unreleased
  · cases recovered

/-- A constraint failure in a scope is excused by the mark on the scope. -/
theorem strike_true (fault : Fault) (unreleased : ∀ lease, (lease, .release) ∉ state.returns)
    (unreleasing : ∀ task name, state.tasks task ≠ .releasing name) :
    Evidence config (state.strike true fault) := by
  obtain settled | ⟨_, rfl, trusted, top, rest, stack, settled⟩ := state.core.settle_cases true fault
  · exact evidence.strike_distrusted settled unreleased
  have marked : ({ state.core with stack := { top with failed := true } :: rest } :
      Core).scopeFailed top.name = true := by
    simp [Core.scopeFailed]
  refine ⟨?_, ?_, ?_, evidence.calls, ?_, evidence.stage.grow (by simp),
    fun lease returned => absurd returned (unreleased lease)⟩
  · intro _
    simp only [State.strike, settled, stack]
    refine (evidence.pending trusted).snoc ?_ ⟨rfl, top.name, rfl, .inr marked⟩
    intro entry after pending
    refine pending.grow ?_ ?_ (fun pragma value listed => .inr listed) (fun running => .inr running)
    · intro name failed
      refine .inr ?_
      by_cases same : top.name = name
      · exact same ▸ marked
      · simpa [Core.scopeFailed, stack, same] using failed
    · intro name onStack
      refine .inr ?_
      simpa [stack] using onStack
  · intro _ task name releasing
    exact absurd releasing (unreleasing task name)
  · intro _ vacant
    have empty := evidence.unscoped (by simpa [State.strike, settled] using vacant)
    rw [stack] at empty
    cases empty
  · intro vacant
    have empty := evidence.unscoped (by simpa [State.strike, settled] using vacant)
    rw [stack] at empty
    cases empty

end

/-- Nobody else releases a savepoint while a task works. -/
theorem unreleasing (custody : Custody state) (working : (state.tasks task).working = true)
    (own : ∀ name, state.tasks task ≠ .releasing name) (other name : Nat) :
    state.tasks other ≠ .releasing name := by
  intro releasing
  have otherWorking : (state.tasks other).working = true := by rw [releasing]; rfl
  obtain rfl := custody.exclusive working otherWorking
  exact own name releasing

/-- A task works on the connection of the transaction. -/
theorem connected (custody : Custody state) (working : (state.tasks task).working = true) :
    state.core.connection ≠ none := by
  intro vacant
  have leased := custody.leased task working
  rw [vacant] at leased
  cases leased

section

variable (evidence : Evidence config state)
include evidence

/-- A transaction in which a task works is not closed, so nothing was released. -/
theorem unreleased_of_working (custody : Custody state)
    (working : (state.tasks task).working = true) (lease : Nat) :
    (lease, .release) ∉ state.returns := by
  apply evidence.unreleased
  cases closed : state.core.closed with
  | false => rfl
  | true => exact absurd (custody.taken closed) (connected custody working)

/-- The work of a task on the connection is on record. -/
theorem of_working (custody : Custody state) (working : (state.tasks task).working = true)
    (other : entry ≠ .commitSent) (log : next.log = state.log ++ [entry])
    (connection : next.core.connection = state.core.connection)
    (returns : next.returns = state.returns) (closer : next.closer = state.closer)
    (entrance : next.entrance = state.entrance)
    (outcome : next.commitOutcome = state.commitOutcome)
    (adapter : next.adapterOutcome = state.adapterOutcome)
    (unreleasing : ∀ task name, next.tasks task ≠ .releasing name)
    (pending : next.core.reusable = true →
      Followed (Pending next.core next.restorable next.closer.unended) next.log) :
    Evidence config next := by
  have occupied {result : Prop} (vacant : next.core.connection = none) : result :=
    absurd (connection.symm.trans vacant) (connected custody working)
  refine of_quiet ?_ occupied ?_ ?_ occupied unreleasing pending
  · rw [entrance]
    exact evidence.calls
  · rw [log, outcome, adapter, closer]
    exact evidence.stage.grow other
  · rw [returns]
    intro lease returned
    exact absurd returned (evidence.unreleased_of_working custody working lease)

/-- A savepoint is excused by the scope it opens. -/
theorem saved (custody : Custody state) (saving : state.tasks task = .saving name) :
    Evidence config (saved state task name) := by
  have working : (state.tasks task).working = true := by rw [saving]; rfl
  have fresh := custody.saving task name saving
  have quiet := unreleasing custody working (by simp [saving])
  have pushed : Evidence config
      { state.record (.savepoint name) with core := state.core.push task name } := by
    refine evidence.of_working custody working (by simp) rfl rfl rfl rfl rfl rfl rfl quiet ?_
    intro trusted
    refine (evidence.pending trusted).snoc ?_ (.inr (by simp [Core.push]))
    intro entry after pending
    refine pending.grow ?_ ?_ (fun pragma value listed => .inr listed)
      (fun running => .inr running)
    · intro scope failed
      have older : scope < name := fresh.above scope (Core.mem_of_scopeFailed failed)
      have different : name ≠ scope := by omega
      refine .inr ?_
      simpa [Core.scopeFailed, Core.push, different] using failed
    · intro scope onStack
      exact .inr (List.mem_cons_of_mem _ onStack)
  exact pushed.finish task

/-- The return to the savepoint settles the faults of its scope. -/
theorem undone (custody : Custody state) (undoing : state.tasks task = .undoing name) :
    Evidence config ((state.record (.rolledBackTo name)).setTask task (.releasing name)) := by
  have working : (state.tasks task).working = true := by rw [undoing]; rfl
  refine ⟨?_, ?_, ?_, evidence.calls, evidence.unscoped, evidence.stage.grow (by simp), ?_⟩
  · intro trusted
    exact (evidence.pending trusted).snoc (fun _ _ pending => pending.tell) trivial
  · intro trusted other scope releasing
    have same : scope = name := by
      by_cases own : other = task
      · subst own
        have phase : Phase.releasing name = .releasing scope := by
          simpa [State.setTask] using releasing
        exact (Phase.releasing.inj phase).symm
      · have before : state.tasks other = .releasing scope := by
          simpa [State.setTask, State.record, own] using releasing
        exact absurd before (unreleasing custody working (by simp [undoing]) other scope)
    subst same
    refine (evidence.pending trusted).snoc ?_ trivial
    intro entry after _
    cases entry with
    | faulted fault faultScope => exact fun _ => by simp
    | _ => trivial
  · intro _ (vacant : state.core.connection = none)
    exact absurd vacant (connected custody working)
  · intro lease returned
    exact absurd returned (evidence.unreleased_of_working custody working lease)

/-- The release of its savepoint takes a scope off the stack. -/
theorem left (custody : Custody state) (releasing : state.tasks task = .releasing name) :
    Evidence config
      (({ state.record (.released name) with core := state.core.pop }).finish task) := by
  have working : (state.tasks task).working = true := by rw [releasing]; rfl
  have innermost := custody.leaving task name (by rw [releasing]; rfl)
  have quiet := custody.quiet_of_idle (custody.lockHeld task working)
  have popped : Evidence config
      { (state.setTask task .idle).record (.released name) with core := state.core.pop } := by
    refine evidence.of_working custody working (by simp) rfl rfl rfl rfl rfl rfl rfl ?_ ?_
    · intro other scope otherReleasing
      have idle := quiet other
      have still : (state.setTask task .idle).tasks other = .releasing scope := otherReleasing
      rw [still] at idle
      cases idle
    · intro trusted
      have both := (evidence.pending trusted).and (evidence.cleared trusted task name releasing)
      refine both.snoc ?_ trivial
      intro entry after ⟨pending, cleared⟩
      exact pending.pop cleared innermost.2
  exact popped.unlock

/-- Without trust in the connection a scope leaves nothing to settle. -/
theorem pop_distrusted (distrusted : state.core.reusable = false) :
    Evidence config { state with core := state.core.pop } := by
  refine of_distrusted evidence.calls ?_ evidence.stage evidence.released distrusted
  intro vacant
  have empty := evidence.unscoped vacant
  simp [Core.pop, empty]

/-- A scope that is not marked may be released at once. -/
theorem startRelease (unmarked : state.core.scopeFailed name = false) :
    Evidence config (state.setTask task (.releasing name)) :=
  { evidence with
    cleared := by
      intro trusted other scope releasing
      by_cases same : other = task
      · subst same
        have phase : Phase.releasing name = .releasing scope := by
          simpa [State.setTask] using releasing
        obtain rfl := Phase.releasing.inj phase
        exact (evidence.pending trusted).mono (fun _ _ pending => pending.cleared unmarked)
      · exact evidence.cleared trusted other scope (by simpa [State.setTask, same] using releasing) }

end

end Evidence

/-- A driver reply keeps the evidence. -/
theorem Turn.evidence {config : Config} (turn : Turn state task next) (custody : Custody state)
    (evidence : Evidence config state) : Evidence config next := by
  induction turn with
  | proceed phase _ operating =>
    apply evidence.setTask
    rintro name rfl
    cases operating
  | @opened before task raw =>
    have owned : Evidence config { before with streamOwner := some task } :=
      evidence.congr rfl rfl rfl rfl rfl rfl rfl rfl (fun _ _ => id)
    exact owned.setTask (by simp)
  | stopped => exact evidence.finish _
  | ended =>
    exact (evidence.finish _).congr rfl rfl rfl rfl rfl rfl rfl rfl (fun _ _ => id)
  | distrusted _ _ ih =>
    exact ih custody.distrust evidence.distrust
  | struck fault operating _ ih =>
    have working := Phase.working_of_operating operating
    apply ih (custody.strike true fault)
    apply evidence.strike_true fault (evidence.unreleased_of_working custody working)
    apply Evidence.unreleasing custody working
    intro name releasing
    rw [releasing] at operating
    cases operating
  | @unsaved before task name fault saving =>
    have working : (before.tasks task).working = true := by rw [saving]; rfl
    exact (evidence.strike_false fault
      (evidence.unreleased_of_working custody working)).finish task
  | undone undoing => exact evidence.undone custody undoing
  | left releasing => exact evidence.left custody releasing
  | @unleft before task name fault phase =>
    have working : (before.tasks task).working = true := by
      obtain undoing | releasing := phase
      · rw [undoing]; rfl
      · rw [releasing]; rfl
    have struck := evidence.strike_false fault (evidence.unreleased_of_working custody working)
    have distrusted : (before.strike false fault).core.reusable = false := by
      obtain settled | ⟨recovered, _⟩ := before.core.settle_cases false fault
      · simp [State.strike, settled]
      · cases recovered
    exact (struck.pop_distrusted distrusted).finish task

theorem granted_evidence {config : Config} {work : Work} (evidence : Evidence config state)
    (custody : Custody state) (waiting : state.tasks task = .waiting work) (accepted : Bool) :
    Evidence config (granted state task accepted work) := by
  cases work with
  | query | stream =>
    simp only [granted]
    split
    · exact evidence.setTask (by simp)
    · exact evidence.finish task
  | enterNested =>
    simp only [granted]
    split
    · have named : Evidence config { state with core := state.core.nextName.1 } :=
        ⟨evidence.pending, evidence.cleared, evidence.unstarted, evidence.calls, evidence.unscoped,
          evidence.stage, evidence.released⟩
      exact named.setTask (by simp)
    · exact evidence.finish task
  | exitNested name raised =>
    have innermost := custody.leaving task name (by rw [waiting]; rfl)
    have leased : state.core.connection.isSome := by
      cases connection : state.core.connection with
      | some lease => rfl
      | none =>
        have top := innermost.2
        rw [evidence.unscoped connection] at top
        cases top
    have unclosed : state.core.closed = false := by
      cases closed : state.core.closed with
      | false => rfl
      | true =>
        rw [custody.taken closed] at leased
        cases leased
    simp only [granted, beginExit]
    split
    · next unusable =>
      have distrusted : state.core.reusable = false := by
        simpa [Option.isNone_iff_eq_none, Option.isSome_iff_ne_none.mp leased, unclosed]
          using unusable
      exact (evidence.pop_distrusted distrusted).finish task
    · split
      · exact evidence.setTask (by simp)
      · next unmarked =>
        refine evidence.startRelease ?_
        simp only [Bool.or_eq_true, not_or, Bool.not_eq_true] at unmarked
        exact unmarked.2

/-! ## Entering -/

theorem Closer.unended_of_disengaged (disengaged : closer.engaged = false) :
    closer.unended = true := by
  cases closer <;> simp_all [Closer.engaged, Closer.unended]

theorem State.restorable_of_disengaged (disengaged : state.closer.engaged = false) :
    state.restorable = state.previous := by
  unfold State.restorable
  cases closer : state.closer <;> simp_all [Closer.engaged]

/-- The adapter's outcome matters to a closing task that has the connection only. -/
theorem Stage.setAdapter {adapter : CommitOutcome}
    (stage : Stage backend log outcome adapter closer) (disengaged : closer.engaged = false)
    (other : CommitOutcome) : Stage backend log outcome other closer := by
  cases closer with
  | absent | created | waiting => exact stage
  | committing | rollingBack | restoring | returning => cases disengaged
  | finished => exact stage

/-- What an entry in progress finds: no connection, no closing task at work, no scope, and
nobody at work. -/
structure Alone (state : State) : Prop where
  vacant : state.core.connection = none
  unclosed : state.core.closed = false
  disengaged : state.closer.engaged = false
  quiet : ∀ task, (state.tasks task).working = false

theorem alone_of_entering {entrance : Nat × Entrance} (accounted : Accounted state)
    (custody : Custody state) (entering : state.entrance = some entrance) : Alone state := by
  obtain ⟨vacant, unclosed⟩ := accounted.vacant (by simp [entering])
  refine ⟨vacant, unclosed, ?_, custody.quiet_of_vacant vacant⟩
  cases engaged : state.closer.engaged with
  | false => rfl
  | true =>
    have closed := custody.shut engaged
    rw [unclosed] at closed
    cases closed

theorem Alone.unreleasing (alone : Alone state) (task name : Nat) :
    state.tasks task ≠ .releasing name := by
  intro releasing
  have quiet := alone.quiet task
  rw [releasing] at quiet
  cases quiet

namespace Evidence

variable {config : Config} {state : State}

section

variable (evidence : Evidence config state)
include evidence

theorem setEntrance {entrance : Option (Nat × Entrance)} (underway : (∀ stage ∈ entrance, stage.2.underway config = false) →
      ∀ stage ∈ state.entrance, stage.2.underway config = false) (calls : ∀ task lease calls, entrance = some (task, .beginning lease calls) →
      calls.length ≤ config.beginCalls.length) : Evidence config { state with entrance := entrance } :=
  { evidence with
    unstarted := fun trusted vacant unclosed outside =>
      evidence.unstarted trusted vacant unclosed (underway outside)
    calls := calls }

/-- A connection that has just been acquired has no history with this transaction. -/
theorem acquired (alone : Alone state) (entering : state.entrance = some (task, .acquiring)) :
    Evidence config { state with
      entrance := some (task, .beginning state.acquired config.beginCalls),
      acquired := state.acquired + 1, adapterOutcome := .notAttempted, previous := [] } := by
  have blank (trusted : state.core.reusable = true) : state.log = [] := by
    apply evidence.unstarted trusted alone.vacant alone.unclosed
    intro stage isEntrance
    rw [entering] at isEntrance
    obtain rfl := Option.some.inj isEntrance
    rfl
  refine ⟨?_, ?_, fun trusted _ _ _ => blank trusted, ?_, evidence.unscoped,
    evidence.stage.setAdapter alone.disengaged _, evidence.released⟩
  · intro trusted
    have empty := blank trusted
    dsimp only
    rw [empty]
    trivial
  · intro _ other name releasing
    exact absurd releasing (alone.unreleasing other name)
  · intro other lease calls same
    obtain ⟨_, rfl⟩ := Entrance.beginning.inj (Prod.mk.inj (Option.some.inj same)).2
    exact Nat.le_refl _

/-- One call of `begin` is on record, and what it overrode is to be restored. -/
theorem tell (alone : Alone state) {call : BeginCall} {rest : List BeginCall}
    (entering : state.entrance = some (task, .beginning lease (call :: rest))) (entry : Entry)
    (settings : List (Pragma × Bool)) (kept : ∀ setting ∈ state.previous, setting ∈ settings)
    (new : Pending state.core settings true entry []) (other : entry ≠ .commitSent) :
    Evidence config { state.record entry with
      previous := settings, entrance := some (task, .beginning lease rest) } := by
  have shorter : rest.length < config.beginCalls.length := by
    have before := evidence.calls task lease (call :: rest) entering
    simp only [List.length_cons] at before
    omega
  refine ⟨?_, ?_, ?_, ?_, evidence.unscoped, evidence.stage.grow other, ?_⟩
  · intro trusted
    have disengaged : ({ state.record entry with
        previous := settings,
        entrance := some (task, .beginning lease rest) } : State).closer.engaged = false :=
      alone.disengaged
    rw [State.restorable_of_disengaged disengaged, Closer.unended_of_disengaged disengaged]
    refine (evidence.pending trusted).snoc ?_ new
    intro told after pending
    rw [State.restorable_of_disengaged alone.disengaged] at pending
    exact pending.grow (fun _ failed => .inr failed) (fun _ onStack => .inr onStack)
      (fun _ _ listed => .inr (kept _ listed)) (fun _ => .inr rfl)
  · intro _ otherTask name releasing
    exact absurd releasing (alone.unreleasing otherTask name)
  · intro _ _ _ outside
    have stopped : (Entrance.beginning lease rest).underway config = false :=
      outside (task, .beginning lease rest) rfl
    have same : rest = config.beginCalls := by simpa [Entrance.underway] using stopped
    rw [same] at shorter
    exact absurd shorter (Nat.lt_irrefl _)
  · intro otherTask otherLease calls same
    obtain ⟨_, rfl⟩ := Entrance.beginning.inj (Prod.mk.inj (Option.some.inj same)).2
    exact Nat.le_of_lt shorter
  · intro returnedLease returned
    exact absurd returned (evidence.unreleased alone.unclosed returnedLease)

/-- The entry gives the transaction its connection. -/
theorem connect (alone : Alone state) (task lease : Nat) :
    Evidence config (({ state with
      entrance := none, core := { state.core with connection := some lease } }).setTask task .idle) := by
  have connected : Evidence config { state with
      entrance := none, core := { state.core with connection := some lease } } := by
    refine ⟨evidence.pending, evidence.cleared, ?_, ?_, ?_, evidence.stage, evidence.released⟩
    · intro _ vacant
      cases vacant
    · intro otherTask otherLease calls entering
      cases entering
    · intro vacant
      cases vacant
  exact connected.setTask (by simp)

theorem begun (alone : Alone state) {call : BeginCall} {rest : List BeginCall}
    (entering : state.entrance = some (task, .beginning lease (call :: rest))) (found : Bool) :
    Evidence config (begun state task lease call rest found) := by
  have finish (entry : Entry) (settings : List (Pragma × Bool))
      (told : Evidence config { state.record entry with
        previous := settings, entrance := some (task, .beginning lease rest) }) :
      Evidence config (({ state.record entry with
        previous := settings, entrance := none,
        core := { state.core with connection := some lease } }).setTask task .idle) :=
    told.connect ⟨alone.vacant, alone.unclosed, alone.disengaged, alone.quiet⟩ task lease
  cases call with
  | override pragma =>
    have told := evidence.tell alone entering (.overrode pragma found)
      (state.previous ++ [(pragma, found)]) (fun _ listed => List.mem_append_left _ listed)
      (.inr (by simp)) (by simp)
    cases rest with
    | nil => exact finish _ _ told
    | cons second rest => exact told
  | setTransaction =>
    have told := evidence.tell alone entering .setTransaction state.previous (fun _ => id)
      (.inr rfl) (by simp)
    cases rest with
    | nil => exact finish _ _ told
    | cons second rest => exact told
  | begin =>
    have told := evidence.tell alone entering .begun state.previous (fun _ => id) trivial (by simp)
    cases rest with
    | nil => exact finish _ _ told
    | cons second rest => exact told

theorem beginFailed (alone : Alone state) {calls : List BeginCall} {fault : Option Fault}
    (entering : state.entrance = some (task, .beginning lease calls))
    (first : fault = none → calls = config.beginCalls) :
    Evidence config (beginFailed state task lease fault) := by
  have handed (struck : State) (holds : Evidence config struck)
      (returns : struck.returns = state.returns)
      (underway : ∀ stage ∈ struck.entrance,
        struck.core.reusable = true → stage.2.underway config = false) :
      Evidence config { struck.handBack lease .discard with
        entrance := some (task, .abandoning lease) } := by
    refine ⟨holds.pending, holds.cleared, ?_, ?_, holds.unscoped, holds.stage, ?_⟩
    · intro trusted vacant unclosed _
      exact holds.unstarted trusted vacant unclosed (fun stage member => underway stage member trusted)
    · intro other otherLease otherCalls same
      cases same
    · intro other returned
      exact holds.released other (released_of_discarded returned)
  cases fault with
  | none =>
    refine handed state evidence rfl ?_
    intro stage member _
    rw [entering] at member
    obtain rfl := Option.some.inj member
    simp [Entrance.underway, first rfl]
  | some fault =>
    have struck := evidence.strike_false fault (evidence.unreleased alone.unclosed)
    refine handed _ struck rfl ?_
    intro stage _ trusted
    obtain settled | ⟨recovered, _⟩ := state.core.settle_cases false fault
    · simp [State.strike, settled] at trusted
    · cases recovered

theorem abandoned (alone : Alone state) (entering : state.entrance = some (task, .abandoning lease))
    (completed : Bool) : Evidence config (abandoned state task completed) := by
  have ended : Evidence config { state with entrance := none } := by
    apply evidence.setEntrance
    · intro _ stage member
      rw [entering] at member
      obtain rfl := Option.some.inj member
      rfl
    · intro other otherLease calls same
      cases same
  cases completed with
  | false => exact ended.setTask (by simp)
  | true =>
    have closed : Evidence config { state with
        entrance := none, core := { state.core with reusable := false, closed := true } } :=
      of_distrusted ended.calls evidence.unscoped evidence.stage
        (fun other returned => absurd returned (evidence.unreleased alone.unclosed other)) rfl
    exact closed.setTask (by simp)

end

end Evidence

/-! ## Closing -/

namespace Evidence

variable {config : Config} {state : State}

section

variable (evidence : Evidence config state)
include evidence

/-- Before the closing task is about to return, nothing was released. -/
theorem unreleased_of_closer (unreturned : state.closer ≠ .returning)
    (unfinished : state.closer ≠ .finished) (lease : Nat) : (lease, .release) ∉ state.returns := by
  intro returned
  obtain ⟨_, _, isReturning | isFinished⟩ := evidence.released lease returned
  · exact unreturned isReturning
  · exact unfinished isFinished

/-- A closing task without the connection moves on. -/
theorem setCloser (before : state.closer.engaged = false) (after : closer.engaged = false)
    (unreleased : ∀ lease, (lease, .release) ∉ state.returns)
    (stage : Stage config.backend state.log state.commitOutcome state.adapterOutcome closer) :
    Evidence config { state with closer := closer } :=
  { evidence with
    pending := by
      intro trusted
      have pending := evidence.pending trusted
      rw [State.restorable_of_disengaged before, Closer.unended_of_disengaged before] at pending
      have disengaged : ({ state with closer := closer } : State).closer.engaged = false := after
      rw [State.restorable_of_disengaged disengaged, Closer.unended_of_disengaged disengaged]
      exact pending
    stage := stage
    released := fun lease returned => absurd returned (unreleased lease) }

/-- The closing task takes the connection and discards it, commits or rolls back. -/
theorem close (custody : Custody state) {owner : Nat} {raised : Bool}
    (waiting : state.closer = .waiting owner raised) (held : state.lock = some .closer) :
    Evidence config (close state owner raised) := by
  have unreleased := evidence.unreleased_of_closer (by rw [waiting]; simp) (by rw [waiting]; simp)
  have stage := evidence.stage
  rw [waiting] at stage
  obtain ⟨untried, unsent⟩ := stage
  have honest : Truthful config.backend state.log state.commitOutcome := by
    rw [untried]
    exact unsent
  have disengaged : state.closer.engaged = false := by rw [waiting]; rfl
  have finished : Evidence config ({ state with closer := .finished }).unlock := by
    apply unlock
    exact evidence.setCloser disengaged rfl unreleased honest
  have unreleasing (task name : Nat) : state.tasks task ≠ .releasing name := by
    intro releasing
    have quiet := custody.quiet_of_closer held task
    rw [releasing] at quiet
    cases quiet
  unfold SharedTransaction.close
  split
  · exact finished
  · exact finished
  · next lease owns _ =>
    dsimp only
    obtain ⟨isDiscard, distrusted⟩ | ⟨ends, empty, closed⟩ := state.core.close_cases raised
    · rw [isDiscard]
      refine of_distrusted evidence.calls (fun _ => state.core.close_stack) honest ?_ distrusted
      intro other returned
      exact absurd (released_of_discarded returned) (unreleased other)
    · have pending (trusted : state.core.reusable = true) :
          Followed (Pending state.core state.previous true) state.log := by
        have before := evidence.pending trusted
        rw [State.restorable_of_disengaged disengaged,
          Closer.unended_of_disengaged disengaged] at before
        exact before
      cases raised with
      | false =>
        rw [ends, closed]
        refine of_quiet evidence.calls (fun _ => empty) ⟨rfl, trivial⟩
          (fun other returned => absurd returned (unreleased other)) (fun _ => rfl) unreleasing ?_
        intro trusted
        exact (pending trusted).snoc (fun _ _ pending => pending.tell) trivial
      | true =>
        rw [ends, closed]
        exact of_quiet evidence.calls (fun _ => empty) ⟨untried, unsent⟩
          (fun other returned => absurd returned (unreleased other)) (fun _ => rfl) unreleasing
          pending

/-- What the closing task finds in the transaction it has taken. -/
theorem empty_of_engaged (custody : Custody state) (engaged : state.closer.engaged = true) :
    state.core.stack = [] :=
  evidence.unscoped (custody.taken (custody.shut engaged))

end

theorem unreleasing_of_engaged (custody : Custody state) (engaged : state.closer.engaged = true)
    (task name : Nat) : state.tasks task ≠ .releasing name := by
  intro releasing
  have quiet := custody.quiet_of_closer (custody.closerHolds engaged) task
  rw [releasing] at quiet
  cases quiet

section

variable (evidence : Evidence config state)
include evidence

/-- A commit or a rollback that raised: the connection is discarded, and the adapter's
evidence is what the outcome says. -/
theorem closeFailed (unreleased : ∀ lease, (lease, .release) ∉ state.returns) (lease : Nat)
    (committing : Bool) (fault : Fault) (told : Truthful config.backend state.log
      (if committing = true ∧
        (state.adapterOutcome = .committed ∨ state.adapterOutcome = .rejected) then
        state.adapterOutcome else state.commitOutcome)) :
    Evidence config (closeFailed state lease committing fault) := by
  have struck := evidence.strike_false fault unreleased
  have distrusted : (state.strike false fault).core.reusable = false := by
    obtain settled | ⟨recovered, _⟩ := state.core.settle_cases false fault
    · simp [State.strike, settled]
    · cases recovered
  have handed (outcome : CommitOutcome) (truthful : Truthful config.backend state.log outcome) :
      Evidence config (({ state.strike false fault with commitOutcome := outcome }).giveBack lease) := by
    have untrusted : (({ state.strike false fault with
        commitOutcome := outcome }).giveBack lease).core.reusable = false := distrusted
    refine of_distrusted struck.calls struck.unscoped (truthful.grow (by simp)) ?_ untrusted
    intro other returned
    simp only [State.giveBack, distrusted, Bool.false_eq_true, if_false] at returned
    exact absurd (released_of_discarded returned) (unreleased other)
  unfold SharedTransaction.closeFailed
  cases committing with
  | false => exact handed state.commitOutcome (by simpa using told)
  | true =>
    simp only [if_true, State.takeEvidence]
    split
    · next proof =>
      rw [if_pos ⟨rfl, proof⟩] at told
      exact handed state.adapterOutcome told
    · next unproven =>
      rw [if_neg (fun both => unproven both.2)] at told
      exact handed state.commitOutcome told

/-- A statement of the closing task is acknowledged and replaces the excuses that go. -/
theorem acknowledge (custody : Custody state) (engaged : state.closer.engaged = true)
    (unreleased : ∀ lease, (lease, .release) ∉ state.returns) (entry : Entry)
    (adapter : CommitOutcome) (closer : Closer) (after : closer.engaged = true) (settings : ∀ pragma value, (pragma, value) ∈ state.restorable →
      entry = .restored pragma value ∨
        (pragma, value) ∈ ({ state with closer := closer } : State).restorable) (ended : state.closer.unended = true →
      (entry = .commitAcknowledged ∨ entry = .rollbackAcknowledged) ∨ closer.unended = true) (new : Pending state.core ({ state with closer := closer } : State).restorable closer.unended
      entry [])
    (stage : Stage config.backend (state.log ++ [entry]) state.commitOutcome adapter closer) :
    Evidence config { state.record entry with adapterOutcome := adapter, closer := closer } := by
  have quiet := unreleasing_of_engaged custody engaged
  refine of_quiet evidence.calls evidence.unscoped stage
    (fun lease returned => absurd returned (unreleased lease)) (fun _ => custody.shut engaged) quiet ?_
  intro trusted
  refine (evidence.pending trusted).snoc ?_ new
  intro told rest pending
  exact pending.grow (fun _ failed => .inr failed) (fun _ onStack => .inr onStack) settings ended

/-- The adapter's `commit` or `rollback` returns: a trusted connection is released, with all
that a released connection needs. -/
theorem giveBack (custody : Custody state) {committing : Bool}
    (restoring : state.closer = .restoring lease committing [])
    (unreleased : ∀ other, (other, .release) ∉ state.returns) (outcome : CommitOutcome)
    (told : Truthful config.backend state.log outcome)
    (acknowledged : .commitAcknowledged ∈ state.log ∨ .rollbackAcknowledged ∈ state.log) :
    Evidence config
      (({ state with previous := [], commitOutcome := outcome }).giveBack lease) := by
  have engaged : state.closer.engaged = true := by rw [restoring]; rfl
  have empty := evidence.empty_of_engaged custody engaged
  have closed := custody.shut engaged
  have excused (trusted : state.core.reusable = true) :
      Followed (Pending state.core [] false) state.log := by
    have pending := evidence.pending trusted
    have nothing : state.restorable = [] := by
      unfold State.restorable
      rw [restoring]
    rw [nothing, restoring] at pending
    exact pending
  have quiet := unreleasing_of_engaged custody engaged
  refine of_quiet evidence.calls evidence.unscoped told ?_ (fun _ => closed) quiet excused
  intro other returned
  have trusted : state.core.reusable = true := by
    by_contra distrusted
    have discarded : state.core.reusable = false := by simpa using distrusted
    simp only [State.giveBack, discarded, Bool.false_eq_true, if_false] at returned
    exact unreleased other (released_of_discarded returned)
  exact ⟨⟨acknowledged, (excused trusted).mono (fun _ _ pending => pending.settles empty)⟩,
    closed, .inl rfl⟩

/-- The closing task's failed commit: while it was unanswered, whatever the adapter can prove
is true. -/
theorem commitFailed (committing : state.closer = .committing lease) (fault : Fault) :
    Evidence config (SharedTransaction.closeFailed state lease true fault) := by
  have stage := evidence.stage
  rw [committing] at stage
  obtain ⟨uncertain, proof⟩ := stage
  refine evidence.closeFailed ?_ lease true fault ?_
  · exact evidence.unreleased_of_closer (by rw [committing]; simp) (by rw [committing]; simp)
  · split
    · exact proof
    · rw [uncertain]
      trivial

/-- A refused commit is reported as rejected only on a reply that proves it. -/
theorem refused (custody : Custody state) (committing : state.closer = .committing lease)
    (error : CommitError) (inTransaction : Bool) :
    Evidence config (SharedTransaction.closeFailed
      (if rejects config.backend error inTransaction then
        { state.record (.commitRefused error inTransaction) with adapterOutcome := .rejected }
      else state.record (.commitRefused error inTransaction)) lease true .error) := by
  have engaged : state.closer.engaged = true := by rw [committing]; rfl
  have unreleased := evidence.unreleased_of_closer (by rw [committing]; simp)
    (by rw [committing]; simp)
  have stage := evidence.stage
  rw [committing] at stage
  obtain ⟨uncertain, proof⟩ := stage
  have recorded (adapter : CommitOutcome)
      (told : Truthful config.backend (state.log ++ [.commitRefused error inTransaction]) adapter) :
      Evidence config { state.record (.commitRefused error inTransaction) with
        adapterOutcome := adapter, closer := state.closer } := by
    refine evidence.acknowledge custody engaged unreleased _ _ _ engaged
      (fun _ _ listed => .inr listed) (fun running => .inr running) trivial ?_
    rw [committing]
    exact ⟨uncertain, told⟩
  split
  · next proven =>
    refine (recorded .rejected ?_).commitFailed committing .error
    refine ⟨.commitRefused error inTransaction, by simp, ?_⟩
    cases backend : config.backend <;> cases error <;>
      simp_all [rejects, reportsUncommitted]
  · exact (recorded state.adapterOutcome (proof.grow (by simp))).commitFailed committing .error

/-- The settings are restored one by one, and then the connection is given back. -/
theorem restoring (custody : Custody state) {committing : Bool} {rest : List (Pragma × Bool)}
    {answer : Answer} (closer : state.closer = .restoring lease committing rest)
    (stepped : answered config state (.restoring lease committing rest) answer = some next) :
    Evidence config next := by
  have engaged : state.closer.engaged = true := by rw [closer]; rfl
  have unreleased := evidence.unreleased_of_closer (by rw [closer]; simp) (by rw [closer]; simp)
  have listed : state.restorable = rest := by unfold State.restorable; rw [closer]
  have stage := evidence.stage
  rw [closer] at stage
  have acknowledged : .commitAcknowledged ∈ state.log ∨ .rollbackAcknowledged ∈ state.log := by
    cases committing with
    | true => exact .inl stage.2.2
    | false => exact .inr stage.2.2
  cases answer with
  | refused error inTransaction => cases rest <;> cases stepped
  | fault fault =>
    have failed : next = SharedTransaction.closeFailed state lease committing fault := by
      cases rest <;> exact (Option.some.inj stepped).symm
    subst failed
    refine evidence.closeFailed unreleased lease committing fault ?_
    cases committing with
    | true =>
      rw [if_pos ⟨rfl, .inl stage.2.1⟩, stage.2.1]
      exact stage.2.2
    | false =>
      rw [if_neg (by simp), stage.1]
      exact stage.2.1
  | acknowledged =>
    cases rest with
    | nil =>
      obtain rfl := Option.some.inj stepped
      cases committing with
      | true => exact evidence.giveBack custody closer unreleased .committed stage.2.2 acknowledged
      | false =>
        refine evidence.giveBack custody closer unreleased state.commitOutcome ?_ acknowledged
        rw [stage.1]
        exact stage.2.1
    | cons setting rest =>
      obtain ⟨pragma, value⟩ := setting
      obtain rfl := Option.some.inj stepped
      refine evidence.acknowledge custody engaged unreleased (.restored pragma value)
        state.adapterOutcome (.restoring lease committing rest) rfl ?_ ?_ trivial ?_
      · intro otherPragma otherValue member
        rw [listed] at member
        obtain same | later := List.mem_cons.mp member
        · obtain ⟨rfl, rfl⟩ := Prod.mk.inj same
          exact .inl rfl
        · exact .inr later
      · intro running
        rw [closer] at running
        cases running
      · have before : Stage config.backend state.log state.commitOutcome state.adapterOutcome
            (.restoring lease committing rest) := by
          cases committing <;> exact stage
        exact before.grow (by simp)

/-- Every answer to the closing task keeps the evidence. -/
theorem answered (custody : Custody state) {answer : Answer}
    (stepped : SharedTransaction.answered config state state.closer answer = some next) :
    Evidence config next := by
  cases closer : state.closer with
  | absent | created | waiting | returning | finished => rw [closer] at stepped; cases stepped
  | restoring lease committing rest =>
    rw [closer] at stepped
    exact evidence.restoring custody closer stepped
  | committing lease =>
    rw [closer] at stepped
    have engaged : state.closer.engaged = true := by rw [closer]; rfl
    have unreleased := evidence.unreleased_of_closer (by rw [closer]; simp) (by rw [closer]; simp)
    have stage := evidence.stage
    rw [closer] at stage
    cases answer with
    | acknowledged =>
      obtain rfl := Option.some.inj stepped
      refine evidence.acknowledge custody engaged unreleased .commitAcknowledged .committed
        (.restoring lease true state.previous) rfl ?_ (fun _ => .inl (.inl rfl)) trivial
        ⟨stage.1, rfl, by simp⟩
      intro pragma value listed
      unfold State.restorable at listed
      rw [closer] at listed
      exact .inr listed
    | refused error inTransaction =>
      obtain rfl := Option.some.inj stepped
      exact evidence.refused custody closer error inTransaction
    | fault fault =>
      obtain rfl := Option.some.inj stepped
      exact evidence.commitFailed closer fault
  | rollingBack lease =>
    rw [closer] at stepped
    have engaged : state.closer.engaged = true := by rw [closer]; rfl
    have unreleased := evidence.unreleased_of_closer (by rw [closer]; simp) (by rw [closer]; simp)
    have stage := evidence.stage
    rw [closer] at stage
    cases answer with
    | acknowledged =>
      obtain rfl := Option.some.inj stepped
      refine evidence.acknowledge custody engaged unreleased .rollbackAcknowledged
        state.adapterOutcome (.restoring lease false state.previous) rfl ?_
        (fun _ => .inl (.inr rfl)) trivial ⟨stage.1, ?_, by simp⟩
      · intro pragma value listed
        unfold State.restorable at listed
        rw [closer] at listed
        exact .inr listed
      · simpa using stage.2
    | refused error inTransaction => cases stepped
    | fault fault =>
      obtain rfl := Option.some.inj stepped
      refine evidence.closeFailed unreleased lease false fault ?_
      rw [if_neg (by simp), stage.1]
      exact stage.2

/-- The closing task ends without ever having had the connection. -/
theorem dropCloser (disengaged : state.closer.engaged = false)
    (unfinished : state.closer ≠ .finished) : Evidence config { state with closer := .finished } := by
  refine evidence.setCloser disengaged rfl ?_ evidence.stage.truthful
  apply evidence.unreleased_of_closer
  · intro returning
    rw [returning] at disengaged
    cases disengaged
  · exact unfinished

/-- The closing task of a connection that was handed back returns. -/
theorem closerReturned (returning : state.closer = .returning) :
    Evidence config { state with closer := .finished } := by
  have listed : state.restorable = state.previous := by unfold State.restorable; rw [returning]
  refine ⟨?_, evidence.cleared, evidence.unstarted, evidence.calls, evidence.unscoped,
    evidence.stage.truthful, ?_⟩
  · intro trusted
    refine (evidence.pending trusted).mono ?_
    intro entry after pending
    rw [listed, returning] at pending
    exact Pending.imp pending (List.Subset.refl _) (fun _ _ _ => .inr) (fun _ => .inr)
      (fun _ _ => .inr) (fun _ => .inr rfl)
  · intro lease returned
    obtain ⟨clean, closed, _⟩ := evidence.released lease returned
    exact ⟨clean, closed, .inr rfl⟩

end

end Evidence

/-- Every step keeps the evidence. -/
theorem Move.evidence {config : Config} {event : Event} (move : Move config state event next)
    (accounted : Accounted state) (custody : Custody state) (evidence : Evidence config state) :
    Evidence config next := by
  cases move with
  | refused => exact evidence
  | @entered task idle outside free unclosed =>
    refine (evidence.setEntrance ?_ ?_).setTask (by simp)
    · intro _ stage member
      rw [outside] at member
      cases member
    · intro other lease calls same
      cases same
  | @acquireFailed task entering =>
    refine (evidence.setEntrance ?_ ?_).setTask (by simp)
    · intro _ stage member
      rw [entering] at member
      obtain rfl := Option.some.inj member
      rfl
    · intro other lease calls same
      cases same
  | acquired entering =>
    exact evidence.acquired (alone_of_entering accounted custody entering) entering
  | begun entering =>
    exact evidence.begun (alone_of_entering accounted custody entering) entering _
  | beginFailed entering first =>
    exact evidence.beginFailed (alone_of_entering accounted custody entering) entering first
  | abandoned entering =>
    exact evidence.abandoned (alone_of_entering accounted custody entering) entering _
  | called idle accessible => exact (evidence.setTask (by simp)).request _
  | withdrawn waiting => exact (evidence.setTask (by simp)).withdraw _
  | granted waiting held => exact granted_evidence evidence custody waiting _
  | turned turn => exact turn.evidence custody evidence
  | saved saving => exact evidence.saved custody saving
  | joined idle => exact evidence.setTask (by simp)
  | @exited task raised idle owns absent =>
    have stage := evidence.stage
    rw [absent] at stage
    have unreleased := evidence.unreleased_of_closer (by rw [absent]; simp) (by rw [absent]; simp)
    have created : Evidence config { state with closer := .created task raised } :=
      evidence.setCloser (by rw [absent]; rfl) rfl unreleased stage
    exact created.setTask (by simp)
  | returned phase => exact evidence.setTask (by simp)
  | @closerStarts owner raised created =>
    have stage := evidence.stage
    rw [created] at stage
    have unreleased := evidence.unreleased_of_closer (by rw [created]; simp) (by rw [created]; simp)
    have waiting : Evidence config { state with closer := .waiting owner raised } :=
      evidence.setCloser (by rw [created]; rfl) rfl unreleased stage
    exact waiting.request _
  | closerDropped created =>
    exact evidence.dropCloser (by rw [created]; rfl) (by rw [created]; simp)
  | closerCancelled waiting =>
    exact (evidence.dropCloser (by rw [waiting]; rfl) (by rw [waiting]; simp)).withdraw _
  | closed waiting held => exact evidence.close custody waiting held
  | answered stepped => exact evidence.answered custody stepped
  | closerReturned returning => exact (evidence.closerReturned returning).unlock

/-- In every state of every run, a connection that went back to the pool by release has a
clean record, and the commit outcome is true of what the driver boundary saw. -/
theorem released_connections_are_clean (config : Config) (events : List Event) {state : State}
    (reached : Runs.run (step config) initial events = some state) :
    (∀ lease, (lease, .release) ∈ state.returns → Returnable state.log) ∧
      Truthful config.backend state.log state.commitOutcome := by
  have holds : Accounted state ∧ Custody state ∧ Evidence config state := by
    refine Runs.run_invariant
      (fun reached => Accounted reached ∧ Custody reached ∧ Evidence config reached) ?_
      ⟨initial_accounted, initial_custody, initial_evidence config⟩ reached
    intro before event after ⟨accounted, custody, evidence⟩ stepped
    have move := step_moves stepped
    exact ⟨move.accounted accounted, move.custody accounted custody,
      move.evidence accounted custody evidence⟩
  obtain ⟨_, _, evidence⟩ := holds
  exact ⟨fun lease returned => (evidence.released lease returned).1, evidence.stage.truthful⟩

/-- A read-only transaction with a nested scope: an insert violates a constraint, the scope
is rolled back to its savepoint, and the commit and the restored setting release the
connection. -/
theorem released_connections_are_clean_after_constraint :
    ∃ state,
      Runs.run (step { backend := .sqlite, readOnly := some true, isolation := false }) initial
        [.enter 0, .acquired, .begun false, .begun false, .call 0 .enterNested, .granted 0 true,
          .replied 0 .done, .call 0 (.query false), .granted 0 true,
          .replied 0 (.fault .constraint), .call 0 (.exitNested 1 true), .granted 0 true,
          .replied 0 .done, .replied 0 .done, .exit 0 false, .closerStarts, .closerGranted,
          .closerAnswered .acknowledged, .closerAnswered .acknowledged,
          .closerAnswered .acknowledged, .closerReturns] = some state ∧
        state.returns = [(0, .release)] ∧ state.commitOutcome = .committed ∧
        Returnable state.log :=
  ⟨_, rfl, rfl, rfl,
    (released_connections_are_clean
        { backend := .sqlite, readOnly := some true, isolation := false }
        [.enter 0, .acquired, .begun false, .begun false, .call 0 .enterNested, .granted 0 true,
          .replied 0 .done, .call 0 (.query false), .granted 0 true,
          .replied 0 (.fault .constraint), .call 0 (.exitNested 1 true), .granted 0 true,
          .replied 0 .done, .replied 0 .done, .exit 0 false, .closerStarts, .closerGranted,
          .closerAnswered .acknowledged, .closerAnswered .acknowledged,
          .closerAnswered .acknowledged, .closerReturns] rfl).1 0 (by decide)⟩

end Snekql.SharedTransaction
