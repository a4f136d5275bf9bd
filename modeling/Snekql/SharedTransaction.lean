import Snekql.TransactionCore

/-!
# One transaction shared by tasks

Any number of tasks hold a reference to one `Transaction` and call it: they enter it, run
queries and raw statements, read streams, open and leave nested scopes, and exit. A step is
what happens between two awaits of one of them. Every await may also end by a failure, a
deadline or a cancellation; the event says so. The first exit that is not refused creates
the closing task, which runs `_close`.

The transaction lock is handed to its waiters in the order in which they asked. The
contexts are used as `async with` uses them: a stream is closed once, by the task that
opened it, while a nested scope and the transaction may be left by anyone, as often as they
like. A call that is refused before its first await changes nothing.

`returns` and `log` are history. The first lists the hand-backs of connections to the pool,
the second what crossed the driver boundary: the statements of the transaction protocol
that were acknowledged, and the operations that ended in a fault. An operation is what
`_run_driver_operation` runs; the retries of `BEGIN IMMEDIATE` are inside one operation.
Telemetry, error texts, rows and the texts of statements are left out.
-/

namespace Snekql.SharedTransaction

open Snekql.Transaction

inductive Backend where
  | sqlite
  | mariadb
deriving DecidableEq, Repr

inductive Pragma where
  | queryOnly
  | readUncommitted
deriving DecidableEq, Repr

inductive CommitOutcome where
  | notAttempted
  | rejected
  | committed
  | unknown
deriving DecidableEq, Repr

/-- The codes that the adapters tell apart in an error reply to `COMMIT`. -/
inductive CommitError where
  | busy
  | foreignKey
  | deadlock
  | other
deriving DecidableEq, Repr

/-- The driver calls of an adapter's `begin`. -/
inductive BeginCall where
  /-- `_set_transaction_pragma`. -/
  | override (pragma : Pragma)
  /-- `SET TRANSACTION`, which MariaDB applies to the next transaction only. -/
  | setTransaction
  | begin
deriving DecidableEq, Repr

/-- What the constructor of the transaction was given. -/
structure Config where
  backend : Backend
  readOnly : Option Bool
  /-- An isolation level was requested. -/
  isolation : Bool
deriving DecidableEq, Repr

/-- `SQLiteConnectionAdapter.begin` and `MariaDBConnectionAdapter.begin`. -/
def Config.beginCalls (config : Config) : List BeginCall :=
  match config.backend with
  | .sqlite =>
    (if config.readOnly.isSome then [.override .queryOnly] else []) ++
      (if config.isolation then [.override .readUncommitted] else []) ++ [.begin]
  | .mariadb =>
    (if config.isolation then [.setTransaction] else []) ++
      (if config.readOnly.isSome then [.setTransaction] else []) ++ [.begin]

/-- The adapters' `commit` on an error reply: whether it proves that nothing was
committed. -/
def rejects (backend : Backend) (error : CommitError) (inTransaction : Bool) : Bool :=
  match backend, error with
  | .sqlite, .busy => inTransaction
  | .sqlite, .foreignKey => inTransaction
  | .mariadb, .deadlock => true
  | _, _ => false

/-- An entry of the history of the driver boundary. -/
inductive Entry where
  /-- A setting was overridden, and this is what it had been. -/
  | overrode (pragma : Pragma) (previous : Bool)
  | setTransaction
  | begun
  | savepoint (name : Nat)
  | rolledBackTo (name : Nat)
  | released (name : Nat)
  /-- An operation ended in a fault while this scope was the innermost one. -/
  | faulted (fault : Fault) (scope : Option Nat)
  | commitSent
  | commitAcknowledged
  | commitRefused (error : CommitError) (inTransaction : Bool)
  | rollbackAcknowledged
  | restored (pragma : Pragma) (value : Bool)
deriving DecidableEq, Repr

inductive Return where
  | release
  | discard
deriving DecidableEq, Repr

/-- Who may hold the transaction lock. -/
inductive Party where
  | task (id : Nat)
  | closer
deriving DecidableEq, Repr

/-- The calls that wait for the transaction lock. -/
inductive Work where
  | query (raw : Bool)
  | stream (raw : Bool)
  | enterNested
  | exitNested (name : Nat) (raised : Bool)
deriving DecidableEq, Repr

/-- What follows when the cursor of a stream is closed. -/
inductive AfterCursor where
  | stays
  | leaves
  | aborts
deriving DecidableEq, Repr

/-- Where a task is. From `querying` to `releasing` it holds the transaction lock, and
in all of these but `streaming` a driver operation is in flight. -/
inductive Phase where
  | idle
  | entering
  | waiting (work : Work)
  | querying (raw : Bool)
  /-- The completion of a raw cursor inside its query, with the fault of the query. -/
  | completing (pending : Option Fault)
  | opening (raw : Bool)
  | streaming (raw cursor : Bool)
  | fetching (raw : Bool)
  | finishing (raw : Bool) (next : AfterCursor)
  | saving (name : Nat)
  | undoing (name : Nat)
  | releasing (name : Nat)
  | exiting
  | joining
deriving DecidableEq, Repr

/-- Where `__aenter__` is. -/
inductive Entrance where
  | acquiring
  | beginning (lease : Nat) (calls : List BeginCall)
  | abandoning (lease : Nat)
deriving DecidableEq, Repr

/-- Where the closing task is. -/
inductive Closer where
  | absent
  | created (owner : Nat) (raised : Bool)
  | waiting (owner : Nat) (raised : Bool)
  | committing (lease : Nat)
  | rollingBack (lease : Nat)
  | restoring (lease : Nat) (committing : Bool) (rest : List (Pragma × Bool))
  | returning
  | finished
deriving DecidableEq, Repr

structure State where
  core : Core
  /-- The entry in progress and its task; `_entering` is set while there is one. -/
  entrance : Option (Nat × Entrance)
  streamOwner : Option Nat
  lock : Option Party
  queue : List Party
  tasks : Nat → Phase
  closer : Closer
  commitOutcome : CommitOutcome
  /-- `commit_outcome` of the adapter. -/
  adapterOutcome : CommitOutcome
  /-- `_previous_transaction_settings` of the adapter. -/
  previous : List (Pragma × Bool)
  acquired : Nat
  returns : List (Nat × Return)
  log : List Entry

def initial : State :=
  { core := Core.fresh, entrance := none, streamOwner := none, lock := none, queue := [],
    tasks := fun _ => .idle, closer := .absent, commitOutcome := .notAttempted,
    adapterOutcome := .notAttempted, previous := [], acquired := 0, returns := [], log := [] }

/-! ## Shared moves -/

def State.setTask (state : State) (task : Nat) (phase : Phase) : State :=
  { state with tasks := Function.update state.tasks task phase }

/-- `Lock.acquire`: the lock at once when nobody has it, else a place in the queue. -/
def State.request (state : State) (party : Party) : State :=
  if state.lock.isNone && state.queue.isEmpty then { state with lock := some party }
  else { state with queue := state.queue ++ [party] }

/-- `Lock.release`: the first in the queue has the lock from now on. -/
def State.unlock (state : State) : State :=
  { state with lock := state.queue.head?, queue := state.queue.tail }

/-- A wait for the lock that is cancelled, also after the lock was handed over. -/
def State.withdraw (state : State) (party : Party) : State :=
  if state.lock = some party then state.unlock
  else { state with queue := state.queue.erase party }

/-- The end of a call that holds the lock. -/
def State.finish (state : State) (task : Nat) : State :=
  (state.setTask task .idle).unlock

def State.record (state : State) (entry : Entry) : State :=
  { state with log := state.log ++ [entry] }

/-- An operation that ends in a fault. -/
def State.strike (state : State) (recoverConstraints : Bool) (fault : Fault) : State :=
  { state with
    core := state.core.settle recoverConstraints fault,
    log := state.log ++ [.faulted fault (state.core.stack.head?.map Scope.name)] }

def State.distrust (state : State) : State :=
  { state with core := { state.core with reusable := false } }

def State.handBack (state : State) (lease : Nat) (how : Return) : State :=
  { state with returns := state.returns ++ [(lease, how)] }

/-! ## Entering -/

/-- `Transaction.__aenter__` up to its first await. -/
def enter (state : State) (task : Nat) : State :=
  if state.entrance.isSome || state.core.connection.isSome then state
  else if state.core.closed then state
  else ({ state with entrance := some (task, .acquiring) }).setTask task .entering

/-- One acknowledged call of the adapter's `begin`; `found` is the setting that was read
before a pragma is overridden. -/
def begun (state : State) (task lease : Nat) (call : BeginCall) (rest : List BeginCall)
    (found : Bool) : State :=
  let told :=
    match call with
    | .override pragma =>
      { state.record (.overrode pragma found) with
        previous := state.previous ++ [(pragma, found)] }
    | .setTransaction => state.record .setTransaction
    | .begin => state.record .begun
  if rest.isEmpty then
    ({ told with
      entrance := none,
      core := { told.core with connection := some lease } }).setTask task .idle
  else { told with entrance := some (task, .beginning lease rest) }

/-- The handler of a failed `begin`, up to the await of the discard. Without a fault it was
the measurement that raised, before the first call. -/
def beginFailed (state : State) (task lease : Nat) (fault : Option Fault) : State :=
  let struck :=
    match fault with
    | some fault => state.strike false fault
    | none => state
  { struck.handBack lease .discard with entrance := some (task, .abandoning lease) }

/-- After the discard of a failed entry. When the discard itself raised, the transaction is
not closed. -/
def abandoned (state : State) (task : Nat) (completed : Bool) : State :=
  let settled :=
    if completed then
      { state with core := { state.core with reusable := false, closed := true } }
    else state
  ({ settled with entrance := none }).setTask task .idle

/-! ## Calls under the lock -/

/-- The checks of a call before it waits for the lock. -/
def checkAccess (state : State) (task : Nat) : Work → Bool
  | .query _ => (state.core.checkNestedOwner task).isOk
  | .stream _ => (state.core.checkNestedOwner task).isOk
  | .enterNested => (state.core.checkNestedOwner task).isOk && state.streamOwner.isNone
  | .exitNested name _ =>
    (state.core.checkNestedOwner task).isOk && state.streamOwner.isNone &&
      (state.core.checkNestedExit task name).isOk

def call (state : State) (task : Nat) (work : Work) : State :=
  if checkAccess state task work then (state.setTask task (.waiting work)).request (.task task)
  else state

/-- The checks of a query, a stream or a nested entry once it has the lock. -/
def admitted (state : State) (task : Nat) : Bool :=
  (state.core.checkNestedOwner task).isOk && state.core.requireConnection.isOk

/-- `_NestedTransaction.__aexit__` once it has the lock. -/
def beginExit (state : State) (task name : Nat) (raised : Bool) : State :=
  if !state.core.reusable || state.core.connection.isNone || state.core.closed then
    ({ state with core := state.core.pop }).finish task
  else if raised || state.core.scopeFailed name then state.setTask task (.undoing name)
  else state.setTask task (.releasing name)

/-- A call that has been given the lock. The plan of a query may still be refused, and an
empty one needs no driver. -/
def granted (state : State) (task : Nat) (accepted : Bool) : Work → State
  | .query raw =>
    if admitted state task && accepted then state.setTask task (.querying raw)
    else state.finish task
  | .stream raw =>
    if admitted state task && accepted then state.setTask task (.opening raw)
    else state.finish task
  | .enterNested =>
    if admitted state task then
      ({ state with core := state.core.nextName.1 }).setTask task
        (.saving state.core.nextName.2)
    else state.finish task
  | .exitNested name raised => beginExit state task name raised

/-- How a driver operation of a task came back. -/
inductive Reply where
  | done
  /-- A raw statement has run, with or without a fault, and its cursor is completed next. -/
  | completing (pending : Option Fault)
  /-- The completion of a raw cursor found results beyond the first. -/
  | additional
  /-- No rows are left. -/
  | exhausted
  /-- The rows or the shape of the result were not what the caller asked for. -/
  | invalid
  | fault (fault : Fault)
deriving DecidableEq, Repr

/-- The end of a raw query whose cursor was completed. -/
def completed (state : State) (task : Nat) (pending : Option Fault) : State :=
  match pending with
  | none => state.finish task
  | some fault => (state.strike true fault).finish task

/-- The completion of a raw cursor failed inside its query: both operations did. -/
def completionFailed (state : State) (task : Nat) (pending : Option Fault) (fault : Fault) :
    State :=
  let outer := if pending = some .cancelled then Fault.cancelled else .error
  ((state.strike true fault).strike true outer).finish task

/-- What a stream does once its cursor was closed. -/
def cursorClosed (state : State) (task : Nat) (raw : Bool) : AfterCursor → State
  | .stays => state.setTask task (.streaming raw false)
  | .leaves => ({ state with streamOwner := none }).finish task
  | .aborts => state.finish task

/-- A fetch that a raw stream does not survive. -/
def afterFetch (state : State) (task : Nat) (raw : Bool) : State :=
  if raw then state.setTask task (.finishing raw .stays)
  else state.setTask task (.streaming raw true)

/-- The step of a task whose driver operation came back. -/
def replied (state : State) (task : Nat) : Phase → Reply → Option State
  | .querying false, .done => some (state.finish task)
  | .querying true, .completing pending => some (state.setTask task (.completing pending))
  | .querying _, .fault fault => some ((state.strike true fault).finish task)
  | .completing pending, .done => some (completed state task pending)
  | .completing pending, .additional => some (completed state.distrust task pending)
  | .completing pending, .fault fault => some (completionFailed state task pending fault)
  | .opening raw, .done =>
    some (({ state with streamOwner := some task }).setTask task (.streaming raw true))
  | .opening true, .invalid => some (state.setTask task (.finishing true .aborts))
  | .opening _, .fault fault => some ((state.strike true fault).finish task)
  | .fetching raw, .done => some (state.setTask task (.streaming raw true))
  | .fetching raw, .exhausted => some (afterFetch state task raw)
  | .fetching raw, .invalid => some (afterFetch state task raw)
  | .fetching raw, .fault fault => some (afterFetch (state.strike true fault) task raw)
  | .finishing raw next, .done => some (cursorClosed state task raw next)
  | .finishing true next, .additional => some (cursorClosed state.distrust task true next)
  | .finishing raw next, .fault fault =>
    some (cursorClosed (state.strike true fault) task raw next)
  | .saving name, .done =>
    some (({ state.record (.savepoint name) with
      core := state.core.push task name }).finish task)
  | .saving _, .fault fault => some ((state.strike false fault).finish task)
  | .undoing name, .done =>
    some ((state.record (.rolledBackTo name)).setTask task (.releasing name))
  | .releasing name, .done =>
    some (({ state.record (.released name) with core := state.core.pop }).finish task)
  | .undoing _, .fault fault | .releasing _, .fault fault =>
    some (({ state.strike false fault with
      core := (state.core.settle false fault).pop }).finish task)
  | _, _ => none

/-- `ChunkStream.__anext__` of the task that has the stream open. -/
def fetch (state : State) (task : Nat) (raw : Bool) : State :=
  if (state.core.checkNestedOwner task).isOk then state.setTask task (.fetching raw) else state

/-- `ChunkStream.__aexit__`. -/
def leave (state : State) (task : Nat) (raw cursor : Bool) : State :=
  if (state.core.checkNestedOwner task).isOk then
    if cursor then state.setTask task (.finishing raw .leaves)
    else cursorClosed state task raw .leaves
  else state

/-! ## Exiting and the closing task -/

/-- `Transaction.__aexit__` up to its first await. -/
def exit (state : State) (task : Nat) (raised : Bool) : State :=
  if !(state.core.checkNestedOwner task).isOk then state
  else if state.streamOwner = some task then state
  else if state.closer ≠ .absent then state.setTask task .joining
  else ({ state with closer := .created task raised }).setTask task .exiting

/-- The `finally` of the managed commit: evidence of the adapter settles the outcome. -/
def State.takeEvidence (state : State) : State :=
  if state.adapterOutcome = .committed ∨ state.adapterOutcome = .rejected then
    { state with commitOutcome := state.adapterOutcome }
  else state

/-- The `finally` of `_close`. -/
def State.giveBack (state : State) (lease : Nat) : State :=
  { state.handBack lease (if state.core.reusable then .release else .discard) with
    closer := .returning }

/-- `_close` once it has the lock. -/
def close (state : State) (owner : Nat) (raised : Bool) : State :=
  match state.core.checkNestedOwner owner, state.core.connection with
  | .error _, _ => ({ state with closer := .finished }).unlock
  | .ok (), none => ({ state with closer := .finished }).unlock
  | .ok (), some lease =>
    let taken := { state with core := state.core.close }
    match state.core.ending raised with
    | .discard => { taken.handBack lease .discard with closer := .returning }
    | .commit =>
      { taken.record .commitSent with
        commitOutcome := .unknown, adapterOutcome := .unknown, closer := .committing lease }
    | .rollback => { taken with closer := .rollingBack lease }

/-- How a driver call of the closing task came back. -/
inductive Answer where
  | acknowledged
  | refused (error : CommitError) (inTransaction : Bool)
  | fault (fault : Fault)
deriving DecidableEq, Repr

/-- The commit or the rollback, with what is left of it, has raised. -/
def closeFailed (state : State) (lease : Nat) (committing : Bool) (fault : Fault) : State :=
  let struck := state.strike false fault
  (if committing then struck.takeEvidence else struck).giveBack lease

/-- The step of the closing task when its driver call came back. An acknowledgement with
nothing left to restore is the return of the adapter's `commit` or `rollback`. -/
def answered (config : Config) (state : State) : Closer → Answer → Option State
  | .committing lease, .acknowledged =>
    some { state.record .commitAcknowledged with
      adapterOutcome := .committed, closer := .restoring lease true state.previous }
  | .committing lease, .refused error inTransaction =>
    let told := state.record (.commitRefused error inTransaction)
    some (closeFailed
      (if rejects config.backend error inTransaction then
        { told with adapterOutcome := .rejected }
      else told) lease true .error)
  | .committing lease, .fault fault => some (closeFailed state lease true fault)
  | .rollingBack lease, .acknowledged =>
    some { state.record .rollbackAcknowledged with
      closer := .restoring lease false state.previous }
  | .rollingBack lease, .fault fault => some (closeFailed state lease false fault)
  | .restoring lease committing ((pragma, value) :: rest), .acknowledged =>
    some { state.record (.restored pragma value) with
      closer := .restoring lease committing rest }
  | .restoring lease committing [], .acknowledged =>
    let cleared := { state with previous := [] }
    some ((if committing then { cleared with commitOutcome := .committed }
      else cleared).giveBack lease)
  | .restoring lease committing _, .fault fault =>
    some (closeFailed state lease committing fault)
  | _, _ => none

/-! ## The system -/

inductive Event where
  | enter (task : Nat)
  | acquireFailed
  | acquired
  | begun (found : Bool)
  | beginFailed (fault : Option Fault)
  | abandoned (completed : Bool)
  | call (task : Nat) (work : Work)
  | withdraw (task : Nat)
  | granted (task : Nat) (accepted : Bool)
  | replied (task : Nat) (reply : Reply)
  | fetch (task : Nat)
  | leave (task : Nat)
  | exit (task : Nat) (raised : Bool)
  /-- An exit returns; one that only waits for another's may do so at any time. -/
  | returned (task : Nat)
  | closerStarts
  | closerCancelled
  | closerGranted
  | closerAnswered (answer : Answer)
  /-- The release or the discard of the pool has ended, well or not. -/
  | closerReturns
deriving DecidableEq, Repr

def step (config : Config) (state : State) : Event → Option State
  | .enter task => if state.tasks task = .idle then some (enter state task) else none
  | .acquireFailed =>
    match state.entrance with
    | some (task, .acquiring) => some (({ state with entrance := none }).setTask task .idle)
    | _ => none
  | .acquired =>
    match state.entrance with
    | some (task, .acquiring) =>
      some { state with
        entrance := some (task, .beginning state.acquired config.beginCalls),
        acquired := state.acquired + 1, adapterOutcome := .notAttempted, previous := [] }
    | _ => none
  | .begun found =>
    match state.entrance with
    | some (task, .beginning lease (call :: rest)) => some (begun state task lease call rest found)
    | _ => none
  | .beginFailed fault =>
    match state.entrance with
    | some (task, .beginning lease calls) =>
      if fault.isSome || calls = config.beginCalls then
        some (beginFailed state task lease fault)
      else none
    | _ => none
  | .abandoned completed =>
    match state.entrance with
    | some (task, .abandoning _) => some (abandoned state task completed)
    | _ => none
  | .call task work =>
    match state.tasks task with
    | .idle => some (call state task work)
    -- The lock of an open stream is not reentrant.
    | .streaming _ _ => some state
    | _ => none
  | .withdraw task =>
    match state.tasks task with
    | .waiting _ => some ((state.setTask task .idle).withdraw (.task task))
    | _ => none
  | .granted task accepted =>
    match state.tasks task with
    | .waiting work =>
      if state.lock = some (.task task) then some (granted state task accepted work) else none
    | _ => none
  | .replied task reply => replied state task (state.tasks task) reply
  | .fetch task =>
    match state.tasks task with
    | .streaming raw true => some (fetch state task raw)
    | _ => none
  | .leave task =>
    match state.tasks task with
    | .streaming raw cursor => some (leave state task raw cursor)
    | _ => none
  | .exit task raised =>
    match state.tasks task with
    | .idle => some (exit state task raised)
    | .streaming _ _ => some state
    | _ => none
  | .returned task =>
    match state.tasks task with
    | .joining => some (state.setTask task .idle)
    | .exiting => if state.closer = .finished then some (state.setTask task .idle) else none
    | _ => none
  | .closerStarts =>
    match state.closer with
    | .created owner raised =>
      some (({ state with closer := .waiting owner raised }).request .closer)
    | _ => none
  | .closerCancelled =>
    match state.closer with
    | .created _ _ => some { state with closer := .finished }
    | .waiting _ _ => some (({ state with closer := .finished }).withdraw .closer)
    | _ => none
  | .closerGranted =>
    match state.closer with
    | .waiting owner raised =>
      if state.lock = some .closer then some (close state owner raised) else none
    | _ => none
  | .closerAnswered answer => answered config state state.closer answer
  | .closerReturns =>
    match state.closer with
    | .returning => some (({ state with closer := .finished }).unlock)
    | _ => none

end Snekql.SharedTransaction
