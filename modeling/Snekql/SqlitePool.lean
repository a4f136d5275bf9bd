import Snekql.GateMoves

/-!
# The SQLite connection pool

`SQLiteConnectionPool` puts the admission gate in front of a list of idle
connections and opens connections lazily. The model follows one acquirer from the
gate through its checkout to the return of its slot, together with the tasks the
pool starts on its behalf: the opener, the reaper `_close_opening` of an abandoned
opener, and `_close_discarded`. One further task is the owned shutdown `_close`.

As in the gate, an event runs one coroutine to its next suspension. Driver calls
are the suspension points: the event carries whether the call returned or raised.
`Connection.interrupt` is a plain call behind an asynchronous signature, so
`release` and `discard` run without suspending. `connect` either returns a
connection or raises and leaves none. Nobody cancels the pool's own tasks except
`_acquire`, which cancels an opener it gives up on; that cancellation ignores the
AnyIO shield around the opener's clean-up. The shutdown task waiting on the
condition may be resumed at any time, as it only tests the count again.

Connections are numbered in the order they were opened, the initial one first.
`shut`, `failed` and `returns` are history: the connections physically closed, those
whose close has failed at some time, and the acquirers that gave their slot back.
The counters that only feed `PoolStats` are left out.
-/

namespace Snekql.SqlitePool

/-- Where `open_sqlite_connection` is suspended, or how it ended. -/
inductive Opener where
  | connecting
  | configuring (connection : Nat)
  | cleaning (connection : Nat)
  | opened (connection : Nat)
  | raised
deriving DecidableEq, Repr

/-- What an acquirer's slot is being used for. -/
inductive Checkout where
  /-- Not admitted: still at the gate, or turned away there. -/
  | outside
  /-- `_acquire` awaits its opener. -/
  | opening (opener : Opener)
  /-- The acquirer works with a connection. -/
  | held (connection : Nat)
  /-- `_close_opening` awaits the opener of an acquirer that has left. -/
  | reaping (opener : Opener)
  /-- `_close_discarded` awaits the physical close. -/
  | discarding (connection : Nat)
  /-- The slot was given back. -/
  | done
deriving DecidableEq, Repr

/-- The two calls of `close_connections` in `_close`. -/
inductive Round where
  | first
  | last
deriving DecidableEq, Repr

/-- Where the owned shutdown task is suspended. -/
inductive Closer where
  | absent
  | starting
  | draining (round : Round) (queue : List Nat) (erred : Bool)
  | waiting
deriving DecidableEq, Repr

/-- The pool with its gate. `idle` has the most recently returned connection first;
`pending` is `_pending_close_connections`. -/
structure State where
  gate : PoolGate.State
  idle : List Nat
  pending : List Nat
  closed : Bool
  closing : Bool
  checkouts : List Checkout
  closer : Closer
  opened : Nat
  shut : List Nat
  failed : List Nat
  strays : List Nat
  returns : List Nat
deriving DecidableEq, Repr

/-- A pool as `__init__` leaves it, with its proved initial connection. -/
def initial : State :=
  { gate := PoolGate.initial, idle := [0], pending := [], closed := false, closing := false,
    checkouts := [], closer := .absent, opened := 1, shut := [], failed := [], strays := [],
    returns := [] }

namespace State

def put (state : State) (task : Nat) (checkout : Checkout) : State :=
  { state with checkouts := state.checkouts.set task checkout }

/-- Change what `check_accepting_work` reads and wake everyone on the condition. -/
def setFlags (state : State) (closed closing : Bool) : State :=
  { state with
    closed := closed
    closing := closing
    gate := ({ state.gate with accepting := !closed && !closing }).notifyAll }

/-- `gate.release()` on behalf of one acquirer. -/
def giveBack (state : State) (task : Nat) : State :=
  { state with
    gate := state.gate.release task (state.gate.ticketAt task) .released
    checkouts := state.checkouts.set task .done
    returns := state.returns ++ [task] }

/-- A physical close that succeeded. -/
def shutDown (state : State) (connection : Nat) : State :=
  { state with shut := state.shut ++ [connection] }

/-- A physical close that raised. -/
def recordFailure (state : State) (connection : Nat) : State :=
  { state with failed := state.failed ++ [connection] }

/-- `discard`: hand the connection to a detached `_close_discarded`. -/
def discard (state : State) (task connection : Nat) : State :=
  state.put task (.discarding connection)

/-- The end of `acquire`: the caller gets the connection, unless the observer of
the finished checkout raises. -/
def deliver (state : State) (task connection : Nat) (observerFails : Bool) : State :=
  if observerFails then state.discard task connection else state.put task (.held connection)

/-- `acquire` after `admit`, up to its next suspension: reuse the idle connection
returned last, or start an opener. -/
def acquire (state : State) (task : Nat) (startFails finishFails : Bool) : State :=
  if startFails then state.giveBack task
  else
    match state.idle with
    | connection :: rest => ({ state with idle := rest }).deliver task connection finishFails
    | [] => state.put task (.opening .connecting)

/-- `_acquire` after its opener has finished. A connection opened for a pool that
stopped accepting work is left to the reaper, like a failed opener. -/
def resumeOpening (state : State) (task : Nat) (opener : Opener) (finishFails : Bool) : State :=
  match opener with
  | .opened connection =>
    if state.closed || state.closing then state.put task (.reaping opener)
    else state.deliver task connection finishFails
  | _ => state.put task (.reaping opener)

/-- `opening.cancel()`. A clean-up that is under way is abandoned: nobody learns
how the physical close ends. -/
def cancelOpener (state : State) : Opener → State × Opener
  | .connecting => (state, .raised)
  | .configuring connection => (state, .cleaning connection)
  | .cleaning connection =>
    ({ state with strays := state.strays ++ [connection] }, .raised)
  | finished => (state, finished)

/-- `_acquire` interrupted by its deadline or a cancellation: detach the opener. -/
def abandon (state : State) (task : Nat) (opener : Opener) : State :=
  let (cancelled, rest) := state.cancelOpener opener
  cancelled.put task (.reaping rest)

/-- `_close_opening` once the opener has finished. -/
def reap (state : State) (task : Nat) : Opener → Option State
  | .opened connection => some (state.put task (.discarding connection))
  | .raised => some (state.giveBack task)
  | _ => none

/-- One driver call of `open_sqlite_connection` returns or raises. A clean-up
close that raises is suppressed. -/
def runOpener (state : State) (ok : Bool) : Opener → Option (State × Opener)
  | .connecting =>
    if ok then some ({ state with opened := state.opened + 1 }, .configuring state.opened)
    else some (state, .raised)
  | .configuring connection =>
    if ok then some (state, .opened connection) else some (state, .cleaning connection)
  | .cleaning connection =>
    if ok then some (state.shutDown connection, .raised)
    else some (state.recordFailure connection, .raised)
  | _ => none

/-- `release`. -/
def release (state : State) (task connection : Nat) : State :=
  if state.closed || state.closing then state.discard task connection
  else ({ state with idle := connection :: state.idle }).giveBack task

/-- `_close_discarded` once the physical close has ended. -/
def closeDiscarded (state : State) (task connection : Nat) (ok : Bool) : State :=
  if ok then (state.shutDown connection).giveBack task
  else
    (({ state.recordFailure connection with
        pending := state.pending ++ [connection] }).setFlags state.closed true).giveBack task

/-- `close_connections` up to its first driver call, on all idle connections. -/
def beginDrain (state : State) (round : Round) : State :=
  { state with
    idle := []
    pending := state.pending ++ state.idle.reverse
    closer := .draining round (state.pending ++ state.idle.reverse) false }

/-- `_close` reaches its end. -/
def complete (state : State) : State :=
  { state.setFlags true false with closer := .absent }

/-- `_close` gives up waiting for checked-out work. -/
def closeTimedOut (state : State) : State :=
  { state.setFlags state.closed (!state.pending.isEmpty) with closer := .absent }

/-- One turn of the waiting loop of `_close`. -/
def recheck (state : State) (expired : Bool) : State :=
  if state.gate.admitted = 0 then
    let drained := state.beginDrain .last
    if drained.pending.isEmpty then drained.complete else drained
  else if expired then state.closeTimedOut
  else { state with closer := .waiting }

/-- `close_connections` has tried every handle of its snapshot. -/
def afterDrain (state : State) (round : Round) (erred expired : Bool) : State :=
  if erred then { state with closer := .absent }
  else
    match round with
    | .first => state.recheck expired
    | .last => state.complete

/-- The start of `_close`, up to its first suspension. -/
def startClose (state : State) (expired : Bool) : State :=
  if state.closed then { state with closer := .absent }
  else
    let drained := (state.setFlags state.closed true).beginDrain .first
    if drained.pending.isEmpty then drained.afterDrain .first false expired else drained

/-- One physical close of `close_connections` ends. -/
def closeNext (state : State) (round : Round) (connection : Nat) (rest : List Nat)
    (erred ok expired : Bool) : State :=
  let tried :=
    if ok then { state.shutDown connection with pending := state.pending.erase connection }
    else state.recordFailure connection
  let erred := erred || !ok
  if rest.isEmpty then tried.afterDrain round erred expired
  else { tried with closer := .draining round rest erred }

end State

/-- One scheduling decision together with what the driver, the clock and the
observers did in it. -/
inductive Event where
  | arrive
  | resume (task : Nat) (expired observerFails startFails finishFails : Bool)
  | cancel (task : Nat)
  | expire (task : Nat)
  | opener (task : Nat) (ok : Bool)
  | reap (task : Nat)
  | release (task : Nat)
  | discard (task : Nat)
  | discarded (task : Nat) (ok : Bool)
  | close
  | startClose (expired : Bool)
  | closeNext (ok expired : Bool)
  | recheck (expired : Bool)
  | closeTimeout
  | stray (connection : Nat)
deriving DecidableEq, Repr

/-- An acquirer at the gate takes a turn there and goes on to its checkout in the
same run if that admitted it. -/
def gateTurn (capacity : Nat) (state : State) (task : Nat) (event : PoolGate.Event)
    (startFails finishFails : Bool) : Option State :=
  (PoolGate.step capacity state.gate event).map fun (gate : PoolGate.State) =>
    let turned := { state with gate := gate }
    match gate.tasks[task]? with
    | some (.admitted _) => turned.acquire task startFails finishFails
    | _ => turned

/-- An interruption strikes an acquirer at the gate or while it awaits its opener. -/
def interrupt (capacity : Nat) (state : State) (task : Nat) (event : PoolGate.Event) :
    Option State :=
  match state.checkouts[task]? with
  | some .outside => gateTurn capacity state task event false false
  | some (.opening opener) => some (state.abandon task opener)
  | _ => none

/-- Let the event's coroutine run to its next suspension point. -/
def step (capacity : Nat) (state : State) : Event → Option State
  | .arrive =>
    (PoolGate.step capacity state.gate .arrive).map fun gate =>
      { state with gate := gate, checkouts := state.checkouts ++ [.outside] }
  | .resume task expired observerFails startFails finishFails =>
    match state.checkouts[task]? with
    | some .outside =>
      gateTurn capacity state task (.resume task expired observerFails) startFails finishFails
    | some (.opening (.opened connection)) =>
      some (state.resumeOpening task (.opened connection) finishFails)
    | some (.opening .raised) => some (state.resumeOpening task .raised finishFails)
    | _ => none
  | .cancel task => interrupt capacity state task (.cancel task)
  | .expire task => interrupt capacity state task (.expire task)
  | .opener task ok =>
    match state.checkouts[task]? with
    | some (.opening opener) =>
      (state.runOpener ok opener).map fun (after, opener) => after.put task (.opening opener)
    | some (.reaping opener) =>
      (state.runOpener ok opener).map fun (after, opener) => after.put task (.reaping opener)
    | _ => none
  | .reap task =>
    match state.checkouts[task]? with
    | some (.reaping opener) => state.reap task opener
    | _ => none
  | .release task =>
    match state.checkouts[task]? with
    | some (.held connection) => some (state.release task connection)
    | _ => none
  | .discard task =>
    match state.checkouts[task]? with
    | some (.held connection) => some (state.discard task connection)
    | _ => none
  | .discarded task ok =>
    match state.checkouts[task]? with
    | some (.discarding connection) => some (state.closeDiscarded task connection ok)
    | _ => none
  | .close =>
    if state.closer = .absent ∧ state.closed = false then some { state with closer := .starting }
    else some state
  | .startClose expired =>
    if state.closer = .starting then some (state.startClose expired) else none
  | .closeNext ok expired =>
    match state.closer with
    | .draining round (connection :: rest) erred =>
      some (state.closeNext round connection rest erred ok expired)
    | _ => none
  | .recheck expired =>
    if state.closer = .waiting then some (state.recheck expired) else none
  | .closeTimeout =>
    if state.closer = .waiting then some state.closeTimedOut else none
  | .stray connection =>
    if connection ∈ state.strays then
      some { state.shutDown connection with strays := state.strays.erase connection }
    else none

end Snekql.SqlitePool
