import Snekql.GateMoves

/-!
# The MariaDB connection pool

`MariaDBConnectionPool` puts the admission gate in front of the driver's pool. The model follows
one acquirer from the gate through its checkout to the return of its slot, next to the driver's
pool and the owned shutdown `_close`.

As in the gate, an event runs one coroutine to its next suspension, and carries what the driver,
the clock and the observers did. The driver's `acquire` is a suspension of its own, whether or not
it suspends: it ends with a connection from the driver's free list or raises and leaves none. Every
other driver call is synchronous, except the health probe, the session configuration and
`wait_closed`. A deadline of `fail_after` and a cancellation take the same way out of a suspension.
The driver opens connections into its free list while its size allows, and closes stale ones.

Connections are numbered in the order they were opened; a physical connection is never opened
again. `configured` and `marked` are the connections whose session configuration completed, and
those of them that carry the marker. `taken`, `returned` and `returns` are history: the checkouts,
the returns to the driver, and the acquirers that gave their slot back. The counters that only feed
`PoolStats` are left out.
-/

namespace Snekql.MariadbPool

/-- What an acquirer's slot is being used for. -/
inductive Checkout where
  /-- Not admitted: still at the gate, or turned away there. -/
  | outside
  /-- `_checkout` awaits the driver's `acquire`. -/
  | acquiring
  /-- `_checkout` has returned an expired connection and yields before the next one. -/
  | recycling
  /-- `_checkout` awaits the health probe. -/
  | pinging (connection : Nat)
  /-- `_ensure_configured` awaits the session configuration. -/
  | configuring (connection : Nat)
  /-- The caller works with a connection. -/
  | held (connection : Nat)
  /-- The slot was given back. -/
  | done
deriving DecidableEq, Repr

/-- Where the owned shutdown task is suspended. -/
inductive Closer where
  | absent
  | starting
  /-- On the gate's condition, until no slot is taken. -/
  | waiting
  /-- In the driver's `wait_closed`. -/
  | draining
deriving DecidableEq, Repr

/-- One return of a connection to the driver: whether it was physically closed then, and
whether the pool had given it up. -/
structure Return where
  connection : Nat
  closed : Bool
  discarded : Bool
deriving DecidableEq, Repr

/-- The driver's pool, its connections numbered below `opened`. -/
structure Driver where
  free : List Nat
  used : List Nat
  shut : List Nat
  closing : Bool
  opened : Nat
  taken : List Nat
  returned : List Return
deriving DecidableEq, Repr

structure State where
  gate : PoolGate.State
  driver : Driver
  closed : Bool
  closing : Bool
  configured : List Nat
  marked : List Nat
  checkouts : List Checkout
  closer : Closer
  returns : List Nat
deriving DecidableEq, Repr

/-- A pool as `__init__` leaves it, over a driver pool that has opened nothing. -/
def initial : State :=
  { gate := PoolGate.initial
    driver :=
      { free := [], used := [], shut := [], closing := false, opened := 0, taken := [],
        returned := [] }
    closed := false, closing := false, configured := [], marked := [], checkouts := [],
    closer := .absent, returns := [] }

namespace Driver

/-- The driver opens a connection if its size allows. -/
def fill (driver : Driver) (capacity : Nat) : Option Driver :=
  if driver.free.length + driver.used.length < capacity then
    some { driver with free := driver.free ++ [driver.opened], opened := driver.opened + 1 }
  else none

/-- A free connection is found stale and closed. -/
def drop (driver : Driver) (connection : Nat) : Option Driver :=
  if connection ∈ driver.free then
    some { driver with
      free := driver.free.erase connection, shut := driver.shut ++ [connection] }
  else none

/-- `acquire` hands out a free connection. -/
def take (driver : Driver) (connection : Nat) : Driver :=
  { driver with
    free := driver.free.erase connection
    used := driver.used ++ [connection]
    taken := driver.taken ++ [connection] }

/-- `connection.close()`. -/
def close (driver : Driver) (connection : Nat) : Driver :=
  { driver with shut := driver.shut ++ [connection] }

/-- `release`: a connection that is closed already is forgotten, one with an open transaction or
of a closing pool is closed, and any other becomes free. -/
def release (driver : Driver) (connection : Nat) (inTransaction discarded : Bool) : Driver :=
  let noted : Driver := { driver with
    used := driver.used.erase connection
    returned := driver.returned ++
      [{ connection, closed := driver.shut.contains connection, discarded }] }
  if connection ∈ driver.shut then noted
  else if inTransaction || driver.closing then noted.close connection
  else { noted with free := driver.free ++ [connection] }

/-- `close` and `release` of a connection the pool gives up. -/
def discard (driver : Driver) (connection : Nat) : Driver :=
  (driver.close connection).release connection false true

/-- `wait_closed` closes what is free. -/
def drain (driver : Driver) : Driver :=
  { driver with free := [], shut := driver.shut ++ driver.free }

end Driver

namespace State

def put (state : State) (task : Nat) (checkout : Checkout) : State :=
  { state with checkouts := state.checkouts.set task checkout }

/-- `gate.release()` on behalf of one acquirer. -/
def giveBack (state : State) (task : Nat) : State :=
  { state with
    gate := state.gate.release task (state.gate.ticketAt task) .released
    checkouts := state.checkouts.set task .done
    returns := state.returns ++ [task] }

/-- `discard`, and equally the failure paths of the probe and of the configuration: the connection
is closed and returned before the slot. -/
def discard (state : State) (task connection : Nat) : State :=
  ({ state with driver := state.driver.discard connection }).giveBack task

/-- `release`. -/
def release (state : State) (task connection : Nat) (inTransaction : Bool) : State :=
  ({ state with driver := state.driver.release connection inTransaction false }).giveBack task

/-- The end of `_acquire` and `acquire`: the caller gets the connection, unless the pool stopped
accepting work or the observer of the finished checkout raises. -/
def deliver (state : State) (task connection : Nat) (observerFails : Bool) : State :=
  if state.closed || state.closing then state.discard task connection
  else if observerFails then state.discard task connection
  else state.put task (.held connection)

/-- `_ensure_configured` up to its suspension. -/
def ensureConfigured (state : State) (task connection : Nat) (observerFails : Bool) : State :=
  if connection ∈ state.marked then state.deliver task connection observerFails
  else state.put task (.configuring connection)

/-- `_checkout` after the driver's `acquire` returned a connection. An expired connection is
closed and returned, and the loop goes round. -/
def checkOut (state : State) (healthCheck : Bool) (task connection : Nat)
    (expired observerFails : Bool) : State :=
  let taken : State := { state with driver := state.driver.take connection }
  if expired then
    ({ taken with driver := taken.driver.discard connection }).put task .recycling
  else if healthCheck then taken.put task (.pinging connection)
  else taken.ensureConfigured task connection observerFails

/-- `_ensure_configured` after the configuration completed; the marker may be refused. -/
def finishConfiguration (state : State) (task connection : Nat) (marks observerFails : Bool) :
    State :=
  ({ state with
    configured := state.configured ++ [connection]
    marked := if marks then state.marked ++ [connection] else state.marked }).deliver task
      connection observerFails

/-- `_close` once no slot is taken, or on the condition until then. -/
def recheck (state : State) : State :=
  { state with closer := if state.gate.admitted = 0 then .draining else .waiting }

/-- The start of `_close`, up to its first suspension. -/
def startClose (state : State) : State :=
  if state.closed then { state with closer := .absent }
  else
    ({ state with
      closing := true
      gate := ({ state.gate with accepting := false }).notifyAll
      driver := { state.driver with closing := true } }).recheck

/-- `wait_closed` returns or raises. -/
def finishClose (state : State) (ok : Bool) : State :=
  if ok then
    { state with
      closed := true, closing := false, closer := .absent, driver := state.driver.drain }
  else { state with closer := .absent }

end State

/-- One scheduling decision together with what the driver, the clock and the observers did. -/
inductive Event where
  | arrive
  | resume (task : Nat) (expired observerFails startFails : Bool)
  | cancel (task : Nat)
  | expire (task : Nat)
  | acquired (task connection : Nat) (expired observerFails : Bool)
  | refused (task : Nat)
  | pinged (task : Nat) (ok observerFails : Bool)
  | configured (task : Nat) (ok marks observerFails : Bool)
  | release (task : Nat) (inTransaction : Bool)
  | discard (task : Nat)
  | fill
  | drop (connection : Nat)
  | close
  | startClose
  | recheck
  | closeTimeout
  | drained (ok : Bool)
deriving DecidableEq, Repr

variable (capacity : Nat) (healthCheck : Bool)

/-- An acquirer at the gate takes a turn there. If that admitted it, it goes on to the driver's
`acquire`, unless the observer of the starting checkout raises. -/
def gateTurn (state : State) (task : Nat) (event : PoolGate.Event) (startFails : Bool) :
    Option State :=
  (PoolGate.step capacity state.gate event).map fun (gate : PoolGate.State) =>
    let turned := { state with gate := gate }
    match gate.tasks[task]? with
    | some (.admitted _) =>
      if startFails then turned.giveBack task else turned.put task .acquiring
    | _ => turned

/-- A deadline or a cancellation strikes an acquirer where it is suspended. -/
def interrupt (state : State) (task : Nat) (event : PoolGate.Event) : Option State :=
  match state.checkouts[task]? with
  | some .outside => gateTurn capacity state task event false
  | some .acquiring | some .recycling => some (state.giveBack task)
  | some (.pinging connection) | some (.configuring connection) =>
    some (state.discard task connection)
  | _ => none

/-- Let the event's coroutine run to its next suspension point. -/
def step (state : State) : Event → Option State
  | .arrive =>
    (PoolGate.step capacity state.gate .arrive).map fun gate =>
      { state with gate := gate, checkouts := state.checkouts ++ [.outside] }
  | .resume task expired observerFails startFails =>
    match state.checkouts[task]? with
    | some .outside =>
      gateTurn capacity state task (.resume task expired observerFails) startFails
    | some .recycling => some (state.put task .acquiring)
    | _ => none
  | .cancel task => interrupt capacity state task (.cancel task)
  | .expire task => interrupt capacity state task (.expire task)
  | .acquired task connection expired observerFails =>
    if state.checkouts[task]? = some .acquiring ∧ connection ∈ state.driver.free then
      some (state.checkOut healthCheck task connection expired observerFails)
    else none
  | .refused task =>
    if state.checkouts[task]? = some .acquiring then some (state.giveBack task) else none
  | .pinged task ok observerFails =>
    match state.checkouts[task]? with
    | some (.pinging connection) =>
      if ok then some (state.ensureConfigured task connection observerFails)
      else some (state.discard task connection)
    | _ => none
  | .configured task ok marks observerFails =>
    match state.checkouts[task]? with
    | some (.configuring connection) =>
      if ok then some (state.finishConfiguration task connection marks observerFails)
      else some (state.discard task connection)
    | _ => none
  | .release task inTransaction =>
    match state.checkouts[task]? with
    | some (.held connection) => some (state.release task connection inTransaction)
    | _ => none
  | .discard task =>
    match state.checkouts[task]? with
    | some (.held connection) => some (state.discard task connection)
    | _ => none
  | .fill => (state.driver.fill capacity).map fun driver => { state with driver := driver }
  | .drop connection =>
    (state.driver.drop connection).map fun driver => { state with driver := driver }
  | .close =>
    if state.closer = .absent ∧ state.closed = false then some { state with closer := .starting }
    else some state
  | .startClose => if state.closer = .starting then some state.startClose else none
  | .recheck => if state.closer = .waiting then some state.recheck else none
  | .closeTimeout =>
    if state.closer = .waiting ∨ state.closer = .draining then
      some { state with closer := .absent }
    else none
  | .drained ok => if state.closer = .draining then some (state.finishClose ok) else none

end Snekql.MariadbPool
