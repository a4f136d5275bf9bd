import Snekql.Runs

/-!
# The FIFO admission gate

`FairAdmissionGate` bounds the number of concurrent checkouts of a connection
pool and serves parked acquirers in arrival order. The model follows one
acquisition, an *acquirer*, from the call of `admit` to the return of its slot.
Any number of acquirers may arrive; a task that acquires several connections is
several acquirers.

An event lets one coroutine run from its current suspension point to the next.
`asyncio.Lock.acquire` suspends only when the lock is taken, so `lockFor` runs
the critical section at once on a free lock and joins the lock's queue otherwise.
A cancellation is delivered at any suspension point, whether or not an AnyIO
shield surrounds it, because `Task.cancel` ignores such shields. Deadlines are
read from a clock outside the model: the event says whether the remaining time
was already used up, and `expire` is the deadline striking a parked acquirer.
-/

namespace Snekql.PoolGate

/-- Why an acquirer that is leaving the gate leaves it. -/
inductive Departure where
  | timedOut
  | cancelled
  | refused
  | observerFailed
  | released
deriving DecidableEq, Repr

/-- What a suspended lock acquisition goes on to do with the lock. -/
inductive Continuation where
  /-- `async with self.condition` in the admission loop. -/
  | claim (ticket : Option Nat)
  /-- `Condition.wait` taking its lock back, with the interruption it will raise. -/
  | wake (ticket : Nat) (interrupt : Option Departure)
  /-- The `finally` of `_admit`, dropping the ticket of a leaving acquirer. -/
  | discard (ticket : Nat) (departure : Departure)
  /-- `release`, giving the slot back. -/
  | free (ticket : Option Nat) (departure : Departure)
deriving DecidableEq, Repr

/-- Where an acquirer is suspended. The last two phases are outside the gate and
keep the ticket the acquirer had taken, if it ever parked. -/
inductive Phase where
  | checkpoint (ticket : Option Nat)
  | lockQueue (next : Continuation)
  | parked (ticket : Nat) (notified : Bool)
  | admitted (ticket : Option Nat)
  | left (departure : Departure) (ticket : Option Nat)
deriving DecidableEq, Repr

/-- `admitted`, `_waiters`, `_next_ticket` and the condition's lock, with every
acquirer's suspension point. `accepting` is whether `check_accepting_work`, which
the pool supplies, returns rather than raises. `served` is history: the tickets of
the acquirers that claimed a slot, oldest first, `none` for one that never parked. -/
structure State where
  admitted : Int
  waiters : List Nat
  nextTicket : Nat
  lock : Option Nat
  accepting : Bool
  tasks : List Phase
  served : List (Option Nat)
deriving DecidableEq, Repr

/-- A gate as `__init__` leaves it, owned by a pool that accepts work. -/
def initial : State :=
  { admitted := 0, waiters := [], nextTicket := 0, lock := none, accepting := true,
    tasks := [], served := [] }

/-- A notification marks a parked acquirer; nobody else is affected. -/
def Phase.notify : Phase → Phase
  | .parked ticket _ => .parked ticket true
  | other => other

namespace State

/-- `condition.notify_all()`. -/
def notifyAll (state : State) : State :=
  { state with tasks := state.tasks.map Phase.notify }

def put (state : State) (task : Nat) (phase : Phase) : State :=
  { state with tasks := state.tasks.set task phase }

def unlock (state : State) : State := { state with lock := none }

/-- Enter `async with self.condition`: continue at once on a free lock. -/
def lockFor (state : State) (task : Nat) (next : Continuation) (body : State → State) : State :=
  match state.lock with
  | none => body { state with lock := some task }
  | some _ => state.put task (.lockQueue next)

/-- `_waiter_is_served_first`. -/
def waiterIsServedFirst (state : State) : Option Nat → Bool
  | none => state.waiters.isEmpty
  | some ticket => decide (state.waiters.head? = some ticket)

/-- `_enqueue_waiter`: reuse the acquirer's own ticket or append a new one. -/
def enqueueWaiter (state : State) : Option Nat → Nat × State
  | some ticket => (ticket, state)
  | none =>
    (state.nextTicket, { state with
      nextTicket := state.nextTicket + 1
      waiters := state.waiters ++ [state.nextTicket] })

/-- `_discard_waiter`. -/
def discardWaiter (state : State) (ticket : Nat) : State :=
  ({ state with waiters := state.waiters.erase ticket }).notifyAll

/-- The critical section of `release`. -/
def freeSlot (task : Nat) (ticket : Option Nat) (departure : Departure) (state : State) : State :=
  (({ state with admitted := state.admitted - 1 }).notifyAll).unlock.put task
    (.left departure ticket)

/-- The critical section of the `finally` of `_admit`. -/
def dropTicket (task ticket : Nat) (departure : Departure) (state : State) : State :=
  (state.discardWaiter ticket).unlock.put task (.left departure (some ticket))

/-- Leave `_admit` by an exception: the `finally` discards a ticket still held. -/
def cleanup (state : State) (task : Nat) (ticket : Option Nat) (departure : Departure) : State :=
  match ticket with
  | none => state.put task (.left departure none)
  | some ticket =>
    state.lockFor task (.discard ticket departure) (dropTicket task ticket departure)

/-- `release`, shielded from AnyIO cancellation only. -/
def release (state : State) (task : Nat) (ticket : Option Nat) (departure : Departure) : State :=
  state.lockFor task (.free ticket departure) (freeSlot task ticket departure)

/-- The critical section of the admission loop. It claims a slot, parks, or
raises; `expired` tells whether the deadline had passed when the acquirer came to
park. An observer that fails once the slot is claimed makes `admit` release it. -/
def claim (capacity : Nat) (task : Nat) (ticket : Option Nat) (expired observerFails : Bool)
    (state : State) : State :=
  if !state.accepting then
    state.unlock.cleanup task ticket .refused
  else if state.waiterIsServedFirst ticket && decide (state.admitted < capacity) then
    let claimed : State := { state with
      waiters := if ticket.isSome then state.waiters.tail else state.waiters
      admitted := state.admitted + 1
      served := state.served ++ [ticket] }
    let woken : State :=
      if claimed.admitted < capacity then claimed.notifyAll else claimed
    if observerFails then woken.unlock.release task ticket .observerFailed
    else woken.unlock.put task (.admitted ticket)
  else
    let (own, queued) := state.enqueueWaiter ticket
    if expired then
      (queued.discardWaiter own).unlock.cleanup task (some own) .timedOut
    else
      queued.unlock.put task (.parked own false)

/-- The lock is owned again after `Condition.wait`: go round the loop, or drop
the ticket and raise what interrupted the wait. -/
def wake (task ticket : Nat) (interrupt : Option Departure) (state : State) : State :=
  match interrupt with
  | none => state.unlock.put task (.checkpoint (some ticket))
  | some departure =>
    (state.discardWaiter ticket).unlock.cleanup task (some ticket) departure

end State

/-- One scheduling decision, or an action of the pool that owns the gate. -/
inductive Event where
  | arrive
  | resume (task : Nat) (expired observerFails : Bool)
  | cancel (task : Nat)
  | expire (task : Nat)
  | release (task : Nat)
  | regulate (accepting notify : Bool)
deriving DecidableEq, Repr

/-- Run a coroutine suspended in the lock's queue once the lock is free. -/
def resumeLocked (capacity : Nat) (state : State) (task : Nat) (expired observerFails : Bool) :
    Continuation → State
  | .claim ticket =>
    state.lockFor task (.claim ticket) (State.claim capacity task ticket expired observerFails)
  | .wake ticket interrupt =>
    state.lockFor task (.wake ticket interrupt) (State.wake task ticket interrupt)
  | .discard ticket departure =>
    state.lockFor task (.discard ticket departure) (State.dropTicket task ticket departure)
  | .free ticket departure =>
    state.lockFor task (.free ticket departure) (State.freeSlot task ticket departure)

/-- A cancellation that strikes in the lock's queue. `Condition.wait` keeps
waiting for its lock; the cleanup and release sections are abandoned with their
ticket still queued and their slot still taken. -/
def cancelLocked (state : State) (task : Nat) : Continuation → State
  | .claim ticket => state.cleanup task ticket .cancelled
  | .wake ticket _ => state.put task (.lockQueue (.wake ticket (some .cancelled)))
  | .discard ticket _ => state.put task (.left .cancelled (some ticket))
  | .free ticket _ => state.put task (.left .cancelled ticket)

/-- Let the event's coroutine run to its next suspension point. -/
def step (capacity : Nat) (state : State) : Event → Option State
  | .arrive => some { state with tasks := state.tasks ++ [.checkpoint none] }
  | .resume task expired observerFails =>
    match state.tasks[task]? with
    | some (.checkpoint ticket) =>
      some (resumeLocked capacity state task expired observerFails (.claim ticket))
    | some (.parked ticket true) =>
      some (resumeLocked capacity state task expired observerFails (.wake ticket none))
    | some (.lockQueue next) =>
      if state.lock.isNone then
        some (resumeLocked capacity state task expired observerFails next)
      else none
    | _ => none
  | .cancel task =>
    match state.tasks[task]? with
    | some (.checkpoint ticket) => some (state.cleanup task ticket .cancelled)
    | some (.parked ticket _) =>
      some (resumeLocked capacity state task false false (.wake ticket (some .cancelled)))
    | some (.lockQueue next) => some (cancelLocked state task next)
    | _ => none
  | .expire task =>
    match state.tasks[task]? with
    | some (.parked ticket _) =>
      some (resumeLocked capacity state task false false (.wake ticket (some .timedOut)))
    | some (.lockQueue (.wake ticket _)) =>
      some (state.put task (.lockQueue (.wake ticket (some .timedOut))))
    | _ => none
  | .release task =>
    match state.tasks[task]? with
    | some (.admitted ticket) => some (state.release task ticket .released)
    | _ => none
  | .regulate accepting notify =>
    let regulated := { state with accepting := accepting }
    if state.lock.isNone then some (if notify then regulated.notifyAll else regulated) else none

end Snekql.PoolGate
