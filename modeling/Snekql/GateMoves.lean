import Snekql.PoolGate

/-!
# The moves of the admission gate

No coroutine suspends while it owns the condition's lock, so every event amounts
to one of a few moves on the queue, the count and one acquirer's phase. `Move`
lists them and `step_moves` shows that a step makes one; what the gate guarantees
is then proved move by move. `Invariant` stands here because it is what keeps the
lock free between events.
-/

namespace Snekql.PoolGate

/-- The ticket an acquirer has taken, wherever it is now. -/
def Phase.ticket : Phase → Option Nat
  | .checkpoint ticket => ticket
  | .lockQueue _ => none
  | .parked ticket _ => some ticket
  | .admitted ticket => ticket
  | .left _ ticket => ticket

/-- The ticket by which an acquirer inside `_admit` waits for its turn. -/
def Phase.queued : Phase → Option Nat
  | .checkpoint ticket => ticket
  | .lockQueue _ => none
  | .parked ticket _ => some ticket
  | .admitted _ => none
  | .left _ _ => none

def Phase.holdsSlot : Phase → Bool
  | .checkpoint _ => false
  | .lockQueue _ => false
  | .parked _ _ => false
  | .admitted _ => true
  | .left _ _ => false

@[simp] theorem Phase.ticket_notify (phase : Phase) : phase.notify.ticket = phase.ticket := by
  cases phase <;> rfl

@[simp] theorem Phase.queued_notify (phase : Phase) : phase.notify.queued = phase.queued := by
  cases phase <;> rfl

@[simp] theorem Phase.holdsSlot_notify (phase : Phase) :
    phase.notify.holdsSlot = phase.holdsSlot := by
  cases phase <;> rfl

theorem Phase.notify_ne_silent (phase : Phase) (ticket : Nat) :
    phase.notify ≠ .parked ticket false := by
  cases phase <;> simp [Phase.notify]

/-- A queued acquirer's ticket is the one it has taken. -/
theorem Phase.ticket_of_queued {phase : Phase} {ticket : Nat}
    (queued : phase.queued = some ticket) : phase.ticket = some ticket := by
  cases phase <;> simp_all [Phase.queued, Phase.ticket]

namespace State

def ticketAt (state : State) (task : Nat) : Option Nat := state.tasks[task]?.bind Phase.ticket

def queuedAt (state : State) (task : Nat) : Option Nat := state.tasks[task]?.bind Phase.queued

/-- The number of acquirers that hold a slot. -/
def holders (state : State) : Nat := state.tasks.countP Phase.holdsSlot

/-- Some acquirer is parked with this ticket and has not been notified. -/
def Silent (state : State) (ticket : Nat) : Prop :=
  ∃ task : Nat, state.tasks[task]? = some (.parked ticket false)

section Updates

variable {state : State} {task other : Nat} {old phase : Phase}

theorem ticketAt_put (current : state.tasks[task]? = some old) :
    (state.put task phase).ticketAt other =
      if other = task then phase.ticket else state.ticketAt other := by
  have inside : task < state.tasks.length := (List.getElem?_eq_some_iff.mp current).1
  by_cases same : other = task
  · subst same
    simp [ticketAt, put, inside]
  · simp [ticketAt, put, List.getElem?_set_ne (Ne.symm same), same]

theorem queuedAt_put (current : state.tasks[task]? = some old) :
    (state.put task phase).queuedAt other =
      if other = task then phase.queued else state.queuedAt other := by
  have inside : task < state.tasks.length := (List.getElem?_eq_some_iff.mp current).1
  by_cases same : other = task
  · subst same
    simp [queuedAt, put, inside]
  · simp [queuedAt, put, List.getElem?_set_ne (Ne.symm same), same]

theorem holders_put (current : state.tasks[task]? = some old) :
    (state.put task phase).holders + old.holdsSlot.toNat =
      state.holders + phase.holdsSlot.toNat := by
  obtain ⟨inside, found⟩ := List.getElem?_eq_some_iff.mp current
  have counted := List.countP_set (p := Phase.holdsSlot) (l := state.tasks) (a := phase) inside
  have present : old.holdsSlot = true → 0 < state.tasks.countP Phase.holdsSlot := fun holds =>
    List.countP_pos_iff.mpr ⟨old, found ▸ List.getElem_mem inside, holds⟩
  simp only [holders, put, counted, found]
  cases before : old.holdsSlot <;> cases after : phase.holdsSlot <;> simp_all

theorem silent_put {ticket : Nat} (silent : (state.put task phase).Silent ticket) :
    phase = .parked ticket false ∨ state.Silent ticket := by
  obtain ⟨other, found⟩ := silent
  by_cases same : task = other
  · subst same
    by_cases inside : task < state.tasks.length
    · simp [put, inside] at found
      exact Or.inl found
    · simp [put, inside] at found
  · rw [put, List.getElem?_set_ne same] at found
    exact Or.inr ⟨other, found⟩

end Updates

@[simp] theorem admitted_notifyAll (state : State) :
    state.notifyAll.admitted = state.admitted := rfl

@[simp] theorem waiters_notifyAll (state : State) : state.notifyAll.waiters = state.waiters := rfl

@[simp] theorem nextTicket_notifyAll (state : State) :
    state.notifyAll.nextTicket = state.nextTicket := rfl

@[simp] theorem ticketAt_notifyAll (state : State) (task : Nat) :
    state.notifyAll.ticketAt task = state.ticketAt task := by
  simp [ticketAt, notifyAll, Option.bind_map, Function.comp_def]

@[simp] theorem queuedAt_notifyAll (state : State) (task : Nat) :
    state.notifyAll.queuedAt task = state.queuedAt task := by
  simp [queuedAt, notifyAll, Option.bind_map, Function.comp_def]

@[simp] theorem holders_notifyAll (state : State) : state.notifyAll.holders = state.holders := by
  simp [holders, notifyAll, List.countP_map, Function.comp_def]

/-- A broadcast leaves nobody parked without a notification. -/
theorem not_silent_notifyAll (state : State) (ticket : Nat) :
    ¬ state.notifyAll.Silent ticket := by
  rintro ⟨task, found⟩
  simp only [notifyAll, List.getElem?_map, Option.map_eq_some_iff] at found
  obtain ⟨phase, -, marked⟩ := found
  exact phase.notify_ne_silent ticket marked

end State

/-- What one event can do to a gate whose lock is free: the queue, the count and
the phase of the acquirer that acts, if one does. -/
inductive Move (capacity : Nat) (state : State) : Option Nat → State → Prop where
  /-- A new acquirer enters `_admit`. -/
  | arrive : Move capacity state none { state with tasks := state.tasks ++ [.checkpoint none] }
  /-- An acquirer that never parked leaves with an exception. -/
  | depart {task : Nat} (departure : Departure)
      (current : state.tasks[task]? = some (.checkpoint none)) :
      Move capacity state (some task) (state.put task (.left departure none))
  /-- An acquirer leaves with an exception and its ticket is discarded. -/
  | drop {task ticket : Nat} {old : Phase} (departure : Departure)
      (current : state.tasks[task]? = some old) (queued : old.queued = some ticket) :
      Move capacity state (some task)
        ((state.discardWaiter ticket).put task (.left departure (some ticket)))
  /-- An acquirer takes a ticket, finds its deadline passed and discards it. -/
  | expireFresh {task : Nat} (current : state.tasks[task]? = some (.checkpoint none)) :
      Move capacity state (some task)
        (({ state with nextTicket := state.nextTicket + 1 }).notifyAll.put task
          (.left .timedOut (some state.nextTicket)))
  /-- The acquirer whose turn it is claims a free slot; it may broadcast. -/
  | grant {task : Nat} {ticket : Option Nat} {waiters : List Nat} (woken : Bool)
      (current : state.tasks[task]? = some (.checkpoint ticket))
      (turn : state.waiters = ticket.toList ++ waiters) (fresh : ticket = none → waiters = [])
      (accepting : state.accepting = true) (room : state.admitted < capacity)
      (announced : state.admitted + 1 < capacity → woken = true) :
      Move capacity state (some task)
        ((if woken then
            ({ state with
              waiters := waiters
              admitted := state.admitted + 1
              served := state.served ++ [ticket] } : State).notifyAll
          else
            { state with
              waiters := waiters
              admitted := state.admitted + 1
              served := state.served ++ [ticket] }).put task (.admitted ticket))
  /-- The acquirer claims a slot and its observer fails: the slot goes back. -/
  | withdraw {task : Nat} {ticket : Option Nat} {waiters : List Nat}
      (current : state.tasks[task]? = some (.checkpoint ticket))
      (turn : state.waiters = ticket.toList ++ waiters) (fresh : ticket = none → waiters = [])
      (accepting : state.accepting = true) :
      Move capacity state (some task)
        (({ state with waiters := waiters, served := state.served ++ [ticket] }).notifyAll.put task
          (.left .observerFailed ticket))
  /-- An acquirer takes a ticket and parks behind the others. -/
  | enqueue {task : Nat} (current : state.tasks[task]? = some (.checkpoint none))
      (contended : state.admitted < capacity → state.waiters ≠ []) :
      Move capacity state (some task)
        (({ state with
            nextTicket := state.nextTicket + 1
            waiters := state.waiters ++ [state.nextTicket] }).put task
          (.parked state.nextTicket false))
  /-- A woken acquirer whose turn has not come parks again. -/
  | repark {task ticket : Nat} (current : state.tasks[task]? = some (.checkpoint (some ticket)))
      (contended : state.admitted < capacity → state.waiters.head? ≠ some ticket) :
      Move capacity state (some task) (state.put task (.parked ticket false))
  /-- A notified acquirer goes round the loop. -/
  | rejoin {task ticket : Nat} (current : state.tasks[task]? = some (.parked ticket true)) :
      Move capacity state (some task) (state.put task (.checkpoint (some ticket)))
  /-- A holder gives its slot back. -/
  | release {task : Nat} {ticket : Option Nat}
      (current : state.tasks[task]? = some (.admitted ticket)) :
      Move capacity state (some task)
        (({ state with admitted := state.admitted - 1 }).notifyAll.put task
          (.left .released ticket))
  /-- The pool changes whether it accepts work, and may broadcast. -/
  | regulate (accepting notify : Bool) :
      Move capacity state none
        (if notify then ({ state with accepting := accepting }).notifyAll
          else { state with accepting := accepting })

/-- What holds of a gate between any two events. `owned` says that exactly the
acquirers still inside `_admit` own the queued tickets; `announced` is the absence
of a lost wake-up. -/
structure Invariant (capacity : Nat) (state : State) : Prop where
  unlocked : state.lock = none
  settled : ∀ (task : Nat) next, state.tasks[task]? ≠ some (.lockQueue next)
  counted : state.admitted = state.holders
  bounded : state.admitted ≤ capacity
  issued : ∀ task ticket, state.ticketAt task = some ticket → ticket < state.nextTicket
  unique : ∀ task other ticket, state.ticketAt task = some ticket →
    state.ticketAt other = some ticket → task = other
  owned : ∀ ticket, ticket ∈ state.waiters ↔ ∃ task, state.queuedAt task = some ticket
  announced : state.admitted < capacity → ∀ ticket, state.waiters.head? = some ticket →
    ¬ state.Silent ticket
  servedOrder : (state.served.filterMap id ++ state.waiters).Pairwise (· < ·)
  servedIssued : ∀ ticket ∈ state.served.filterMap id, ticket < state.nextTicket

namespace Invariant

variable {capacity : Nat} {state : State}

theorem ordered (invariant : Invariant capacity state) : state.waiters.Pairwise (· < ·) :=
  (List.pairwise_append.mp invariant.servedOrder).2.1

theorem distinct (invariant : Invariant capacity state) : state.waiters.Nodup :=
  invariant.ordered.imp (fun before => Nat.ne_of_lt before)

theorem ticketAt_of_queuedAt {task ticket : Nat} (queued : state.queuedAt task = some ticket) :
    state.ticketAt task = some ticket := by
  simp only [State.queuedAt, Option.bind_eq_some_iff] at queued
  obtain ⟨phase, found, waits⟩ := queued
  simp [State.ticketAt, found, Phase.ticket_of_queued waits]

theorem waiting_issued (invariant : Invariant capacity state) {ticket : Nat}
    (waiting : ticket ∈ state.waiters) : ticket < state.nextTicket := by
  obtain ⟨task, queued⟩ := (invariant.owned ticket).mp waiting
  exact invariant.issued task ticket (ticketAt_of_queuedAt queued)

theorem initial_holds (capacity : Nat) : Invariant capacity initial := by
  constructor <;> simp [initial, State.holders, State.ticketAt, State.queuedAt, State.Silent]

end Invariant

section StepMoves

variable {capacity : Nat} {state after : State}

@[simp] theorem notify_notify (phase : Phase) : phase.notify.notify = phase.notify := by
  cases phase <;> rfl

/-- Discarding a ticket twice, as an interrupted wait does, is discarding it once. -/
theorem discardWaiter_discardWaiter (distinct : state.waiters.Nodup) (ticket : Nat) :
    (state.discardWaiter ticket).discardWaiter ticket = state.discardWaiter ticket := by
  have gone : ticket ∉ state.waiters.erase ticket := fun present =>
    (distinct.mem_erase_iff.mp present).1 rfl
  simp [State.discardWaiter, State.notifyAll, List.erase_of_not_mem gone, Function.comp_def]

/-- On a free lock the `finally` of `_admit` runs at once. -/
theorem cleanup_ticket (unlocked : state.lock = none) (task ticket : Nat)
    (departure : Departure) :
    state.cleanup task (some ticket) departure =
      (state.discardWaiter ticket).put task (.left departure (some ticket)) := by
  simp [State.cleanup, State.lockFor, unlocked, State.dropTicket, State.discardWaiter,
    State.notifyAll, State.unlock, State.put]

/-- Returning from `Condition.wait` on a free lock. -/
theorem wake_moves (invariant : Invariant capacity state) {task ticket : Nat} {notified : Bool}
    (current : state.tasks[task]? = some (.parked ticket notified)) :
    ∀ interrupt : Option Departure, (interrupt = none → notified = true) →
      Move capacity state (some task)
        (State.wake task ticket interrupt { state with lock := some task }) := by
  intro interrupt woken
  cases interrupt with
  | none =>
    rw [woken rfl] at current
    have same : State.wake task ticket none { state with lock := some task } =
        state.put task (.checkpoint (some ticket)) := by
      simp [State.wake, State.unlock, State.put, invariant.unlocked]
    rw [same]
    exact Move.rejoin current
  | some departure =>
    have same : State.wake task ticket (some departure) { state with lock := some task } =
        (state.discardWaiter ticket).put task (.left departure (some ticket)) := by
      rw [← discardWaiter_discardWaiter invariant.distinct ticket]
      simp [State.wake, State.discardWaiter, State.notifyAll, State.unlock, cleanup_ticket,
        State.put, invariant.unlocked]
    rw [same]
    exact Move.drop departure current rfl

/-- An acquirer served first is at the head of the queue, or the queue is empty. -/
theorem turn_of_servedFirst {ticket : Option Nat} (first : state.waiterIsServedFirst ticket) :
    ∃ waiters, state.waiters = ticket.toList ++ waiters ∧ (ticket = none → waiters = []) ∧
      (if ticket.isSome then state.waiters.tail else state.waiters) = waiters := by
  cases ticket with
  | none =>
    refine ⟨[], ?_, fun _ => rfl, ?_⟩ <;>
      simpa [State.waiterIsServedFirst] using first
  | some ticket =>
    simp only [State.waiterIsServedFirst, decide_eq_true_eq, List.head?_eq_some_iff] at first
    obtain ⟨rest, queue⟩ := first
    exact ⟨rest, by simpa using queue, by simp, by simp [queue]⟩

/-- A claim that succeeds, with or without a failing observer. -/
theorem grant_moves (invariant : Invariant capacity state) {task : Nat} {ticket : Option Nat}
    (current : state.tasks[task]? = some (.checkpoint ticket))
    (accepting : state.accepting = true) (first : state.waiterIsServedFirst ticket)
    (room : state.admitted < capacity) (expired observerFails : Bool) :
    Move capacity state (some task)
      (State.claim capacity task ticket expired observerFails { state with lock := some task }) := by
  obtain ⟨waiters, turn, fresh, rest⟩ := turn_of_servedFirst first
  have free := invariant.unlocked
  have ready : (State.waiterIsServedFirst { state with lock := some task } ticket &&
      decide (state.admitted < (capacity : Int))) = true := by
    cases ticket <;> simp_all [State.waiterIsServedFirst]
  cases observerFails with
  | false =>
    have same : State.claim capacity task ticket expired false { state with lock := some task } =
        (if decide (state.admitted + 1 < (capacity : Int)) then
          ({ state with
            waiters := waiters
            admitted := state.admitted + 1
            served := state.served ++ [ticket] } : State).notifyAll
        else
          { state with
            waiters := waiters
            admitted := state.admitted + 1
            served := state.served ++ [ticket] }).put task (.admitted ticket) := by
      rw [State.claim, if_neg (by simp [accepting]), if_pos ready]
      by_cases more : state.admitted + 1 < (capacity : Int) <;>
        simp [more, rest, State.unlock, State.put, State.notifyAll, free]
    rw [same]
    exact Move.grant _ current turn fresh accepting room (fun more => by simpa using more)
  | true =>
    have same : State.claim capacity task ticket expired true { state with lock := some task } =
        ({ state with waiters := waiters, served := state.served ++ [ticket] }).notifyAll.put
          task (.left .observerFailed ticket) := by
      rw [State.claim, if_neg (by simp [accepting]), if_pos ready]
      by_cases more : state.admitted + 1 < (capacity : Int) <;>
        simp [more, rest, State.unlock, State.put, State.notifyAll, State.release, State.lockFor,
          State.freeSlot, free, Function.comp_def]
    rw [same]
    exact Move.withdraw current turn fresh accepting

/-- A claim that fails takes a ticket if it has none, and parks or times out. -/
theorem park_moves (invariant : Invariant capacity state) {task : Nat} {ticket : Option Nat}
    (current : state.tasks[task]? = some (.checkpoint ticket))
    (accepting : state.accepting = true)
    (contended : state.admitted < capacity → state.waiterIsServedFirst ticket = false)
    (expired observerFails : Bool) :
    Move capacity state (some task)
      (State.claim capacity task ticket expired observerFails { state with lock := some task }) := by
  have free := invariant.unlocked
  have blocked : (State.waiterIsServedFirst { state with lock := some task } ticket &&
      decide (state.admitted < (capacity : Int))) = false := by
    by_cases room : state.admitted < (capacity : Int)
    · have later := contended room
      cases ticket <;> simp_all [State.waiterIsServedFirst]
    · simp [room]
  cases ticket with
  | none =>
    have fresh : state.nextTicket ∉ state.waiters := fun waiting =>
      Nat.lt_irrefl _ (invariant.waiting_issued waiting)
    cases expired with
    | true =>
      have same : State.claim capacity task none true observerFails
          { state with lock := some task } =
          ({ state with nextTicket := state.nextTicket + 1 }).notifyAll.put task
            (.left .timedOut (some state.nextTicket)) := by
        rw [State.claim, if_neg (by simp [accepting]), if_neg (by simp [blocked])]
        simp [State.enqueueWaiter, State.discardWaiter, cleanup_ticket, State.unlock, State.put,
          State.notifyAll, free, fresh, List.erase_append_right, Function.comp_def]
      rw [same]
      exact Move.expireFresh current
    | false =>
      have same : State.claim capacity task none false observerFails
          { state with lock := some task } =
          ({ state with
            nextTicket := state.nextTicket + 1
            waiters := state.waiters ++ [state.nextTicket] }).put task
            (.parked state.nextTicket false) := by
        rw [State.claim, if_neg (by simp [accepting]), if_neg (by simp [blocked])]
        simp [State.enqueueWaiter, State.unlock, State.put, free]
      rw [same]
      refine Move.enqueue current (fun room => ?_)
      simpa [State.waiterIsServedFirst] using contended room
  | some ticket =>
    cases expired with
    | true =>
      have same : State.claim capacity task (some ticket) true observerFails
          { state with lock := some task } =
          (state.discardWaiter ticket).put task (.left .timedOut (some ticket)) := by
        rw [← discardWaiter_discardWaiter invariant.distinct ticket]
        rw [State.claim, if_neg (by simp [accepting]), if_neg (by simp [blocked])]
        simp [State.enqueueWaiter, State.discardWaiter, cleanup_ticket, State.unlock, State.put,
          State.notifyAll, free]
      rw [same]
      exact Move.drop .timedOut current rfl
    | false =>
      have same : State.claim capacity task (some ticket) false observerFails
          { state with lock := some task } = state.put task (.parked ticket false) := by
        rw [State.claim, if_neg (by simp [accepting]), if_neg (by simp [blocked])]
        simp [State.enqueueWaiter, State.unlock, State.put, free]
      rw [same]
      refine Move.repark current (fun room => ?_)
      simpa [State.waiterIsServedFirst] using contended room

/-- The critical section of the admission loop, entered on a free lock. -/
theorem claim_moves (invariant : Invariant capacity state) {task : Nat} {ticket : Option Nat}
    (current : state.tasks[task]? = some (.checkpoint ticket)) (expired observerFails : Bool) :
    Move capacity state (some task)
      (State.claim capacity task ticket expired observerFails { state with lock := some task }) := by
  by_cases accepting : state.accepting = true
  · by_cases room : state.admitted < capacity
    · cases first : state.waiterIsServedFirst ticket with
      | true => exact grant_moves invariant current accepting first room expired observerFails
      | false => exact park_moves invariant current accepting (fun _ => first) expired observerFails
    · exact park_moves invariant current accepting (fun inside => absurd inside room) expired
        observerFails
  · have same : State.claim capacity task ticket expired observerFails
        { state with lock := some task } = state.cleanup task ticket .refused := by
      rw [State.claim, if_pos (by simp [accepting]), State.unlock, ← invariant.unlocked]
    rw [same]
    cases ticket with
    | none => exact Move.depart .refused current
    | some ticket =>
      rw [cleanup_ticket invariant.unlocked]
      exact Move.drop .refused current rfl

theorem lockFor_free (unlocked : state.lock = none) (task : Nat) (next : Continuation)
    (body : State → State) :
    state.lockFor task next body = body { state with lock := some task } := by
  simp [State.lockFor, unlocked]

/-- The acquirer whose coroutine an event runs. -/
def Event.actor : Event → Option Nat
  | .arrive => none
  | .resume task _ _ => some task
  | .cancel task => some task
  | .expire task => some task
  | .release task => some task
  | .regulate _ _ => none

/-- Every event of the gate is one of the moves. -/
theorem step_moves (invariant : Invariant capacity state) {event : Event}
    (stepped : step capacity state event = some after) :
    Move capacity state event.actor after := by
  have free := invariant.unlocked
  cases event <;> simp only [step] at stepped
  case arrive =>
    cases stepped
    exact Move.arrive
  case resume task expired observerFails =>
    split at stepped
    · next ticket current =>
      cases stepped
      rw [resumeLocked, lockFor_free free]
      exact claim_moves invariant current expired observerFails
    · next ticket current =>
      cases stepped
      rw [resumeLocked, lockFor_free free]
      exact wake_moves invariant current none (fun _ => rfl)
    · next next current => exact absurd current (invariant.settled task next)
    · cases stepped
  case cancel task =>
    split at stepped
    · next ticket current =>
      cases stepped
      cases ticket with
      | none => exact Move.depart .cancelled current
      | some ticket =>
        rw [cleanup_ticket free]
        exact Move.drop .cancelled current rfl
    · next ticket notified current =>
      cases stepped
      rw [resumeLocked, lockFor_free free]
      exact wake_moves invariant current (some .cancelled) (by simp)
    · next next current => exact absurd current (invariant.settled task next)
    · cases stepped
  case expire task =>
    split at stepped
    · next ticket notified current =>
      cases stepped
      rw [resumeLocked, lockFor_free free]
      exact wake_moves invariant current (some .timedOut) (by simp)
    · next ticket interrupt current => exact absurd current (invariant.settled task _)
    · cases stepped
  case release task =>
    split at stepped
    · next ticket current =>
      cases stepped
      have same : state.release task ticket .released =
          ({ state with admitted := state.admitted - 1 }).notifyAll.put task
            (.left .released ticket) := by
        simp [State.release, lockFor_free free, State.freeSlot, State.notifyAll, State.unlock,
          State.put, free]
      rw [same]
      exact Move.release current
    · cases stepped
  case regulate accepting notify =>
    simp only [step, free, Option.isNone_none, ↓reduceIte, Option.some.injEq] at stepped
    subst stepped
    exact free ▸ Move.regulate accepting notify

end StepMoves

end Snekql.PoolGate
