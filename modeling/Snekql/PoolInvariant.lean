import Snekql.Slots
import Snekql.GateInvariant
import Snekql.SqlitePool

/-!
# Three books of the connection pool

The pool's invariant is kept in three parts that read different fields. `Admissions`
ties the gate's slots to the acquirers that use them. `Ledger` counts where each
live connection is: idle, awaiting a close, or in the hands of exactly one
acquirer. `Shutdown` bounds the three together by the capacity and says what each
suspension of `_close` may rely on. Each operation of the pool has one lemma for
each book it changes.
-/

namespace Snekql.SqlitePool

open PoolGate (Phase)

/-- The connection an opener is responsible for. -/
def Opener.connections : Opener → List Nat
  | .connecting => []
  | .configuring connection => [connection]
  | .cleaning connection => [connection]
  | .opened connection => [connection]
  | .raised => []

/-- The connection an acquirer's slot stands for. -/
def Checkout.connections : Checkout → List Nat
  | .outside => []
  | .opening opener => opener.connections
  | .held connection => [connection]
  | .reaping opener => opener.connections
  | .discarding connection => [connection]
  | .done => []

/-- The acquirer was admitted and its slot has not been given back. -/
def Checkout.active : Checkout → Bool
  | .outside => false
  | .opening _ => true
  | .held _ => true
  | .reaping _ => true
  | .discarding _ => true
  | .done => false

/-- The acquirer's opener is inside `connect`. -/
def Checkout.connecting : Checkout → Bool
  | .opening .connecting => true
  | .reaping .connecting => true
  | _ => false

/-- One for a connection that was opened and not physically closed. -/
def alive (opened : Nat) (shut : List Nat) (connection : Nat) : Nat :=
  if connection < opened ∧ connection ∉ shut then 1 else 0

/-- The gate's slots are the active acquirers', and exactly the finished ones have
given theirs back, once. -/
structure Admissions (capacity : Nat) (gate : PoolGate.State) (checkouts : List Checkout)
    (accepting : Bool) (returns : List Nat) : Prop where
  fair : PoolGate.Invariant capacity gate
  synchronized : gate.accepting = accepting
  aligned : checkouts.map Checkout.active = gate.tasks.map Phase.holdsSlot
  returned : ∀ task, returns.count task = if checkouts[task]? = some .done then 1 else 0

/-- Every live connection is in exactly one place and every closed one in none; a
connection whose close has failed is retained until a later close succeeds. -/
structure Ledger (idle pending : List Nat) (checkouts : List Checkout) (opened : Nat)
    (shut failed : List Nat) : Prop where
  tracked : ∀ connection, idle.count connection + pending.count connection +
    (Slots.contents Checkout.connections checkouts).count connection = alive opened shut connection
  shutOpened : ∀ connection ∈ shut, connection < opened
  retained : ∀ connection ∈ failed, connection ∈ pending ∨ connection ∈ shut

/-- Connections and admissions fit the capacity, retained connections keep the pool
closing, and the shutdown task finds what it left. -/
structure Shutdown (capacity : Nat) (idle pending : List Nat) (admitted : Int)
    (closed closing : Bool) (closer : Closer) : Prop where
  room : (idle.length : Int) + pending.length + admitted ≤ capacity
  quarantined : pending ≠ [] → closing = true
  waiting : closer = .waiting → closing = true
  draining : ∀ round queue erred, closer = .draining round queue erred →
    closing = true ∧ queue.Sublist pending
  lastRound : ∀ queue erred, closer = .draining .last queue erred →
    admitted = 0 ∧ idle = [] ∧ (erred = false → pending = queue)
  settled : closed = true → admitted = 0 ∧ idle = [] ∧ pending = [] ∧ closer = .absent

/-- The whole invariant of a pool whose openers have never lost a connection. -/
structure Invariant (capacity : Nat) (state : State) : Prop where
  admissions : Admissions capacity state.gate state.checkouts (!state.closed && !state.closing)
    state.returns
  ledger : Ledger state.idle state.pending state.checkouts state.opened state.shut state.failed
  shutdown : Shutdown capacity state.idle state.pending state.gate.admitted state.closed
    state.closing state.closer
  noStrays : state.strays = []

theorem initial_holds {capacity : Nat} (positive : 0 < capacity) :
    Invariant capacity initial := by
  refine ⟨⟨PoolGate.Invariant.initial_holds capacity, rfl, rfl, by simp [initial]⟩,
    ⟨?_, by simp [initial], by simp [initial]⟩, ⟨?_, by simp [initial], by simp [initial],
    by simp [initial], by simp [initial], by simp [initial]⟩, rfl⟩
  · intro connection
    simp only [initial, Slots.contents, alive, List.count_cons, List.count_nil, List.flatMap_nil,
      List.not_mem_nil, not_false_eq_true, and_true, beq_iff_eq]
    split <;> split <;> omega
  · simp only [initial, PoolGate.initial, List.length_cons, List.length_nil]
    omega

section AdmissionBook

variable {capacity : Nat} {gate after : PoolGate.State} {checkouts : List Checkout}
  {accepting : Bool} {returns : List Nat} {task : Nat} {old new : Checkout}

namespace Admissions

section

variable (admissions : Admissions capacity gate checkouts accepting returns)
include admissions

/-- An active acquirer holds a slot of the gate. -/
theorem admitted_of_active (current : checkouts[task]? = some old) (active : old.active = true) :
    ∃ ticket, gate.tasks[task]? = some (.admitted ticket) := by
  have slot : (gate.tasks.map Phase.holdsSlot)[task]? = some true := by
    rw [← admissions.aligned, List.getElem?_map, current, Option.map_some, active]
  rw [List.getElem?_map, Option.map_eq_some_iff] at slot
  obtain ⟨phase, found, holds⟩ := slot
  cases phase with
  | admitted ticket => exact ⟨ticket, found⟩
  | _ => simp [Phase.holdsSlot] at holds

/-- An inactive acquirer holds none. -/
theorem waiting_of_inactive (current : checkouts[task]? = some old) (inactive : old.active = false) :
    ∃ phase, gate.tasks[task]? = some phase ∧ phase.holdsSlot = false := by
  have slot : (gate.tasks.map Phase.holdsSlot)[task]? = some false := by
    rw [← admissions.aligned, List.getElem?_map, current, Option.map_some, inactive]
  rw [List.getElem?_map, Option.map_eq_some_iff] at slot
  exact slot

/-- The count of slots is the number of active acquirers. -/
theorem admitted_eq : gate.admitted = checkouts.countP Checkout.active := by
  have counted := congrArg (List.countP id) admissions.aligned
  rw [List.countP_map, List.countP_map] at counted
  rw [admissions.fair.counted, PoolGate.State.holders]
  exact congrArg Int.ofNat counted.symm

theorem returned_set (current : checkouts[task]? = some old) (unfinished : old ≠ .done)
    (notDone : new ≠ .done) :
    ∀ other, returns.count other = if (checkouts.set task new)[other]? = some .done then 1 else 0 := by
  intro other
  have inside : task < checkouts.length := (List.getElem?_eq_some_iff.mp current).1
  rw [admissions.returned other]
  by_cases same : task = other
  · subst same
    rw [current, List.getElem?_set_self inside]
    simp [unfinished, notDone]
  · rw [List.getElem?_set_ne same]

/-- The slot is put to another use. -/
theorem replace (current : checkouts[task]? = some old) (active : new.active = old.active)
    (unfinished : old ≠ .done) (notDone : new ≠ .done) :
    Admissions capacity gate (checkouts.set task new) accepting returns := by
  obtain ⟨inside, found⟩ := List.getElem?_eq_some_iff.mp current
  refine ⟨admissions.fair, admissions.synchronized, ?_,
    admissions.returned_set current unfinished notDone⟩
  rw [← admissions.aligned, List.map_set, active, ← found, ← List.getElem_map Checkout.active,
    List.set_getElem_self]
  simpa using inside

/-- `gate.release()` on behalf of an active acquirer. -/
theorem giveBack (current : checkouts[task]? = some old) (active : old.active = true) :
    Admissions capacity (gate.release task (gate.ticketAt task) .released)
        (checkouts.set task .done) accepting (returns ++ [task]) ∧
      (gate.release task (gate.ticketAt task) .released).admitted = gate.admitted - 1 ∧
      (gate.release task (gate.ticketAt task) .released).served = gate.served := by
  obtain ⟨ticket, held⟩ := admissions.admitted_of_active current active
  have inside : task < checkouts.length := (List.getElem?_eq_some_iff.mp current).1
  have own : gate.ticketAt task = ticket := by
    simp [PoolGate.State.ticketAt, held, Phase.ticket]
  have released : gate.release task (gate.ticketAt task) .released =
      ({ gate with admitted := gate.admitted - 1 }).notifyAll.put task (.left .released ticket) := by
    simp [own, PoolGate.State.release, PoolGate.lockFor_free admissions.fair.unlocked,
      PoolGate.State.freeSlot, PoolGate.State.notifyAll, PoolGate.State.unlock,
      PoolGate.State.put, admissions.fair.unlocked]
  rw [released]
  refine ⟨⟨(PoolGate.Move.release held).preserves admissions.fair, admissions.synchronized, ?_, ?_⟩,
    rfl, rfl⟩
  · rw [PoolGate.slots_put (Or.inr rfl), List.map_set]
    exact congrArg (List.set · task false) admissions.aligned
  · intro other
    have unfinished : old ≠ .done := fun finished => by simp [finished, Checkout.active] at active
    rw [List.count_append, admissions.returned other]
    by_cases same : task = other
    · subst same
      rw [current, List.getElem?_set_self inside]
      simp [unfinished]
    · simp [List.getElem?_set_ne same, same]

/-- The pool changes its mind about accepting work and wakes everyone. -/
theorem regulate (flag : Bool) : Admissions capacity ({ gate with accepting := flag }).notifyAll checkouts flag returns := by
  refine ⟨(PoolGate.Move.regulate flag true).preserves admissions.fair, rfl, ?_,
    admissions.returned⟩
  rw [admissions.aligned]
  simp [PoolGate.State.notifyAll, Function.comp_def]

theorem arrive : Admissions capacity { gate with tasks := gate.tasks ++ [.checkpoint none] }
      (checkouts ++ [.outside]) accepting returns := by
  refine ⟨PoolGate.arrive_preserves admissions.fair, admissions.synchronized, ?_, ?_⟩
  · simp [admissions.aligned, Checkout.active, Phase.holdsSlot]
  · intro other
    rw [admissions.returned other]
    rcases Nat.lt_trichotomy other checkouts.length with inside | last | beyond
    · rw [List.getElem?_append_left inside]
    · simp [last]
    · rw [List.getElem?_eq_none (by omega), List.getElem?_eq_none (by simp; omega)]

/-- A turn at the gate that admits nobody. -/
theorem pass (fair : PoolGate.Invariant capacity after) (flag : after.accepting = gate.accepting)
    (slots : after.tasks.map Phase.holdsSlot = gate.tasks.map Phase.holdsSlot) :
    Admissions capacity after checkouts accepting returns :=
  ⟨fair, flag.trans admissions.synchronized, admissions.aligned.trans slots.symm,
    admissions.returned⟩

/-- A turn at the gate that admits the acquirer, whose slot is then put to use. -/
theorem grant (fair : PoolGate.Invariant capacity after) (flag : after.accepting = gate.accepting)
    (current : checkouts[task]? = some .outside)
    (slots : after.tasks.map Phase.holdsSlot = (gate.tasks.map Phase.holdsSlot).set task true)
    (active : new.active = true) :
    Admissions capacity after (checkouts.set task new) accepting returns := by
  have notDone : new ≠ .done := fun finished => by simp [finished, Checkout.active] at active
  refine ⟨fair, flag.trans admissions.synchronized, ?_,
    admissions.returned_set current (by simp) notDone⟩
  rw [List.map_set, active, admissions.aligned, slots]

end

end Admissions

end AdmissionBook

section LedgerBook

variable {idle pending shut failed : List Nat} {checkouts : List Checkout} {opened : Nat}
  {task connection : Nat} {old new : Checkout}

theorem alive_le_one (opened : Nat) (shut : List Nat) (connection : Nat) :
    alive opened shut connection ≤ 1 := by
  unfold alive
  split <;> omega

/-- A physical close ends one connection's life. -/
theorem alive_shut (living : alive opened shut connection = 1) (other : Nat) :
    alive opened shut other = alive opened (shut ++ [connection]) other +
      [connection].count other := by
  unfold alive at living ⊢
  by_cases same : connection = other
  · subst same
    simp [living]
  · have apart : other ≠ connection := fun h => same h.symm
    simp [same, apart]

/-- A successful `connect` starts the life of the next connection. -/
theorem alive_opened (shutOpened : ∀ connection ∈ shut, connection < opened) (other : Nat) :
    alive (opened + 1) shut other = alive opened shut other + [opened].count other := by
  unfold alive
  by_cases same : opened = other
  · subst same
    have fresh : opened ∉ shut := fun closed => Nat.lt_irrefl _ (shutOpened _ closed)
    simp [fresh]
  · have bound : other < opened + 1 ↔ other < opened := by omega
    simp [same, bound]

namespace Ledger

theorem alive_of_held (ledger : Ledger idle pending checkouts opened shut failed)
    (current : checkouts[task]? = some old) (held : connection ∈ old.connections) :
    alive opened shut connection = 1 := by
  have one : 1 ≤ old.connections.count connection := List.one_le_count_iff.mpr held
  have inside := Slots.count_le_contents Checkout.connections current connection
  have tracked := ledger.tracked connection
  have most := alive_le_one opened shut connection
  omega

theorem alive_of_pending (ledger : Ledger idle pending checkouts opened shut failed)
    (retained : connection ∈ pending) : alive opened shut connection = 1 := by
  have one : 1 ≤ pending.count connection := List.one_le_count_iff.mpr retained
  have tracked := ledger.tracked connection
  have most := alive_le_one opened shut connection
  omega

theorem opened_of_alive (living : alive opened shut connection = 1) : connection < opened := by
  unfold alive at living
  split at living
  · next inside => exact inside.1
  · cases living

/-- Connections change hands in one slot, in the idle list or among the retained
ones, and what enters or leaves the books is opened or closed. -/
theorem trade {idleAfter pendingAfter shutAfter failedAfter : List Nat} {openedAfter : Nat}
    (ledger : Ledger idle pending checkouts opened shut failed)
    (current : checkouts[task]? = some old)
    (balance : ∀ other, idleAfter.count other + pendingAfter.count other +
        new.connections.count other + alive opened shut other =
      idle.count other + pending.count other + old.connections.count other +
        alive openedAfter shutAfter other)
    (shutOpened : ∀ connection ∈ shutAfter, connection < openedAfter)
    (retained : ∀ connection ∈ failedAfter, connection ∈ pendingAfter ∨ connection ∈ shutAfter) :
    Ledger idleAfter pendingAfter (checkouts.set task new) openedAfter shutAfter failedAfter := by
  refine ⟨fun other => ?_, shutOpened, retained⟩
  have exchanged := Slots.count_contents_set Checkout.connections current new other
  have tracked := ledger.tracked other
  have balanced := balance other
  omega

/-- A slot is put to another use with the same connection. -/
theorem replace (ledger : Ledger idle pending checkouts opened shut failed)
    (current : checkouts[task]? = some old) (same : new.connections = old.connections) :
    Ledger idle pending (checkouts.set task new) opened shut failed :=
  ledger.trade current (fun other => by rw [same]) ledger.shutOpened ledger.retained

theorem shutOpened_append (ledger : Ledger idle pending checkouts opened shut failed)
    (living : alive opened shut connection = 1) :
    ∀ other ∈ shut ++ [connection], other < opened := by
  intro other closed
  obtain before | now := List.mem_append.mp closed
  · exact ledger.shutOpened other before
  · rw [List.mem_singleton.mp now]
    exact opened_of_alive living

end Ledger

end LedgerBook

section ShutdownBook

variable {capacity : Nat} {idle pending : List Nat} {admitted : Int} {closed closing : Bool}
  {closer : Closer}

namespace Shutdown

/-- A slot is given back; its connection may have become idle or been retained. -/
theorem finish {idleAfter pendingAfter : List Nat} {closingAfter : Bool}
    (shutdown : Shutdown capacity idle pending admitted closed closing closer)
    (occupied : 1 ≤ admitted)
    (fits : idleAfter.length + pendingAfter.length ≤ idle.length + pending.length + 1)
    (grows : pending.Sublist pendingAfter) (still : closing = true → closingAfter = true)
    (quarantined : pendingAfter ≠ [] → closingAfter = true) :
    Shutdown capacity idleAfter pendingAfter (admitted - 1) closed closingAfter closer := by
  have room := shutdown.room
  refine ⟨by omega, quarantined, fun waits => still (shutdown.waiting waits), ?_, ?_, ?_⟩
  · intro round queue erred drains
    obtain ⟨busy, inside⟩ := shutdown.draining round queue erred drains
    exact ⟨still busy, inside.trans grows⟩
  · intro queue erred drains
    have empty := (shutdown.lastRound queue erred drains).1
    omega
  · intro finished
    have empty := (shutdown.settled finished).1
    omega

/-- A pool that accepts work retains nothing and is not shutting down. -/
theorem of_accepting (shutdown : Shutdown capacity idle pending admitted closed closing closer)
    (accepting : (!closed && !closing) = true) :
    pending = [] ∧ closed = false ∧ closing = false ∧ closer ≠ .waiting ∧
      ∀ round queue erred, closer ≠ .draining round queue erred := by
  simp only [Bool.and_eq_true, Bool.not_eq_true'] at accepting
  obtain ⟨isOpen, idling⟩ := accepting
  refine ⟨?_, isOpen, idling, fun waits => ?_, fun round queue erred drains => ?_⟩
  · by_contra retained
    simp [shutdown.quarantined retained] at idling
  · simp [shutdown.waiting waits] at idling
  · simp [(shutdown.draining round queue erred drains).1] at idling

/-- An accepting pool admits one more acquirer, which takes an idle connection if
there is one. -/
theorem grant (shutdown : Shutdown capacity idle pending admitted closed closing closer)
    (accepting : (!closed && !closing) = true) (bounded : admitted + 1 ≤ capacity) :
    Shutdown capacity idle.tail pending (admitted + 1) closed closing closer := by
  obtain ⟨none, isOpen, idling, notWaiting, notDraining⟩ := shutdown.of_accepting accepting
  have room := shutdown.room
  refine ⟨?_, shutdown.quarantined, shutdown.waiting, shutdown.draining, ?_, ?_⟩
  · cases idle with
    | nil => simpa [none] using bounded
    | cons connection rest =>
      simp only [List.tail_cons, List.length_cons] at room ⊢
      omega
  · exact fun queue erred drains => absurd drains (notDraining .last queue erred)
  · intro finished
    simp [isOpen] at finished

end Shutdown

end ShutdownBook

end Snekql.SqlitePool
