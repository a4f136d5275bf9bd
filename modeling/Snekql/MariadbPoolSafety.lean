import Mathlib.Data.List.Perm.Basic
import Snekql.Slots
import Snekql.PoolBookings
import Snekql.MariadbPool

/-!
# What the MariaDB connection pool guarantees

`Sound` collects the promises of the pool: each slot given back once, each checkout returned to the
driver once, a bound on the connections checked out, configured sessions, discarded connections
closed before their return, and an empty pool after its shutdown. They follow from four books that
read different fields: the bookings of the gate's slots, the driver's stock of connections, the
sessions, and the shutdown. Each operation of the driver has one lemma about the stock, and each
way on of an acquirer one lemma about all books.
-/

namespace Snekql.MariadbPool

open PoolGate (Phase Bookings)

/-- The connection an acquirer's slot stands for. -/
def Checkout.connections : Checkout → List Nat
  | .pinging connection => [connection]
  | .configuring connection => [connection]
  | .held connection => [connection]
  | _ => []

/-- The acquirer was admitted and its slot has not been given back. -/
def Checkout.active : Checkout → Bool
  | .outside => false
  | .done => false
  | _ => true

/-- The connections in the hands of acquirers, with multiplicity. -/
def inHands (checkouts : List Checkout) : List Nat := Slots.contents Checkout.connections checkouts

/-- The promises of the pool in one state. -/
structure Sound (capacity : Nat) (state : State) : Prop where
  /-- The slots in use are those of the active acquirers. -/
  counted : state.gate.admitted = state.checkouts.countP Checkout.active
  /-- Exactly the finished acquirers have given their slot back, once each. -/
  returnedOnce : ∀ task, state.returns.count task =
    if state.checkouts[task]? = some .done then 1 else 0
  /-- Each checkout of a connection was returned, or is in the hands of one acquirer. -/
  balanced : ∀ connection, state.driver.taken.count connection =
    (state.driver.returned.map Return.connection).count connection +
      (inHands state.checkouts).count connection
  /-- No connection is in the hands of two acquirers, or free as well. -/
  exclusive : ∀ connection,
    state.driver.free.count connection + (inHands state.checkouts).count connection ≤ 1
  /-- No more connections are checked out than the pool's size. -/
  bounded : state.driver.used.length ≤ capacity
  /-- Whoever awaits the driver's `acquire` finds a free connection or room to open one. -/
  served : .acquiring ∈ state.checkouts → state.driver.free ≠ [] ∨
    state.driver.free.length + state.driver.used.length < capacity
  /-- Every connection handed to a caller has completed its session configuration. -/
  configured : ∀ connection, .held connection ∈ state.checkouts → connection ∈ state.configured
  /-- A discarded connection is closed before it is returned. -/
  closedFirst : ∀ entry ∈ state.driver.returned, entry.discarded = true → entry.closed = true
  /-- After a completed shutdown no acquirer has a slot or a connection. -/
  drained : state.closed = true →
    state.driver.used = [] ∧ ∀ checkout ∈ state.checkouts, checkout.active = false

/-! ## The driver's stock -/

/-- Every connection is in at most one place, the places fit the capacity, and every checkout was
returned or is still out. -/
structure Stock (capacity : Nat) (driver : Driver) : Prop where
  single : ∀ connection, driver.free.count connection + driver.used.count connection ≤ 1
  known : ∀ connection, connection ∈ driver.free ∨ connection ∈ driver.used →
    connection < driver.opened
  room : driver.free.length + driver.used.length ≤ capacity
  balanced : ∀ connection, driver.taken.count connection =
    (driver.returned.map Return.connection).count connection + driver.used.count connection
  closedFirst : ∀ entry ∈ driver.returned, entry.discarded = true → entry.closed = true

namespace Stock

variable {capacity : Nat} {driver after : Driver} {connection : Nat}

theorem close (stock : Stock capacity driver) (connection : Nat) :
    Stock capacity (driver.close connection) :=
  ⟨stock.single, stock.known, stock.room, stock.balanced, stock.closedFirst⟩

theorem fill (stock : Stock capacity driver) (filled : driver.fill capacity = some after) :
    Stock capacity after ∧ after.used = driver.used := by
  unfold Driver.fill at filled
  split at filled
  · rename_i room
    cases filled
    have fresh : driver.opened ∉ driver.free ∧ driver.opened ∉ driver.used :=
      ⟨fun inside => Nat.lt_irrefl _ (stock.known _ (Or.inl inside)),
        fun inside => Nat.lt_irrefl _ (stock.known _ (Or.inr inside))⟩
    refine ⟨⟨?_, ?_, ?_, stock.balanced, stock.closedFirst⟩, rfl⟩
    · intro connection
      have single := stock.single connection
      simp only [List.count_append, List.count_singleton]
      by_cases same : driver.opened = connection
      · subst same
        rw [List.count_eq_zero_of_not_mem fresh.1, List.count_eq_zero_of_not_mem fresh.2]
        simp
      · simp only [beq_iff_eq, same, if_false]
        omega
    · rintro connection (inside | inside)
      · obtain before | now := List.mem_append.mp inside
        · exact Nat.lt_succ_of_lt (stock.known connection (Or.inl before))
        · rw [List.mem_singleton.mp now]
          exact Nat.lt_succ_self _
      · exact Nat.lt_succ_of_lt (stock.known connection (Or.inr inside))
    · simp only [List.length_append, List.length_singleton]
      omega
  · cases filled

theorem drop (stock : Stock capacity driver) (dropped : driver.drop connection = some after) :
    Stock capacity after ∧ after.used = driver.used := by
  unfold Driver.drop at dropped
  split at dropped
  · cases dropped
    refine ⟨⟨?_, ?_, ?_, stock.balanced, stock.closedFirst⟩, rfl⟩
    · intro other
      have single := stock.single other
      have fewer : (driver.free.erase connection).count other ≤ driver.free.count other :=
        (List.erase_sublist).count_le other
      dsimp only
      omega
    · rintro other (inside | inside)
      · exact stock.known other (Or.inl (List.mem_of_mem_erase inside))
      · exact stock.known other (Or.inr inside)
    · have room := stock.room
      have fewer : (driver.free.erase connection).length ≤ driver.free.length :=
        (List.erase_sublist).length_le
      dsimp only
      omega
  · cases dropped

theorem take (stock : Stock capacity driver) (free : connection ∈ driver.free) :
    Stock capacity (driver.take connection) := by
  refine ⟨?_, ?_, ?_, ?_, stock.closedFirst⟩
  · intro other
    have single := stock.single other
    simp only [Driver.take, List.count_append, List.count_singleton, List.count_erase]
    by_cases same : connection = other
    · subst same
      have present : 1 ≤ driver.free.count connection := List.one_le_count_iff.mpr free
      simp only [beq_self_eq_true, if_true]
      omega
    · simp only [beq_iff_eq, same, if_false]
      omega
  · rintro other (inside | inside)
    · exact stock.known other (Or.inl (List.mem_of_mem_erase inside))
    · obtain before | now := List.mem_append.mp inside
      · exact stock.known other (Or.inr before)
      · rw [List.mem_singleton.mp now]
        exact stock.known connection (Or.inl free)
  · have room := stock.room
    have one : 0 < driver.free.length := List.length_pos_of_mem free
    simp only [Driver.take, List.length_erase_of_mem free, List.length_append,
      List.length_singleton]
    omega
  · intro other
    simp only [Driver.take, List.count_append, stock.balanced other]
    omega

/-- Returning a connection that is out; a discarded one must be closed. -/
theorem release (stock : Stock capacity driver) (out : connection ∈ driver.used)
    (inTransaction discarded : Bool) (closed : discarded = true → connection ∈ driver.shut) :
    Stock capacity (driver.release connection inTransaction discarded) := by
  have noted : Stock capacity { driver with
      used := driver.used.erase connection
      returned := driver.returned ++
        [{ connection, closed := driver.shut.contains connection, discarded }] } := by
    refine ⟨?_, ?_, ?_, ?_, ?_⟩
    · intro other
      have single := stock.single other
      have fewer : (driver.used.erase connection).count other ≤ driver.used.count other :=
        (List.erase_sublist).count_le other
      dsimp only
      omega
    · rintro other (inside | inside)
      · exact stock.known other (Or.inl inside)
      · exact stock.known other (Or.inr (List.mem_of_mem_erase inside))
    · have room := stock.room
      have fewer : (driver.used.erase connection).length ≤ driver.used.length :=
        (List.erase_sublist).length_le
      dsimp only
      omega
    · intro other
      have balanced := stock.balanced other
      simp only [List.map_append, List.map_cons, List.map_nil, List.count_append,
        List.count_singleton, List.count_erase]
      by_cases same : connection = other
      · subst same
        have present : 1 ≤ driver.used.count connection := List.one_le_count_iff.mpr out
        simp only [beq_self_eq_true, if_true]
        omega
      · simp only [beq_iff_eq, same, if_false]
        omega
    · intro entry listed given
      obtain before | now := List.mem_append.mp listed
      · exact stock.closedFirst entry before given
      · rw [List.mem_singleton.mp now] at given ⊢
        simpa using closed given
  unfold Driver.release
  dsimp only
  split
  · exact noted
  · split
    · exact noted.close connection
    · refine ⟨?_, ?_, ?_, noted.balanced, noted.closedFirst⟩
      · intro other
        have single := stock.single other
        simp only [List.count_append, List.count_singleton, List.count_erase]
        by_cases same : connection = other
        · subst same
          have present : 1 ≤ driver.used.count connection := List.one_le_count_iff.mpr out
          simp only [beq_self_eq_true, if_true]
          omega
        · simp only [beq_iff_eq, same, if_false]
          omega
      · rintro other (inside | inside)
        · obtain before | now := List.mem_append.mp inside
          · exact stock.known other (Or.inl before)
          · rw [List.mem_singleton.mp now]
            exact stock.known connection (Or.inr out)
        · exact stock.known other (Or.inr (List.mem_of_mem_erase inside))
      · have room := stock.room
        have one : 0 < driver.used.length := List.length_pos_of_mem out
        simp only [List.length_append, List.length_singleton, List.length_erase_of_mem out]
        omega

theorem discard (stock : Stock capacity driver) (out : connection ∈ driver.used) :
    Stock capacity (driver.discard connection) :=
  (stock.close connection).release out false true
    (fun _ => List.mem_append_right _ (List.mem_singleton.mpr rfl))

theorem drain (stock : Stock capacity driver) : Stock capacity driver.drain := by
  refine ⟨?_, ?_, ?_, stock.balanced, stock.closedFirst⟩
  · intro connection
    have single := stock.single connection
    simp only [Driver.drain, List.count_nil]
    omega
  · rintro connection (inside | inside)
    · cases inside
    · exact stock.known connection (Or.inr inside)
  · have room := stock.room
    simp only [Driver.drain, List.length_nil]
    omega

end Stock

/-- A return takes the connection off the used ones, whatever else happens to it. -/
theorem release_used (driver : Driver) (connection : Nat) (inTransaction discarded : Bool) :
    (driver.release connection inTransaction discarded).used = driver.used.erase connection := by
  unfold Driver.release
  dsimp only
  split
  · rfl
  · split <;> rfl

theorem discard_used (driver : Driver) (connection : Nat) :
    (driver.discard connection).used = driver.used.erase connection :=
  release_used (driver.close connection) connection false true

/-! ## The other books -/

/-- The driver's used connections are those in the hands of acquirers. -/
def Owned (used : List Nat) (checkouts : List Checkout) : Prop :=
  ∀ connection, used.count connection = (inHands checkouts).count connection

/-- Marked connections are configured, and so is every connection a caller has. -/
structure Sessions (marked configured : List Nat) (checkouts : List Checkout) : Prop where
  marks : ∀ connection ∈ marked, connection ∈ configured
  held : ∀ connection, .held connection ∈ checkouts → connection ∈ configured

/-- What each suspension of `_close` may rely on. -/
structure Shutdown (admitted : Int) (closed closing : Bool) (closer : Closer) : Prop where
  waiting : closer = .waiting → closing = true
  draining : closer = .draining → closing = true ∧ admitted = 0
  settled : closed = true → admitted = 0 ∧ closer = .absent

structure Invariant (capacity : Nat) (state : State) : Prop where
  bookings : Bookings Checkout.active .done capacity state.gate state.checkouts
    (!state.closed && !state.closing) state.returns
  stock : Stock capacity state.driver
  owned : Owned state.driver.used state.checkouts
  sessions : Sessions state.marked state.configured state.checkouts
  shutdown : Shutdown state.gate.admitted state.closed state.closing state.closer

theorem initial_holds (capacity : Nat) : Invariant capacity initial where
  bookings := ⟨PoolGate.Invariant.initial_holds capacity, rfl, rfl, by simp [initial]⟩
  stock := ⟨by simp [initial], by simp [initial], by simp [initial], by simp [initial],
    by simp [initial]⟩
  owned := by
    intro connection
    simp [initial, inHands, Slots.contents]
  sessions := ⟨by simp [initial], by simp [initial]⟩
  shutdown := ⟨nofun, nofun, nofun⟩

section Books

variable {used usedAfter marked configured : List Nat} {checkouts : List Checkout} {task : Nat}
  {old new : Checkout} {admitted : Int} {closed closing : Bool} {closer : Closer}

/-- Connections change hands in one slot. -/
theorem Owned.trade (owned : Owned used checkouts) (current : checkouts[task]? = some old)
    (balance : ∀ connection, usedAfter.count connection + old.connections.count connection =
      used.count connection + new.connections.count connection) :
    Owned usedAfter (checkouts.set task new) := by
  intro connection
  have exchanged := Slots.count_contents_set Checkout.connections current new connection
  have before := owned connection
  have balanced := balance connection
  simp only [inHands] at before ⊢
  omega

theorem Owned.mem (owned : Owned used checkouts) (current : checkouts[task]? = some old)
    {connection : Nat} (inHand : connection ∈ old.connections) : connection ∈ used := by
  have one : 1 ≤ old.connections.count connection := List.one_le_count_iff.mpr inHand
  have inside := Slots.count_le_contents Checkout.connections current connection
  have counted := owned connection
  simp only [inHands] at counted
  exact List.one_le_count_iff.mp (by omega)

/-- A slot is put to a use that holds nothing new. -/
theorem Sessions.set (sessions : Sessions marked configured checkouts)
    (held : ∀ connection, new = .held connection → connection ∈ configured) :
    Sessions marked configured (checkouts.set task new) := by
  refine ⟨sessions.marks, ?_⟩
  intro connection listed
  obtain before | now := List.mem_or_eq_of_mem_set listed
  · exact sessions.held connection before
  · exact held connection now.symm

/-- A slot is given back. -/
theorem Shutdown.finish (shutdown : Shutdown admitted closed closing closer)
    (occupied : 1 ≤ admitted) : Shutdown (admitted - 1) closed closing closer := by
  refine ⟨shutdown.waiting, ?_, ?_⟩
  · intro drains
    have empty := (shutdown.draining drains).2
    omega
  · intro finished
    have empty := (shutdown.settled finished).1
    omega

/-- A pool that accepts work admits one more acquirer. -/
theorem Shutdown.grant (shutdown : Shutdown admitted closed closing closer)
    (accepting : (!closed && !closing) = true) :
    Shutdown (admitted + 1) closed closing closer := by
  simp only [Bool.and_eq_true, Bool.not_eq_true'] at accepting
  obtain ⟨isOpen, idling⟩ := accepting
  refine ⟨shutdown.waiting, ?_, ?_⟩
  · intro drains
    have busy := (shutdown.draining drains).1
    rw [idling] at busy
    cases busy
  · intro finished
    rw [isOpen] at finished
    cases finished

end Books

/-! ## Steps of an acquirer -/

section Acquirers

variable {capacity : Nat} {state : State} {task connection : Nat} {old new : Checkout}

/-- An active acquirer goes on with its slot, and the driver's stock follows. -/
theorem put_holds (invariant : Invariant capacity state)
    (current : state.checkouts[task]? = some old) (before : old.active = true)
    (now : new.active = true) {driver : Driver} (stock : Stock capacity driver)
    (balance : ∀ connection, driver.used.count connection + old.connections.count connection =
      state.driver.used.count connection + new.connections.count connection)
    (held : ∀ connection, new = .held connection → connection ∈ state.configured) :
    Invariant capacity (({ state with driver := driver }).put task new) := by
  have unfinished : old ≠ .done := by
    rintro rfl
    cases before
  have notDone : new ≠ .done := by
    rintro rfl
    cases now
  exact ⟨invariant.bookings.replace current (now.trans before.symm) unfinished notDone, stock,
    invariant.owned.trade current balance, invariant.sessions.set held, invariant.shutdown⟩

/-- An active acquirer gives its slot back, with nothing in its hands. -/
theorem giveBack_holds (invariant : Invariant capacity state)
    (current : state.checkouts[task]? = some old) (active : old.active = true)
    {driver : Driver} (stock : Stock capacity driver)
    (balance : ∀ connection, driver.used.count connection + old.connections.count connection =
      state.driver.used.count connection) :
    Invariant capacity (({ state with driver := driver }).giveBack task) := by
  obtain ⟨returned, count, _⟩ := invariant.bookings.giveBack current active rfl
  have occupied := invariant.bookings.occupied current active
  refine ⟨returned, stock, invariant.owned.trade current balance,
    invariant.sessions.set nofun, ?_⟩
  have shutdown := invariant.shutdown.finish occupied
  rw [← count] at shutdown
  exact shutdown

/-- Nothing was checked out. -/
theorem giveBack_empty (invariant : Invariant capacity state)
    (current : state.checkouts[task]? = some old) (active : old.active = true)
    (empty : old.connections = []) : Invariant capacity (state.giveBack task) := by
  refine giveBack_holds invariant current active invariant.stock ?_
  intro other
  rw [empty, List.count_nil, Nat.add_zero]

/-- One connection less is out. -/
theorem erase_balance {used : List Nat} (out : connection ∈ used) (other : Nat) :
    (used.erase connection).count other + [connection].count other = used.count other := by
  rw [List.count_erase, List.count_singleton]
  by_cases same : connection = other
  · subst same
    have present : 1 ≤ used.count connection := List.one_le_count_iff.mpr out
    simp only [beq_self_eq_true, if_true]
    omega
  · simp only [beq_iff_eq, same, if_false]
    omega

section

variable (invariant : Invariant capacity state)
include invariant

theorem release_holds (current : state.checkouts[task]? = some (.held connection))
    (inTransaction : Bool) : Invariant capacity (state.release task connection inTransaction) := by
  have out := invariant.owned.mem current (List.mem_singleton.mpr rfl)
  refine giveBack_holds invariant current rfl
    (invariant.stock.release out inTransaction false nofun) ?_
  intro other
  rw [release_used]
  exact erase_balance out other

theorem discard_holds (current : state.checkouts[task]? = some old) (active : old.active = true)
    (inHand : old.connections = [connection]) :
    Invariant capacity (state.discard task connection) := by
  have out := invariant.owned.mem current (inHand ▸ List.mem_singleton.mpr rfl)
  refine giveBack_holds invariant current active (invariant.stock.discard out) ?_
  intro other
  rw [discard_used, inHand]
  exact erase_balance out other

/-- The caller gets a configured connection, or the connection is discarded. -/
theorem deliver_holds (current : state.checkouts[task]? = some old) (active : old.active = true)
    (inHand : old.connections = [connection]) (ready : connection ∈ state.configured)
    (observerFails : Bool) : Invariant capacity (state.deliver task connection observerFails) := by
  unfold State.deliver
  split
  · exact discard_holds invariant current active inHand
  · split
    · exact discard_holds invariant current active inHand
    · refine put_holds invariant current active rfl invariant.stock ?_ ?_
      · intro other
        rw [inHand]
        rfl
      · intro other same
        cases same
        exact ready

theorem ensureConfigured_holds (current : state.checkouts[task]? = some old)
    (active : old.active = true) (inHand : old.connections = [connection]) (observerFails : Bool) :
    Invariant capacity (state.ensureConfigured task connection observerFails) := by
  unfold State.ensureConfigured
  split
  · rename_i marked
    exact deliver_holds invariant current active inHand
      (invariant.sessions.marks connection marked) observerFails
  · refine put_holds invariant current active rfl invariant.stock ?_ nofun
    intro other
    rw [inHand]
    rfl

theorem finishConfiguration_holds
    (current : state.checkouts[task]? = some (.configuring connection)) (marks observerFails : Bool) :
    Invariant capacity (state.finishConfiguration task connection marks observerFails) := by
  have noted : Invariant capacity { state with
      configured := state.configured ++ [connection]
      marked := if marks then state.marked ++ [connection] else state.marked } := by
    refine ⟨invariant.bookings, invariant.stock, invariant.owned, ⟨?_, ?_⟩, invariant.shutdown⟩
    · intro other marked
      dsimp only at marked
      split at marked
      · obtain before | now := List.mem_append.mp marked
        · exact List.mem_append_left _ (invariant.sessions.marks other before)
        · exact List.mem_append_right _ now
      · exact List.mem_append_left _ (invariant.sessions.marks other marked)
    · intro other listed
      exact List.mem_append_left _ (invariant.sessions.held other listed)
  exact deliver_holds noted current rfl rfl
    (List.mem_append_right _ (List.mem_singleton.mpr rfl)) observerFails

/-- The driver hands out a connection, which expires, is probed, or is configured. -/
theorem checkOut_holds (current : state.checkouts[task]? = some .acquiring)
    (free : connection ∈ state.driver.free) (healthCheck expired observerFails : Bool) :
    Invariant capacity (state.checkOut healthCheck task connection expired observerFails) := by
  have inside : task < state.checkouts.length := (List.getElem?_eq_some_iff.mp current).1
  have stock := invariant.stock.take free
  have probing : Invariant capacity (({ state with
      driver := state.driver.take connection }).put task (.pinging connection)) := by
    refine put_holds invariant current rfl rfl stock ?_ nofun
    intro other
    simp only [Driver.take, List.count_append, Checkout.connections, List.count_nil]
    omega
  have out : connection ∈ (state.driver.take connection).used :=
    List.mem_append_right _ (List.mem_singleton.mpr rfl)
  unfold State.checkOut
  dsimp only
  split
  · refine put_holds invariant current rfl rfl (stock.discard out) ?_ nofun
    intro other
    have erased := erase_balance out other
    rw [discard_used]
    simp only [Driver.take, List.count_append, Checkout.connections, List.count_nil] at erased ⊢
    omega
  · split
    · exact probing
    · -- The slot's use in between does not matter: whatever follows replaces it.
      have same : ({ state with driver := state.driver.take connection }).ensureConfigured task
          connection observerFails =
          (({ state with driver := state.driver.take connection }).put task
            (.pinging connection)).ensureConfigured task connection observerFails := by
        simp only [State.ensureConfigured, State.deliver, State.discard, State.giveBack, State.put,
          List.set_set]
      rw [same]
      exact ensureConfigured_holds probing (List.getElem?_set_self inside) rfl rfl observerFails

end

end Acquirers

/-! ## Every step -/

section Steps

variable {capacity : Nat} {healthCheck : Bool} {state after : State} {task : Nat}

section

variable (invariant : Invariant capacity state)
include invariant

/-- A turn at the gate, and the start of the checkout that follows an admission. -/
theorem gateTurn_holds (current : state.checkouts[task]? = some .outside) {event : PoolGate.Event}
    (acts : event.actor = some task) {startFails : Bool}
    (turned : gateTurn capacity state task event startFails = some after) :
    Invariant capacity after := by
  simp only [gateTurn, Option.map_eq_some_iff] at turned
  obtain ⟨gate, stepped, rfl⟩ := turned
  obtain ⟨phase, waiting, free⟩ := invariant.bookings.waiting_of_inactive current rfl
  have move := PoolGate.step_moves invariant.bookings.fair stepped
  have fair := move.preserves invariant.bookings.fair
  rw [acts] at move
  obtain ⟨flag, ⟨away, count, slots⟩ | ⟨⟨ticket, shown⟩, accepting, count, slots⟩⟩ :=
    move.turn waiting free
  · have passed : Invariant capacity { state with gate := gate } := by
      refine ⟨invariant.bookings.pass fair flag slots, invariant.stock, invariant.owned,
        invariant.sessions, ?_⟩
      exact count ▸ invariant.shutdown
    split
    · rename_i ticket shown
      exact absurd shown (away ticket)
    · exact passed
  · have inside : task < state.checkouts.length := (List.getElem?_eq_some_iff.mp current).1
    have admitted : Invariant capacity (({ state with gate := gate }).put task .acquiring) := by
      refine ⟨invariant.bookings.grant fair flag current nofun nofun slots rfl, invariant.stock,
        invariant.owned.trade current (fun _ => rfl), invariant.sessions.set nofun, ?_⟩
      have shutdown := invariant.shutdown.grant
        (invariant.bookings.synchronized.symm.trans accepting)
      rw [← count] at shutdown
      exact shutdown
    simp only [shown]
    cases startFails with
    | false => exact admitted
    | true =>
      have same : ({ state with gate := gate }).giveBack task =
          (({ state with gate := gate }).put task .acquiring).giveBack task := by
        simp only [State.giveBack, State.put, List.set_set]
      simp only [if_true]
      rw [same]
      exact giveBack_empty admitted (List.getElem?_set_self inside) rfl rfl

theorem interrupt_holds {event : PoolGate.Event} (acts : event.actor = some task)
    (struck : interrupt capacity state task event = some after) : Invariant capacity after := by
  unfold interrupt at struck
  split at struck
  · rename_i current
    exact gateTurn_holds invariant current acts struck
  · rename_i current
    cases struck
    exact giveBack_empty invariant current rfl rfl
  · rename_i current
    cases struck
    exact giveBack_empty invariant current rfl rfl
  · rename_i connection current
    cases struck
    exact discard_holds invariant current rfl rfl
  · rename_i connection current
    cases struck
    exact discard_holds invariant current rfl rfl
  · cases struck

/-- The shutdown looks at the gate again. -/
theorem recheck_holds (closing : state.closing = true) (isOpen : state.closed = false) :
    Invariant capacity state.recheck := by
  refine ⟨invariant.bookings, invariant.stock, invariant.owned, invariant.sessions, ?_⟩
  refine ⟨fun _ => closing, ?_, ?_⟩
  · intro drains
    refine ⟨closing, ?_⟩
    simp only [State.recheck] at drains
    split at drains
    · assumption
    · cases drains
  · intro finished
    rw [State.recheck] at finished
    rw [isOpen] at finished
    cases finished

theorem startClose_holds (starting : state.closer = .starting) :
    Invariant capacity state.startClose := by
  have isOpen : state.closed = false := by
    cases closed : state.closed with
    | false => rfl
    | true =>
      have absent := (invariant.shutdown.settled closed).2
      rw [starting] at absent
      cases absent
  unfold State.startClose
  rw [if_neg (by simp only [isOpen, Bool.false_eq_true, not_false_eq_true])]
  have stopped : Invariant capacity { state with
      closing := true
      gate := ({ state.gate with accepting := false }).notifyAll
      driver := { state.driver with closing := true } } := by
    refine ⟨?_, ⟨invariant.stock.single, invariant.stock.known, invariant.stock.room,
      invariant.stock.balanced, invariant.stock.closedFirst⟩, invariant.owned, invariant.sessions,
      ⟨fun _ => rfl, fun draining => ?_, fun finished => ?_⟩⟩
    · have regulated := invariant.bookings.regulate false
      simp only [isOpen, Bool.not_true, Bool.and_false]
      exact regulated
    · rw [starting] at draining
      cases draining
    · rw [isOpen] at finished
      cases finished
  exact recheck_holds stopped rfl isOpen

theorem finishClose_holds (draining : state.closer = .draining) (ok : Bool) :
    Invariant capacity (state.finishClose ok) := by
  obtain ⟨closing, empty⟩ := invariant.shutdown.draining draining
  cases ok with
  | true =>
    refine ⟨?_, invariant.stock.drain, invariant.owned, invariant.sessions,
      ⟨nofun, nofun, fun _ => ⟨empty, rfl⟩⟩⟩
    have bookings := invariant.bookings
    rw [closing, Bool.not_true, Bool.and_false] at bookings
    exact bookings
  | false =>
    refine ⟨invariant.bookings, invariant.stock, invariant.owned, invariant.sessions,
      ⟨nofun, nofun, fun finished => ⟨empty, rfl⟩⟩⟩

/-- Every step keeps the invariant. -/
theorem step_holds {event : Event} (stepped : step capacity healthCheck state event = some after) :
    Invariant capacity after := by
  cases event <;> simp only [step] at stepped
  case arrive =>
    cases stepped
    refine ⟨invariant.bookings.arrive rfl (by simp), invariant.stock, ?_,
      ⟨invariant.sessions.marks, ?_⟩, invariant.shutdown⟩
    · intro connection
      simpa [inHands, Slots.contents, Checkout.connections] using invariant.owned connection
    · intro connection listed
      obtain before | now := List.mem_append.mp listed
      · exact invariant.sessions.held connection before
      · cases List.mem_singleton.mp now
  case resume task expired observerFails startFails =>
    split at stepped
    · rename_i current
      exact gateTurn_holds invariant current rfl stepped
    · rename_i current
      cases stepped
      exact put_holds invariant current rfl rfl invariant.stock (fun _ => rfl) (by simp)
    · cases stepped
  case cancel task => exact interrupt_holds invariant rfl stepped
  case expire task => exact interrupt_holds invariant rfl stepped
  case acquired task connection expired observerFails =>
    split at stepped
    · rename_i enabled
      cases stepped
      exact checkOut_holds invariant enabled.1 enabled.2 healthCheck expired observerFails
    · cases stepped
  case refused task =>
    split at stepped
    · rename_i current
      cases stepped
      exact giveBack_empty invariant current rfl rfl
    · cases stepped
  case pinged task ok observerFails =>
    split at stepped
    · rename_i connection current
      cases ok with
      | true =>
        cases stepped
        exact ensureConfigured_holds invariant current rfl rfl observerFails
      | false =>
        cases stepped
        exact discard_holds invariant current rfl rfl
    · cases stepped
  case configured task ok marks observerFails =>
    split at stepped
    · rename_i connection current
      cases ok with
      | true =>
        cases stepped
        exact finishConfiguration_holds invariant current marks observerFails
      | false =>
        cases stepped
        exact discard_holds invariant current rfl rfl
    · cases stepped
  case release task inTransaction =>
    split at stepped
    · rename_i connection current
      cases stepped
      exact release_holds invariant current inTransaction
    · cases stepped
  case discard task =>
    split at stepped
    · rename_i connection current
      cases stepped
      exact discard_holds invariant current rfl rfl
    · cases stepped
  case fill =>
    simp only [step, Option.map_eq_some_iff] at stepped
    obtain ⟨driver, filled, rfl⟩ := stepped
    obtain ⟨stock, used⟩ := invariant.stock.fill filled
    exact ⟨invariant.bookings, stock, used.symm ▸ invariant.owned, invariant.sessions,
      invariant.shutdown⟩
  case drop connection =>
    simp only [step, Option.map_eq_some_iff] at stepped
    obtain ⟨driver, dropped, rfl⟩ := stepped
    obtain ⟨stock, used⟩ := invariant.stock.drop dropped
    exact ⟨invariant.bookings, stock, used.symm ▸ invariant.owned, invariant.sessions,
      invariant.shutdown⟩
  case close =>
    split at stepped
    · rename_i idle
      cases stepped
      refine ⟨invariant.bookings, invariant.stock, invariant.owned, invariant.sessions,
        ⟨by simp, by simp, fun finished => ?_⟩⟩
      rw [idle.2] at finished
      cases finished
    · cases stepped
      exact invariant
  case startClose =>
    split at stepped
    · rename_i starting
      cases stepped
      exact startClose_holds invariant starting
    · cases stepped
  case recheck =>
    split at stepped
    · rename_i waiting
      cases stepped
      refine recheck_holds invariant (invariant.shutdown.waiting waiting) ?_
      cases closed : state.closed with
      | false => rfl
      | true =>
        have absent := (invariant.shutdown.settled closed).2
        rw [waiting] at absent
        cases absent
    · cases stepped
  case closeTimeout =>
    split at stepped
    · cases stepped
      exact ⟨invariant.bookings, invariant.stock, invariant.owned, invariant.sessions,
        ⟨by simp, by simp, fun finished => ⟨(invariant.shutdown.settled finished).1, rfl⟩⟩⟩
    · cases stepped
  case drained ok =>
    split at stepped
    · rename_i draining
      cases stepped
      exact finishClose_holds invariant draining ok
    · cases stepped

end

end Steps

/-! ## The promises -/

/-- Every connection in hand and every acquirer at the driver's `acquire` takes a slot. -/
theorem inHands_le_active (checkouts : List Checkout) :
    (inHands checkouts).length + checkouts.count .acquiring ≤
      checkouts.countP Checkout.active := by
  induction checkouts with
  | nil => exact Nat.le_refl 0
  | cons first rest ih =>
    simp only [inHands, Slots.contents, List.flatMap_cons, List.length_append] at *
    cases first <;>
      simp only [Checkout.connections, Checkout.active, List.length_nil, List.length_singleton,
        List.count_cons, List.countP_cons, beq_iff_eq, reduceCtorEq, if_false, if_true,
        Bool.false_eq_true] <;>
      omega

namespace Invariant

variable {capacity : Nat} {state : State}

section

variable (invariant : Invariant capacity state)
include invariant

theorem used_length : state.driver.used.length = (inHands state.checkouts).length :=
  (List.perm_iff_count.mpr invariant.owned).length_eq

theorem active_le : state.checkouts.countP Checkout.active ≤ capacity := by
  have counted := invariant.bookings.admitted_eq
  have bounded := invariant.bookings.fair.bounded
  omega

/-- An acquirer at the driver's `acquire` has a slot but no connection, so one is free or can be
opened. -/
theorem served (acquiring : .acquiring ∈ state.checkouts) :
    state.driver.free ≠ [] ∨ state.driver.free.length + state.driver.used.length < capacity := by
  have slots := inHands_le_active state.checkouts
  have one : 1 ≤ state.checkouts.count .acquiring := List.one_le_count_iff.mpr acquiring
  have bounded := invariant.active_le
  have length := invariant.used_length
  by_cases empty : state.driver.free = []
  · right
    rw [empty, List.length_nil]
    omega
  · exact Or.inl empty

theorem drained (closed : state.closed = true) :
    state.driver.used = [] ∧ ∀ checkout ∈ state.checkouts, checkout.active = false := by
  have empty := (invariant.shutdown.settled closed).1
  have counted := invariant.bookings.admitted_eq
  have none : state.checkouts.countP Checkout.active = 0 := by omega
  have slots := inHands_le_active state.checkouts
  have length := invariant.used_length
  constructor
  · exact List.eq_nil_of_length_eq_zero (by omega)
  · intro checkout listed
    simpa using List.countP_eq_zero.mp none checkout listed

theorem sound : Sound capacity state where
  counted := invariant.bookings.admitted_eq
  returnedOnce := invariant.bookings.returned
  balanced := by
    intro connection
    rw [← invariant.owned connection]
    exact invariant.stock.balanced connection
  exclusive := by
    intro connection
    rw [← invariant.owned connection]
    exact invariant.stock.single connection
  bounded := by
    have room := invariant.stock.room
    omega
  served := invariant.served
  configured := invariant.sessions.held
  closedFirst := invariant.stock.closedFirst
  drained := invariant.drained

end

end Invariant

/-- With any pool size and any interleaving of acquisitions, releases, discards and shutdowns,
under timeouts, cancellations, expired connections, failing probes, failing configurations and
failing observers, the pool keeps all its promises in every state reached. -/
theorem mariadb_pool_is_sound (capacity : Nat) (healthCheck : Bool) (events : List Event)
    (state : State) (ran : Runs.run (step capacity healthCheck) initial events = some state) :
    Sound capacity state :=
  (Runs.run_invariant (Invariant capacity)
    (fun _ _ _ holds stepped => step_holds holds stepped) (initial_holds capacity) ran).sound

/-- A pool of one with health checks: its first connection has expired when it is handed out, the
second is probed, configured and held while a shutdown waits, and the pool ends closed. -/
theorem mariadb_pool_is_sound_after_recycling :
    ∃ state, Runs.run (step 1 true) initial
        [.arrive, .resume 0 false false false, .fill, .acquired 0 0 true false,
          .resume 0 false false false, .fill, .acquired 0 1 false false, .pinged 0 true false,
          .configured 0 true true false, .close, .startClose, .release 0 false, .recheck,
          .drained true] = some state ∧
      state.driver.returned = [⟨0, true, true⟩, ⟨1, false, false⟩] ∧ state.closed = true ∧
      Sound 1 state :=
  ⟨_, rfl, rfl, rfl, mariadb_pool_is_sound 1 true
    [.arrive, .resume 0 false false false, .fill, .acquired 0 0 true false,
      .resume 0 false false false, .fill, .acquired 0 1 false false, .pinged 0 true false,
      .configured 0 true true false, .close, .startClose, .release 0 false, .recheck,
      .drained true] _ rfl⟩

end Snekql.MariadbPool
