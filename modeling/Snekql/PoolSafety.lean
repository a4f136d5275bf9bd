import Mathlib.Data.List.Perm.Basic
import Snekql.PoolInvariant

/-!
# What the connection pool guarantees

`Sound` collects the pool's promises: a bound on live connections, exclusive
ownership, one return for each admission, a complete shutdown, and quarantine
after a failed close. An opener breaks them when the clean-up of a partially
configured connection does not complete: the suppressed failure is neither
retained nor does it quarantine the pool. Along every run without such a step the
invariant holds, and with it all promises.
-/

namespace Snekql.SqlitePool

open PoolGate (Phase)

/-- Opened connections that are not physically closed, and those being opened. -/
def State.live (state : State) : Nat :=
  ((List.range state.opened).filter (fun connection => connection ∉ state.shut)).length +
    state.checkouts.countP Checkout.connecting

/-- The promises of the pool in one state. -/
structure Sound (capacity : Nat) (state : State) : Prop where
  /-- Live connections never exceed the pool size. -/
  bounded : state.live ≤ capacity
  /-- No connection is held by two acquirers, and no held connection is idle. -/
  exclusive : ∀ (task : Nat) connection, state.checkouts[task]? = some (.held connection) →
    connection ∉ state.idle ∧
      ∀ other : Nat, state.checkouts[other]? = some (.held connection) → other = task
  /-- The slots in use are those of the active acquirers. -/
  counted : state.gate.admitted = state.checkouts.countP Checkout.active
  /-- Exactly the finished acquirers have given their slot back, once each. -/
  returnedOnce : ∀ task, state.returns.count task =
    if state.checkouts[task]? = some .done then 1 else 0
  /-- After a successful shutdown every connection is closed and none is being opened. -/
  drained : state.closed = true →
    (∀ connection, connection < state.opened → connection ∈ state.shut) ∧
      state.checkouts.countP Checkout.connecting = 0
  /-- While a failed close has not been made good, nobody is admitted. -/
  quarantined : ∀ connection ∈ state.failed, connection ∉ state.shut →
    ∀ event next, step capacity state event = some next → next.gate.served = state.gate.served

/-- The acquirer awaits an opener that is closing a partially configured connection. -/
def State.awaitsCleanUp (state : State) (task : Nat) : Bool :=
  match state.checkouts[task]? with
  | some (.opening (.cleaning _)) => true
  | _ => false

/-- The acquirer's opener is closing a partially configured connection, whether or
not the acquirer is still there. -/
def State.cleansUp (state : State) (task : Nat) : Bool :=
  match state.checkouts[task]? with
  | some (.opening (.cleaning _)) => true
  | some (.reaping (.cleaning _)) => true
  | _ => false

/-- The clean-up of an opener neither fails nor is interrupted by the timeout or
cancellation of its acquirer. -/
def Clean (state : State) : Event → Prop
  | .opener task ok => ok = true ∨ state.cleansUp task = false
  | .cancel task => state.awaitsCleanUp task = false
  | .expire task => state.awaitsCleanUp task = false
  | _ => True

instance decidableClean (state : State) : (event : Event) → Decidable (Clean state event)
  | .opener task ok => inferInstanceAs (Decidable (ok = true ∨ state.cleansUp task = false))
  | .cancel task => inferInstanceAs (Decidable (state.awaitsCleanUp task = false))
  | .expire task => inferInstanceAs (Decidable (state.awaitsCleanUp task = false))
  | .arrive | .resume _ _ _ _ _ | .reap _ | .release _ | .discard _ | .discarded _ _ | .close
  | .startClose _ | .closeNext _ _ | .recheck _ | .closeTimeout | .stray _ => isTrue trivial

variable {connection : Nat} {opener : Opener} {event : PoolGate.Event} {round : Round}

section Operations

variable {capacity : Nat} {state base after : State} {task connection : Nat} {old new : Checkout}

/-- `gate.release()` once the books are otherwise balanced. -/
theorem giveBack_holds
    (admissions : Admissions capacity base.gate base.checkouts (!base.closed && !base.closing)
      base.returns)
    (current : base.checkouts[task]? = some old) (active : old.active = true)
    (ledger : Ledger base.idle base.pending (base.checkouts.set task .done) base.opened base.shut
      base.failed)
    (shutdown : Shutdown capacity base.idle base.pending (base.gate.admitted - 1) base.closed
      base.closing base.closer)
    (noStrays : base.strays = []) : Invariant capacity (base.giveBack task) := by
  obtain ⟨returned, count, -⟩ := admissions.giveBack current active
  refine ⟨returned, ledger, ?_, noStrays⟩
  rw [← count] at shutdown
  exact shutdown

section

variable (invariant : Invariant capacity state)
include invariant

/-- An active acquirer's slot passes to another use with the same connection. -/
theorem replace_holds (current : state.checkouts[task]? = some old) (before : old.active = true)
    (active : new.active = true) (same : new.connections = old.connections) :
    Invariant capacity (state.put task new) := by
  have unfinished : old ≠ .done := fun finished => by simp [finished, Checkout.active] at before
  have notDone : new ≠ .done := fun finished => by simp [finished, Checkout.active] at active
  exact ⟨invariant.admissions.replace current (active.trans before.symm) unfinished notDone,
    invariant.ledger.replace current same, invariant.shutdown, invariant.noStrays⟩

theorem occupied_of_active (current : state.checkouts[task]? = some old)
    (active : old.active = true) : 1 ≤ state.gate.admitted := by
  rw [invariant.admissions.admitted_eq]
  have positive : 0 < state.checkouts.countP Checkout.active :=
    List.countP_pos_iff.mpr ⟨old, List.mem_of_getElem? current, active⟩
  omega

/-- A slot that stands for no connection is given back. -/
theorem giveBack_empty (current : state.checkouts[task]? = some old) (active : old.active = true)
    (empty : old.connections = []) : Invariant capacity (state.giveBack task) := by
  have occupied := occupied_of_active invariant current active
  apply giveBack_holds invariant.admissions current active
  · exact invariant.ledger.replace current (by rw [empty]; rfl)
  · exact invariant.shutdown.finish occupied (by omega) (List.Sublist.refl _) id
      invariant.shutdown.quarantined
  · exact invariant.noStrays

theorem release_holds (current : state.checkouts[task]? = some (.held connection)) :
    Invariant capacity (state.release task connection) := by
  unfold State.release
  split
  · exact replace_holds invariant current rfl rfl rfl
  · have occupied := occupied_of_active invariant current rfl
    refine giveBack_holds invariant.admissions current rfl ?_ ?_ invariant.noStrays
    · apply invariant.ledger.trade current _ invariant.ledger.shutOpened invariant.ledger.retained
      intro other
      simp only [Checkout.connections, List.count_cons, List.count_nil]
      omega
    · exact invariant.shutdown.finish occupied (by simp; omega) (List.Sublist.refl _) id
        invariant.shutdown.quarantined

theorem closeDiscarded_holds (current : state.checkouts[task]? = some (.discarding connection))
    (ok : Bool) : Invariant capacity (state.closeDiscarded task connection ok) := by
  have occupied := occupied_of_active invariant current rfl
  have living : alive state.opened state.shut connection = 1 :=
    invariant.ledger.alive_of_held current (by simp [Checkout.connections])
  cases ok with
  | true =>
    change Invariant capacity ((state.shutDown connection).giveBack task)
    refine giveBack_holds invariant.admissions current rfl ?_ ?_ invariant.noStrays
    · apply invariant.ledger.trade current
      · intro other
        have ended := alive_shut living other
        simp only [State.shutDown, Checkout.connections, List.count_nil]
        omega
      · exact invariant.ledger.shutOpened_append living
      · intro lost failed
        obtain retained | closed := invariant.ledger.retained lost failed
        · exact Or.inl retained
        · exact Or.inr (List.mem_append_left _ closed)
    · exact invariant.shutdown.finish occupied (by simp [State.shutDown])
        (List.Sublist.refl _) id invariant.shutdown.quarantined
  | false =>
    change Invariant capacity
      ((({ state.recordFailure connection with
        pending := state.pending ++ [connection] }).setFlags state.closed true).giveBack task)
    refine giveBack_holds (invariant.admissions.regulate _) current rfl ?_ ?_ invariant.noStrays
    · apply invariant.ledger.trade current
      · intro other
        simp only [State.setFlags, State.recordFailure, Checkout.connections, List.count_append,
          List.count_nil]
        omega
      · exact invariant.ledger.shutOpened
      · intro lost failed
        obtain before | now := List.mem_append.mp failed
        · obtain retained | closed := invariant.ledger.retained lost before
          · exact Or.inl (List.mem_append_left _ retained)
          · exact Or.inr closed
        · exact Or.inl (List.mem_append_right _ now)
    · exact invariant.shutdown.finish occupied (by simp [State.setFlags, State.recordFailure]; omega)
        (List.sublist_append_left _ _) (fun _ => rfl) (fun _ => rfl)

/-- One driver call of an opener, awaited by its acquirer or by the reaper. -/
theorem runOpener_holds {wrap : Opener → Checkout} (active : ∀ opener, (wrap opener).active = true)
    (wraps : ∀ opener, (wrap opener).connections = opener.connections) {rest : Opener}
    (current : state.checkouts[task]? = some (wrap opener)) {ok : Bool}
    (clean : ok = true ∨ ∀ connection, opener ≠ .cleaning connection)
    (ran : state.runOpener ok opener = some (after, rest)) :
    Invariant capacity (after.put task (wrap rest)) := by
  cases opener with
  | connecting =>
    cases ok with
    | false =>
      cases ran
      exact replace_holds invariant current (active _) (active _) (by simp [wraps, Opener.connections])
    | true =>
      cases ran
      have unfinished : ∀ opener, wrap opener ≠ .done := fun opener finished => by
        have occupied := active opener
        simp [finished, Checkout.active] at occupied
      refine ⟨invariant.admissions.replace current (by simp [active]) (unfinished _)
        (unfinished _), ?_, invariant.shutdown, invariant.noStrays⟩
      apply invariant.ledger.trade current
      · intro other
        have born := alive_opened invariant.ledger.shutOpened other
        simp only [State.put, wraps, Opener.connections, List.count_nil]
        omega
      · exact fun closed inside => Nat.lt_succ_of_lt (invariant.ledger.shutOpened closed inside)
      · exact invariant.ledger.retained
  | configuring connection =>
    cases ok with
    | false | true =>
      cases ran
      exact replace_holds invariant current (active _) (active _) (by simp [wraps, Opener.connections])
  | cleaning connection =>
    obtain completed | never := clean
    · subst completed
      cases ran
      have unfinished : ∀ opener, wrap opener ≠ .done := fun opener finished => by
        have occupied := active opener
        simp [finished, Checkout.active] at occupied
      have living : alive state.opened state.shut connection = 1 :=
        invariant.ledger.alive_of_held current (by simp [wraps, Opener.connections])
      refine ⟨invariant.admissions.replace current (by simp [active]) (unfinished _)
        (unfinished _), ?_, invariant.shutdown, invariant.noStrays⟩
      apply invariant.ledger.trade current
      · intro other
        have ended := alive_shut living other
        simp only [State.put, State.shutDown, wraps, Opener.connections, List.count_nil]
        omega
      · exact invariant.ledger.shutOpened_append living
      · intro lost failed
        obtain retained | closed := invariant.ledger.retained lost failed
        · exact Or.inl retained
        · exact Or.inr (List.mem_append_left _ closed)
    · exact absurd rfl (never connection)
  | opened | raised => cases ran

/-- An acquirer gives up on an opener that is not cleaning up. -/
theorem abandon_holds (current : state.checkouts[task]? = some (.opening opener))
    (clean : ∀ connection, opener ≠ .cleaning connection) :
    Invariant capacity (state.abandon task opener) := by
  cases opener with
  | cleaning connection => exact absurd rfl (clean connection)
  | _ => exact replace_holds invariant current rfl rfl rfl

theorem resumeOpening_holds (current : state.checkouts[task]? = some (.opening opener))
    (finishFails : Bool) : Invariant capacity (state.resumeOpening task opener finishFails) := by
  cases opener with
  | opened connection =>
    simp only [State.resumeOpening]
    split
    · exact replace_holds invariant current rfl rfl rfl
    · cases finishFails <;> exact replace_holds invariant current rfl rfl rfl
  | _ => exact replace_holds invariant current rfl rfl rfl

theorem reap_holds (current : state.checkouts[task]? = some (.reaping opener))
    (reaped : state.reap task opener = some after) : Invariant capacity after := by
  cases opener with
  | opened connection =>
    cases reaped
    exact replace_holds invariant current rfl rfl rfl
  | raised =>
    cases reaped
    exact giveBack_empty invariant current rfl rfl
  | _ => cases reaped

end

end Operations

section Closing

variable {capacity : Nat} {state : State}

section

variable (invariant : Invariant capacity state)
include invariant

/-- The shutdown task ends without a result, or is about to start. -/
theorem detach_holds (closer : Closer)
    (quiet : closer = .absent ∨ (closer = .starting ∧ state.closed = false)) :
    Invariant capacity { state with closer := closer } := by
  have shutdown := invariant.shutdown
  refine ⟨invariant.admissions, invariant.ledger, ⟨shutdown.room, shutdown.quarantined, ?_, ?_,
    ?_, ?_⟩, invariant.noStrays⟩
  · intro waits
    obtain absent | ⟨starting, -⟩ := quiet <;> simp_all
  · intro round queue erred drains
    obtain absent | ⟨starting, -⟩ := quiet <;> simp_all
  · intro queue erred drains
    obtain absent | ⟨starting, -⟩ := quiet <;> simp_all
  · intro finished
    obtain absent | ⟨-, isOpen⟩ := quiet
    · obtain ⟨empty, noIdle, nothing, -⟩ := shutdown.settled finished
      exact ⟨empty, noIdle, nothing, absent⟩
    · exact absurd finished (by simp [isOpen])

/-- `_close` completes on an empty pool. -/
theorem complete_holds (empty : state.gate.admitted = 0) (noIdle : state.idle = [])
    (nothing : state.pending = []) : Invariant capacity state.complete := by
  refine ⟨invariant.admissions.regulate _, invariant.ledger, ⟨invariant.shutdown.room, ?_, ?_, ?_,
    ?_, ?_⟩, invariant.noStrays⟩
  · exact fun retained => absurd nothing retained
  · intro waits
    cases waits
  · intro round queue erred drains
    cases drains
  · intro queue erred drains
    cases drains
  · exact fun _ => ⟨empty, noIdle, nothing, rfl⟩

/-- `_close` times out: the pool accepts work again unless a handle is retained. -/
theorem closeTimedOut_holds (isOpen : state.closed = false) :
    Invariant capacity state.closeTimedOut := by
  refine ⟨invariant.admissions.regulate _, invariant.ledger, ⟨invariant.shutdown.room, ?_, ?_, ?_,
    ?_, ?_⟩, invariant.noStrays⟩
  · intro retained
    simpa [State.closeTimedOut, State.setFlags] using retained
  · intro waits
    cases waits
  · intro round queue erred drains
    cases drains
  · intro queue erred drains
    cases drains
  · intro finished
    exact absurd (isOpen.symm.trans finished) (by simp)

/-- `close_connections` takes over the idle connections. -/
theorem beginDrain_holds (isOpen : state.closed = false) (closing : state.closing = true)
    (last : round = .last → state.gate.admitted = 0) :
    Invariant capacity (state.beginDrain round) := by
  refine ⟨invariant.admissions, ⟨?_, invariant.ledger.shutOpened, ?_⟩, ⟨?_, fun _ => closing, ?_, ?_,
    ?_, ?_⟩, invariant.noStrays⟩
  · intro other
    have tracked := invariant.ledger.tracked other
    simp only [State.beginDrain, List.count_nil, List.count_append, List.count_reverse]
    omega
  · intro lost failed
    obtain retained | closed := invariant.ledger.retained lost failed
    · exact Or.inl (List.mem_append_left _ retained)
    · exact Or.inr closed
  · have room := invariant.shutdown.room
    simp only [State.beginDrain, List.length_nil, List.length_append, List.length_reverse]
    omega
  · exact fun _ => closing
  · intro shown queue erred drains
    cases drains
    exact ⟨closing, List.Sublist.refl _⟩
  · intro queue erred drains
    cases drains
    exact ⟨last rfl, rfl, fun _ => rfl⟩
  · intro finished
    exact absurd (isOpen.symm.trans finished) (by simp)

/-- A turn of the waiting loop. -/
theorem recheck_holds (isOpen : state.closed = false) (closing : state.closing = true)
    (expired : Bool) : Invariant capacity (state.recheck expired) := by
  unfold State.recheck
  split
  · next empty =>
    have drained := beginDrain_holds invariant isOpen closing (fun _ : Round.last = .last => empty)
    dsimp only
    split
    · next nothing => exact complete_holds drained empty rfl (by simpa using nothing)
    · exact drained
  · split
    · exact closeTimedOut_holds invariant isOpen
    · have shutdown := invariant.shutdown
      refine ⟨invariant.admissions, invariant.ledger, ⟨shutdown.room, shutdown.quarantined,
        fun _ => closing, ?_, ?_, ?_⟩, invariant.noStrays⟩
      · intro round queue erred drains
        cases drains
      · intro queue erred drains
        cases drains
      · intro finished
        exact absurd (isOpen.symm.trans finished) (by simp)

theorem afterDrain_holds (isOpen : state.closed = false) (closing : state.closing = true)
    {erred : Bool} (expired : Bool) (last : round = .last → erred = false →
      state.gate.admitted = 0 ∧ state.idle = [] ∧ state.pending = []) :
    Invariant capacity (state.afterDrain round erred expired) := by
  cases erred with
  | true => exact detach_holds invariant .absent (Or.inl rfl)
  | false =>
    cases round with
    | first => exact recheck_holds invariant isOpen closing expired
    | last =>
      obtain ⟨empty, noIdle, nothing⟩ := last rfl rfl
      exact complete_holds invariant empty noIdle nothing

theorem startClose_holds (expired : Bool) : Invariant capacity (state.startClose expired) := by
  unfold State.startClose
  split
  · exact detach_holds invariant .absent (Or.inl rfl)
  · next unfinished =>
    have isOpen : state.closed = false := by simpa using unfinished
    have shutdown := invariant.shutdown
    have flagged : Invariant capacity (state.setFlags state.closed true) := by
      refine ⟨invariant.admissions.regulate _, invariant.ledger, ⟨shutdown.room, fun _ => rfl,
        fun _ => rfl, ?_, shutdown.lastRound, shutdown.settled⟩, invariant.noStrays⟩
      exact fun round queue erred drains => ⟨rfl, (shutdown.draining round queue erred drains).2⟩
    have drained := beginDrain_holds flagged isOpen rfl (fun h : Round.first = .last => nomatch h)
    dsimp only
    split
    · exact afterDrain_holds drained isOpen rfl expired (fun h => nomatch h)
    · exact drained

/-- A shutdown task that is at work has not completed. -/
theorem open_of_busy (busy : state.closer ≠ .absent) : state.closed = false := by
  cases closed : state.closed with
  | false => rfl
  | true => exact absurd (invariant.shutdown.settled closed).2.2.2 busy

/-- A retained handle is closed, or stays retained. -/
theorem tried_holds {rest : List Nat} {erred : Bool}
    (drains : state.closer = .draining round (connection :: rest) erred) :
    Invariant capacity { state.shutDown connection with
        pending := state.pending.erase connection
        closer := .draining round rest erred } ∧
      Invariant capacity { state.recordFailure connection with
        closer := .draining round rest true } := by
  have shutdown := invariant.shutdown
  obtain ⟨closing, inside⟩ := shutdown.draining round _ erred drains
  have retained : connection ∈ state.pending := inside.subset List.mem_cons_self
  have living := invariant.ledger.alive_of_pending retained
  have isOpen : state.closed = false := open_of_busy invariant (by simp [drains])
  constructor
  · refine ⟨invariant.admissions, ⟨?_, invariant.ledger.shutOpened_append living, ?_⟩, ⟨?_,
      fun _ => closing, fun _ => closing, ?_, ?_, ?_⟩, invariant.noStrays⟩
    · intro other
      have tracked := invariant.ledger.tracked other
      have ended := alive_shut living other
      have counted : (state.pending.erase connection).count other + [connection].count other =
          state.pending.count other := by
        by_cases same : connection = other
        · subst same
          have positive := List.one_le_count_iff.mpr retained
          rw [List.count_erase_self]
          simp only [List.count_cons_self, List.count_nil]
          omega
        · rw [List.count_erase_of_ne (Ne.symm same)]
          simp [same]
      simp only [State.shutDown]
      omega
    · intro lost failed
      obtain waiting | closed := invariant.ledger.retained lost failed
      · by_cases same : lost = connection
        · exact Or.inr (by simp [State.shutDown, same])
        · exact Or.inl ((List.mem_erase_of_ne same).mpr waiting)
      · exact Or.inr (List.mem_append_left _ closed)
    · have room := shutdown.room
      have fewer := List.length_erase_le (a := connection) (l := state.pending)
      simp only [State.shutDown]
      omega
    · intro shown queue flag drained
      cases drained
      refine ⟨closing, ?_⟩
      have erased := inside.erase connection
      rwa [List.erase_cons_head] at erased
    · intro queue flag drained
      cases drained
      obtain ⟨empty, noIdle, all⟩ := shutdown.lastRound _ _ drains
      refine ⟨empty, noIdle, fun flawless => ?_⟩
      simp [all flawless]
    · intro finished
      exact absurd (isOpen.symm.trans finished) (by simp)
  · refine ⟨invariant.admissions, ⟨invariant.ledger.tracked, invariant.ledger.shutOpened, ?_⟩,
      ⟨shutdown.room, shutdown.quarantined, fun _ => closing, ?_, ?_, ?_⟩, invariant.noStrays⟩
    · intro lost failed
      obtain before | now := List.mem_append.mp failed
      · exact invariant.ledger.retained lost before
      · exact Or.inl (List.mem_singleton.mp now ▸ retained)
    · intro shown queue flag drained
      cases drained
      exact ⟨closing, (List.sublist_cons_self _ _).trans inside⟩
    · intro queue flag drained
      cases drained
      obtain ⟨empty, noIdle, -⟩ := shutdown.lastRound _ _ drains
      exact ⟨empty, noIdle, fun flawless => nomatch flawless⟩
    · intro finished
      exact absurd (isOpen.symm.trans finished) (by simp)

end

/-- What follows a drain does not look at where the shutdown task was suspended. -/
theorem afterDrain_closer (closer : Closer) (round : Round) (erred expired : Bool) :
    ({ state with closer := closer }).afterDrain round erred expired =
      state.afterDrain round erred expired := by
  cases erred <;> cases round <;> rfl

theorem closeNext_holds (invariant : Invariant capacity state) {rest : List Nat} {erred : Bool}
    (drains : state.closer = .draining round (connection :: rest) erred) (ok expired : Bool) :
    Invariant capacity (state.closeNext round connection rest erred ok expired) := by
  obtain ⟨succeeded, raised⟩ := tried_holds invariant drains
  have isOpen : state.closed = false := open_of_busy invariant (by simp [drains])
  have closing : state.closing = true := (invariant.shutdown.draining _ _ _ drains).1
  cases ok with
  | true =>
    simp only [State.closeNext, ↓reduceIte, Bool.not_true, Bool.or_false]
    split
    · next exhausted =>
      have none : rest = [] := by simpa using exhausted
      rw [← afterDrain_closer (.draining round rest erred)]
      apply afterDrain_holds succeeded isOpen closing
      rintro rfl flawless
      obtain ⟨empty, noIdle, all⟩ := succeeded.shutdown.lastRound _ _ rfl
      exact ⟨empty, noIdle, (all flawless).trans none⟩
    · exact succeeded
  | false =>
    simp only [State.closeNext, Bool.false_eq_true, ↓reduceIte, Bool.not_false, Bool.or_true]
    split
    · rw [← afterDrain_closer (.draining round rest true)]
      exact afterDrain_holds raised isOpen closing expired (fun _ flawless => nomatch flawless)
    · exact raised

end Closing

section Steps

variable {capacity : Nat} {state after : State} {task : Nat}

section

variable (invariant : Invariant capacity state)
include invariant

/-- The checkout that follows an admission in the same run. -/
theorem acquire_holds (current : state.checkouts[task]? = some .outside) {gate : PoolGate.State}
    (fair : PoolGate.Invariant capacity gate) (flag : gate.accepting = state.gate.accepting) (slots : gate.tasks.map Phase.holdsSlot =
      (state.gate.tasks.map Phase.holdsSlot).set task true)
    (count : gate.admitted = state.gate.admitted + 1) (accepting : state.gate.accepting = true)
    (startFails finishFails : Bool) : Invariant capacity (({ state with gate := gate }).acquire task startFails finishFails) := by
  have admissions : ∀ {new : Checkout}, new.active = true →
      Admissions capacity gate (state.checkouts.set task new) (!state.closed && !state.closing)
        state.returns := fun active =>
    invariant.admissions.grant fair flag current slots active
  have working : (!state.closed && !state.closing) = true :=
    invariant.admissions.synchronized.symm.trans accepting
  have bounded : state.gate.admitted + 1 ≤ capacity := count ▸ fair.bounded
  have shutdown := invariant.shutdown.grant working bounded
  rw [← count] at shutdown
  cases startFails with
  | true =>
    have inside : task < state.checkouts.length := (List.getElem?_eq_some_iff.mp current).1
    have same : ({ state with gate := gate }).giveBack task =
        State.giveBack { state with
          gate := gate
          checkouts := state.checkouts.set task (.opening .connecting) } task := by
      simp [State.giveBack]
    change Invariant capacity (({ state with gate := gate }).giveBack task)
    rw [same]
    refine giveBack_holds (admissions rfl) (List.getElem?_set_self inside) rfl ?_ ?_
      invariant.noStrays
    · simp only [List.set_set]
      exact invariant.ledger.replace current rfl
    · simp only [count, Int.add_sub_cancel]
      exact invariant.shutdown
  | false =>
    simp only [State.acquire, Bool.false_eq_true, ↓reduceIte]
    split
    · next connection rest available =>
      have claimed : ∀ {new : Checkout}, new.connections = [connection] →
          Ledger rest state.pending (state.checkouts.set task new) state.opened state.shut
            state.failed := by
        intro new same
        apply invariant.ledger.trade current _ invariant.ledger.shutOpened
          invariant.ledger.retained
        intro other
        rw [available, same, List.count_cons, List.count_cons]
        simp only [Checkout.connections, List.count_nil]
        omega
      rw [available] at shutdown
      cases finishFails with
      | true | false => exact ⟨admissions rfl, claimed rfl, shutdown, invariant.noStrays⟩
    · next none =>
      rw [none] at shutdown
      refine ⟨admissions rfl, invariant.ledger.replace current rfl, ?_, invariant.noStrays⟩
      change Shutdown capacity state.idle _ _ _ _ _
      exact none ▸ shutdown

/-- A turn at the gate, and the checkout that follows an admission. -/
theorem gateTurn_holds (current : state.checkouts[task]? = some .outside)
    (acts : event.actor = some task) {startFails finishFails : Bool}
    (turned : gateTurn capacity state task event startFails finishFails = some after) :
    Invariant capacity after := by
  simp only [gateTurn, Option.map_eq_some_iff] at turned
  obtain ⟨gate, stepped, rfl⟩ := turned
  obtain ⟨phase, waiting, free⟩ := invariant.admissions.waiting_of_inactive current rfl
  have move := PoolGate.step_moves invariant.admissions.fair stepped
  have fair := move.preserves invariant.admissions.fair
  rw [acts] at move
  obtain ⟨flag, ⟨away, count, slots⟩ | ⟨⟨ticket, shown⟩, accepting, count, slots⟩⟩ :=
    move.turn waiting free
  · have passed : Invariant capacity { state with gate := gate } := by
      refine ⟨invariant.admissions.pass fair flag slots, invariant.ledger, ?_, invariant.noStrays⟩
      exact count ▸ invariant.shutdown
    split
    · next ticket shown => exact absurd shown (away ticket)
    · exact passed
  · simp only [shown]
    exact acquire_holds invariant current fair flag slots count accepting startFails finishFails

theorem interrupt_holds (acts : event.actor = some task) (clean : state.awaitsCleanUp task = false)
    (struck : interrupt capacity state task event = some after) : Invariant capacity after := by
  simp only [interrupt] at struck
  split at struck
  · next current => exact gateTurn_holds invariant current acts struck
  · next opener current =>
    cases struck
    apply abandon_holds invariant current
    rintro connection rfl
    simp [State.awaitsCleanUp, current] at clean
  · cases struck

/-- Every clean step keeps the invariant. -/
theorem step_holds {event : Event} (clean : Clean state event)
    (stepped : step capacity state event = some after) : Invariant capacity after := by
  cases event <;> simp only [step] at stepped
  case arrive =>
    cases stepped
    refine ⟨invariant.admissions.arrive, ⟨?_, invariant.ledger.shutOpened,
      invariant.ledger.retained⟩, invariant.shutdown, invariant.noStrays⟩
    intro connection
    simpa [Slots.contents, Checkout.connections] using invariant.ledger.tracked connection
  case resume task expired observerFails startFails finishFails =>
    split at stepped
    · next current => exact gateTurn_holds invariant current rfl stepped
    · next connection current =>
      cases stepped
      exact resumeOpening_holds invariant current finishFails
    · next current =>
      cases stepped
      exact resumeOpening_holds invariant current finishFails
    · cases stepped
  case cancel task => exact interrupt_holds invariant rfl clean stepped
  case expire task => exact interrupt_holds invariant rfl clean stepped
  case opener task ok =>
    split at stepped
    · next opener current =>
      simp only [Option.map_eq_some_iff] at stepped
      obtain ⟨⟨middle, rest⟩, ran, rfl⟩ := stepped
      apply runOpener_holds invariant (fun _ => rfl) (fun _ => rfl) current _ ran
      apply clean.imp_right
      rintro never connection rfl
      simp [State.cleansUp, current] at never
    · next opener current =>
      simp only [Option.map_eq_some_iff] at stepped
      obtain ⟨⟨middle, rest⟩, ran, rfl⟩ := stepped
      apply runOpener_holds invariant (fun _ => rfl) (fun _ => rfl) current _ ran
      apply clean.imp_right
      rintro never connection rfl
      simp [State.cleansUp, current] at never
    · cases stepped
  case reap task =>
    split at stepped
    · next opener current => exact reap_holds invariant current stepped
    · cases stepped
  case release task =>
    split at stepped
    · next connection current =>
      cases stepped
      exact release_holds invariant current
    · cases stepped
  case discard task =>
    split at stepped
    · next connection current =>
      cases stepped
      exact replace_holds invariant current rfl rfl rfl
    · cases stepped
  case discarded task ok =>
    split at stepped
    · next connection current =>
      cases stepped
      exact closeDiscarded_holds invariant current ok
    · cases stepped
  case close =>
    split at stepped
    · next quiet =>
      cases stepped
      exact detach_holds invariant .starting (Or.inr ⟨rfl, quiet.2⟩)
    · cases stepped
      exact invariant
  case startClose expired =>
    split at stepped
    · cases stepped
      exact startClose_holds invariant expired
    · cases stepped
  case closeNext ok expired =>
    split at stepped
    · next round connection rest erred drains =>
      cases stepped
      exact closeNext_holds invariant drains ok expired
    · cases stepped
  case recheck expired =>
    split at stepped
    · next waits =>
      cases stepped
      exact recheck_holds invariant (open_of_busy invariant (by simp [waits]))
        (invariant.shutdown.waiting waits) expired
    · cases stepped
  case closeTimeout =>
    split at stepped
    · next waits =>
      cases stepped
      exact closeTimedOut_holds invariant (open_of_busy invariant (by simp [waits]))
    · cases stepped
  case stray connection =>
    simp [step, invariant.noStrays] at stepped

end

end Steps

section Service

variable {capacity : Nat} {state after : State} {task : Nat}

@[simp] theorem served_giveBack (state : State) (task : Nat) :
    (state.giveBack task).gate.served = state.gate.served := by
  simp only [State.giveBack, PoolGate.State.release, PoolGate.State.lockFor]
  split <;> rfl

@[simp] theorem served_put (state : State) (task : Nat) (checkout : Checkout) :
    (state.put task checkout).gate.served = state.gate.served := rfl

@[simp] theorem served_deliver (state : State) (task connection : Nat) (observerFails : Bool) :
    (state.deliver task connection observerFails).gate.served = state.gate.served := by
  cases observerFails <;> rfl

@[simp] theorem served_acquire (state : State) (task : Nat) (startFails finishFails : Bool) :
    (state.acquire task startFails finishFails).gate.served = state.gate.served := by
  unfold State.acquire
  split
  · exact served_giveBack state task
  · split
    · exact served_deliver _ task _ finishFails
    · rfl

@[simp] theorem served_recheck (state : State) (expired : Bool) :
    (state.recheck expired).gate.served = state.gate.served := by
  simp only [State.recheck]
  split
  · split <;> rfl
  · split <;> rfl

@[simp] theorem served_afterDrain (state : State) (round : Round) (erred expired : Bool) :
    (state.afterDrain round erred expired).gate.served = state.gate.served := by
  cases erred with
  | true => rfl
  | false =>
    cases round with
    | first => exact served_recheck state expired
    | last => rfl

theorem served_runOpener {ok : Bool} {rest : Opener}
    (ran : state.runOpener ok opener = some (after, rest)) :
    after.gate.served = state.gate.served := by
  cases opener <;> cases ok <;> cases ran <;> rfl

theorem served_gateTurn (fair : PoolGate.Invariant capacity state.gate)
    (refusing : state.gate.accepting = false) {startFails finishFails : Bool}
    (turned : gateTurn capacity state task event startFails finishFails = some after) :
    after.gate.served = state.gate.served := by
  simp only [gateTurn, Option.map_eq_some_iff] at turned
  obtain ⟨gate, stepped, rfl⟩ := turned
  have same := (PoolGate.step_moves fair stepped).served_closed refusing
  split
  · rw [served_acquire]
    exact same
  · exact same

theorem served_interrupt (fair : PoolGate.Invariant capacity state.gate)
    (refusing : state.gate.accepting = false)
    (struck : interrupt capacity state task event = some after) :
    after.gate.served = state.gate.served := by
  simp only [interrupt] at struck
  split at struck
  · exact served_gateTurn fair refusing struck
  · next opener current =>
    cases struck
    cases opener <;> rfl
  · cases struck

/-- A pool that refuses work admits nobody, whatever happens next. -/
theorem served_step (fair : PoolGate.Invariant capacity state.gate)
    (refusing : state.gate.accepting = false) {event : Event}
    (stepped : step capacity state event = some after) :
    after.gate.served = state.gate.served := by
  cases event <;> simp only [step] at stepped
  case arrive =>
    cases stepped
    rfl
  case resume task expired observerFails startFails finishFails =>
    split at stepped
    · exact served_gateTurn fair refusing stepped
    · cases stepped
      simp only [State.resumeOpening]
      split <;> simp
    · cases stepped
      rfl
    · cases stepped
  case cancel task => exact served_interrupt fair refusing stepped
  case expire task => exact served_interrupt fair refusing stepped
  case opener task ok =>
    split at stepped
    · simp only [Option.map_eq_some_iff] at stepped
      obtain ⟨⟨middle, rest⟩, ran, rfl⟩ := stepped
      exact (served_put middle task _).trans (served_runOpener ran)
    · simp only [Option.map_eq_some_iff] at stepped
      obtain ⟨⟨middle, rest⟩, ran, rfl⟩ := stepped
      exact (served_put middle task _).trans (served_runOpener ran)
    · cases stepped
  case reap task =>
    split at stepped
    · next opener current =>
      cases opener <;> cases stepped
      · rfl
      · exact served_giveBack state task
    · cases stepped
  case release task =>
    split at stepped
    · cases stepped
      unfold State.release
      split
      · rfl
      · exact served_giveBack _ task
    · cases stepped
  case discard task =>
    split at stepped
    · cases stepped
      rfl
    · cases stepped
  case discarded task ok =>
    split at stepped
    · cases stepped
      cases ok with
      | true | false => exact served_giveBack _ task
    · cases stepped
  case close =>
    split at stepped <;> cases stepped <;> rfl
  case startClose expired =>
    split at stepped
    · cases stepped
      simp only [State.startClose]
      split
      · rfl
      · split
        · exact served_afterDrain _ .first false expired
        · rfl
    · cases stepped
  case closeNext ok expired =>
    split at stepped
    · cases stepped
      simp only [State.closeNext]
      split
      · rw [served_afterDrain]
        cases ok <;> rfl
      · cases ok <;> rfl
    · cases stepped
  case recheck expired =>
    split at stepped
    · cases stepped
      exact served_recheck state expired
    · cases stepped
  case closeTimeout =>
    split at stepped <;> cases stepped
    rfl
  case stray connection =>
    split at stepped <;> cases stepped
    rfl

end Service

section Guarantees

variable {capacity : Nat} {state : State}

/-- An acquirer stands for at most one connection, open or being opened, and only
while its slot is in use. -/
theorem load_le_active (checkouts : List Checkout) :
    (Slots.contents Checkout.connections checkouts).length +
      checkouts.countP Checkout.connecting ≤ checkouts.countP Checkout.active := by
  induction checkouts with
  | nil => simp [Slots.contents]
  | cons first rest ih =>
    have one : first.connections.length + first.connecting.toNat ≤ first.active.toNat := by
      cases first with
      | opening opener | reaping opener =>
        cases opener <;> simp [Checkout.connections, Opener.connections,
          Checkout.connecting, Checkout.active]
      | _ => simp [Checkout.connections, Checkout.connecting, Checkout.active]
    simp only [Slots.contents, List.flatMap_cons, List.length_append, List.countP_cons] at *
    cases connecting : first.connecting <;> cases active : first.active <;> simp_all <;> omega

section

variable (invariant : Invariant capacity state)
include invariant

/-- The live connections are those of the ledger. -/
theorem live_length :
    ((List.range state.opened).filter (fun connection => connection ∉ state.shut)).length =
      state.idle.length + state.pending.length +
        (Slots.contents Checkout.connections state.checkouts).length := by
  have same : ((List.range state.opened).filter (fun connection => connection ∉ state.shut)).Perm
      (state.idle ++ state.pending ++ Slots.contents Checkout.connections state.checkouts) := by
    apply List.perm_iff_count.mpr
    intro connection
    rw [List.Nodup.count (List.nodup_range.filter _), List.count_append, List.count_append,
      invariant.ledger.tracked connection]
    simp [alive]
  rw [same.length_eq, List.length_append, List.length_append]

theorem Invariant.bounded : state.live ≤ capacity := by
  have load := load_le_active state.checkouts
  have room := invariant.shutdown.room
  have counted := invariant.admissions.admitted_eq
  rw [State.live, live_length invariant]
  omega

theorem Invariant.exclusive {task : Nat} (held : state.checkouts[task]? = some (.held connection)) :
    connection ∉ state.idle ∧
      ∀ other : Nat, state.checkouts[other]? = some (.held connection) → other = task := by
  have own : connection ∈ (Checkout.held connection).connections := List.mem_singleton_self _
  have tracked := invariant.ledger.tracked connection
  have once := alive_le_one state.opened state.shut connection
  constructor
  · intro idle
    have one := List.one_le_count_iff.mpr idle
    have another := Slots.count_le_contents Checkout.connections held connection
    have single := List.one_le_count_iff.mpr own
    omega
  · intro other shared
    by_contra apart
    have twice := Slots.two_le_contents Checkout.connections held shared (Ne.symm apart) own own
    omega

theorem Invariant.drained (closed : state.closed = true) :
    (∀ connection, connection < state.opened → connection ∈ state.shut) ∧
      state.checkouts.countP Checkout.connecting = 0 := by
  obtain ⟨empty, noIdle, nothing, -⟩ := invariant.shutdown.settled closed
  have load := load_le_active state.checkouts
  have counted := invariant.admissions.admitted_eq
  have none : Slots.contents Checkout.connections state.checkouts = [] :=
    List.length_eq_zero_iff.mp (by omega)
  refine ⟨fun connection opened => ?_, by omega⟩
  have tracked := invariant.ledger.tracked connection
  rw [noIdle, nothing, none] at tracked
  by_contra living
  simp [alive, opened, living] at tracked

theorem Invariant.quarantined (failed : connection ∈ state.failed)
    (living : connection ∉ state.shut) {event : Event} {next : State}
    (stepped : step capacity state event = some next) : next.gate.served = state.gate.served := by
  have retained : connection ∈ state.pending :=
    (invariant.ledger.retained connection failed).resolve_right living
  have closing := invariant.shutdown.quarantined (List.ne_nil_of_mem retained)
  have refusing : state.gate.accepting = false := by
    rw [invariant.admissions.synchronized, closing, Bool.not_true, Bool.and_false]
  exact served_step invariant.admissions.fair refusing stepped

end

end Guarantees

end Snekql.SqlitePool
